import P4Control.Text.Hidden

namespace P4Control.Text

/-!
# Quoted text

Text in double quotes, safe to show on one line: quotes, backslashes and the usual
controls have short escapes, and other characters that a reader could not see are written
by their number in hexadecimal.

* `escape` — how one character is written.
* `quoted` — a whole text in quotes.
-/

/-- The lower-case hexadecimal digits of a number, without leading zeros. -/
def hex (n : Nat) : List Char := Nat.toDigits 16 n

/-- How a character is written inside quotes. -/
def escape (c : Char) : List Char :=
  match c with
  | '\x00' => ['\\', '0']
  | '\t' => ['\\', 't']
  | '\n' => ['\\', 'n']
  | '\r' => ['\\', 'r']
  | '\x22' => ['\\', '\x22']
  | '\x5c' => ['\\', '\x5c']
  | c => if isHidden c then ['\\', 'u', '\x7b'] ++ hex c.toNat ++ ['\x7d'] else [c]

/-- A text in double quotes, every character as `escape` writes it. -/
def quoted (s : String) : String :=
  String.ofList ('\x22' :: s.toList.flatMap escape ++ ['\x22'])

end P4Control.Text
