namespace P4Control.Toml

/-!
# Text in quotes

Text is quoted in two styles: basic text stands between double quotes and knows escapes,
literal text stands between single quotes and knows none.  Either style has a form with
three quotes that may run over several lines.

* `unescape` — the text that basic quotes hold, given what stands between them.
* `splitBasic`, `splitLiteral`, `splitBlock` — where a quoted text ends.
* `writeBasic` — text in basic quotes, every character in its shortest form.
-/

/-- Whether a character may stand in a comment and, where it has no other meaning there,
between quotes: everything but the controls, and the tab. -/
def isPlain (c : Char) : Bool := c = '\t' || (0x20 ≤ c.toNat && c.toNat != 0x7F)

/-- Whether a character is a blank within a line. -/
def isBlank (c : Char) : Bool := c = ' ' || c = '\t'

/-! ### Hexadecimal digits -/

/-- The value of a hexadecimal digit of either case. -/
def hexValue? (c : Char) : Option Nat :=
  if '0' ≤ c ∧ c ≤ '9' then some (c.toNat - 48)
  else if 'a' ≤ c ∧ c ≤ 'f' then some (c.toNat - 87)
  else if 'A' ≤ c ∧ c ≤ 'F' then some (c.toNat - 55)
  else none

/-- The number that hexadecimal digits spell, most significant digit first. -/
def hexNumber? (digits : List Char) : Option Nat :=
  digits.foldlM (fun acc c => (hexValue? c).map (16 * acc + ·)) 0

/-- The character whose number the digits spell; surrogates and numbers beyond the last
character are none. -/
def charOfHex? (digits : List Char) : Option Char := do
  let n ← hexNumber? digits
  if n.isValidChar then some (Char.ofNat n) else none

/-- An upper-case hexadecimal digit. -/
def hexDigit (n : Nat) : Char := if n < 10 then Char.ofNat (48 + n) else Char.ofNat (55 + n)

/-! ### Basic text -/

/-- The character that a letter stands for behind a backslash. -/
def unletter? : Char → Option Char
  | '"' => some '"'
  | '\\' => some '\\'
  | 'b' => some '\x08'
  | 't' => some '\t'
  | 'n' => some '\n'
  | 'f' => some '\x0c'
  | 'r' => some '\r'
  | _ => none

/-- The letter that stands for a character behind a backslash. -/
def letter? : Char → Option Char
  | '"' => some '"'
  | '\\' => some '\\'
  | '\x08' => some 'b'
  | '\t' => some 't'
  | '\n' => some 'n'
  | '\x0c' => some 'f'
  | '\r' => some 'r'
  | _ => none

/-- The text that basic quotes hold, given what stands between them.  Line ends may stand
for themselves only if `lines` is set. -/
def unescape (lines : Bool) : List Char → Option (List Char)
  | [] => some []
  | '\\' :: r => match r with
    | [] => none
    | 'u' :: a :: b :: c :: d :: r => do
      let x ← charOfHex? [a, b, c, d]
      (unescape lines r).map (x :: ·)
    | 'U' :: a :: b :: c :: d :: e :: f :: g :: h :: r => do
      let x ← charOfHex? [a, b, c, d, e, f, g, h]
      (unescape lines r).map (x :: ·)
    | l :: r => do
      let x ← unletter? l
      (unescape lines r).map (x :: ·)
  | c :: r => if isPlain c ∨ (lines ∧ c = '\n') then (unescape lines r).map (c :: ·) else none

/-- What stands before the double quote that ends a basic text, and what comes after it.  A
quote behind a backslash does not end the text. -/
def splitBasic : List Char → Option (List Char × List Char)
  | [] => none
  | '"' :: r => some ([], r)
  | '\\' :: c :: r => (splitBasic r).map fun (inner, rest) => ('\\' :: c :: inner, rest)
  | c :: r => (splitBasic r).map fun (inner, rest) => (c :: inner, rest)

/-- Reads basic text behind its opening quote. -/
def readBasic (s : List Char) : Option (List Char × List Char) := do
  let (inner, rest) ← splitBasic s
  let text ← unescape false inner
  some (text, rest)

/-- How a character is written between double quotes: by its letter if it has one, else by
itself, or by its number if it is a control. -/
def escape (c : Char) : List Char :=
  match letter? c with
  | some l => ['\\', l]
  | none =>
    if isPlain c then [c]
    else ['\\', 'u', '0', '0', hexDigit (c.toNat / 16 % 16), hexDigit (c.toNat % 16)]

/-- Text in double quotes. -/
def writeBasic (text : List Char) : List Char := '"' :: text.flatMap escape ++ ['"']

/-! ### Literal text -/

/-- What stands before the single quote that ends a literal text, and what comes after it. -/
def splitLiteral : List Char → Option (List Char × List Char)
  | [] => none
  | '\'' :: r => some ([], r)
  | c :: r => (splitLiteral r).map fun (inner, rest) => (c :: inner, rest)

/-- Reads literal text behind its opening quote. -/
def readLiteral (s : List Char) : Option (List Char × List Char) := do
  let (inner, rest) ← splitLiteral s
  if inner.all isPlain then some (inner, rest) else none

/-- Text in single quotes. -/
def writeLiteral (text : List Char) : List Char := '\'' :: text ++ ['\'']

/-! ### Text over several lines -/

/-- What stands before three closing quotes, and what comes after them.  Up to two more
quotes at the end belong to the text; with `escapes`, a quote behind a backslash does not
count. -/
def splitBlock (quote : Char) (escapes : Bool) : List Char → Option (List Char × List Char)
  | [] => none
  | c :: r =>
    if escapes ∧ c = '\\' then
      match r with
      | [] => none
      | d :: r => (splitBlock quote escapes r).map fun (inner, rest) => (c :: d :: inner, rest)
    else if (c :: r).take 3 = [quote, quote, quote] then
      let extra := ((r.drop 2).take 2).takeWhile (· = quote)
      some (extra, (r.drop 2).drop extra.length)
    else (splitBlock quote escapes r).map fun (inner, rest) => (c :: inner, rest)

/-- Every line end as a single line feed; a carriage return elsewhere is refused. -/
def lineFeeds : List Char → Option (List Char)
  | [] => some []
  | '\r' :: '\n' :: r => (lineFeeds r).map ('\n' :: ·)
  | c :: r => if c = '\r' then none else (lineFeeds r).map (c :: ·)

/-- Takes out each backslash at the end of a line together with the blanks and line ends
that follow it; `skipping` tells that one has just been taken out. -/
def joinLines (skipping : Bool) : List Char → Option (List Char)
  | [] => some []
  | c :: r =>
    if skipping ∧ (isBlank c ∨ c = '\n') then joinLines true r
    else if c = '\\' then
      match r with
      | [] => none
      | d :: r' =>
        if isBlank d ∨ d = '\n' then
          if ((d :: r').dropWhile isBlank).head? = some '\n' then joinLines true r' else none
        else (joinLines false r').map fun rest => '\\' :: d :: rest
    else (joinLines false r).map (c :: ·)

/-- Drops the line end that may follow opening quotes. -/
def dropFirstLineEnd : List Char → List Char
  | '\n' :: r => r
  | r => r

/-- Reads basic text over several lines behind its three opening quotes. -/
def readBasicBlock (s : List Char) : Option (List Char × List Char) := do
  let (inner, rest) ← splitBlock '"' true s
  let inner ← lineFeeds inner
  let inner ← joinLines false (dropFirstLineEnd inner)
  let text ← unescape true inner
  some (text, rest)

/-- Reads literal text over several lines behind its three opening quotes. -/
def readLiteralBlock (s : List Char) : Option (List Char × List Char) := do
  let (inner, rest) ← splitBlock '\'' false s
  let inner ← lineFeeds inner
  let text := dropFirstLineEnd inner
  if text.all fun c => isPlain c || c = '\n' then some (text, rest) else none

/-- Reads text in any of the four styles. -/
def readText : List Char → Option (List Char × List Char)
  | '"' :: '"' :: '"' :: r => readBasicBlock r
  | '"' :: r => readBasic r
  | '\'' :: '\'' :: '\'' :: r => readLiteralBlock r
  | '\'' :: r => readLiteral r
  | _ => none

end P4Control.Toml
