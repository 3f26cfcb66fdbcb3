import P4Control.Datum
import P4Control.Toml.Quoted

namespace P4Control.Toml

/-!
# Numbers

An integer is decimal with an optional sign and no superfluous leading zero, or hexadecimal,
octal or binary behind `0x`, `0o` or `0b`; it has to fit 64 signed bits.  A real number has a
fraction or an exponent, or is one of the words `inf` and `nan`.  Between two digits there
may be one underscore.

* `digitsValue` — the number that digits of a base spell.
* `readInteger`, `readReal` — the two kinds of numbers at the head of a text.
* `writeNatural` — a number in decimal.
-/

/-- The least integer that a document cannot hold, two to the power of 63. -/
def integerBound : Int := 0x8000000000000000

/-- Whether a character is a decimal digit. -/
def isDigit (c : Char) : Bool := '0' ≤ c && c ≤ '9'

/-- Whether a character is a digit of the given base; letters of either case count as the
digits from ten on. -/
def isDigitOf (base : Nat) (c : Char) : Bool :=
  match hexValue? c with
  | some n => decide (n < base)
  | none => false

/-- The number that digits of a base spell, most significant digit first. -/
def digitsValue (base : Nat) (digits : List Char) : Nat :=
  digits.foldl (fun acc c => base * acc + (hexValue? c).getD 0) 0

/-- The digits at the head of a text that goes on after a digit, underscores between two
digits left out. -/
def moreDigits (base : Nat) : List Char → List Char × List Char
  | '_' :: c :: r =>
    if isDigitOf base c then
      let (digits, rest) := moreDigits base r
      (c :: digits, rest)
    else ([], '_' :: c :: r)
  | c :: r =>
    if isDigitOf base c then
      let (digits, rest) := moreDigits base r
      (c :: digits, rest)
    else ([], c :: r)
  | [] => ([], [])

/-- At least one digit, underscores between two digits left out. -/
def readDigits (base : Nat) : List Char → Option (List Char × List Char)
  | c :: r =>
    if isDigitOf base c then
      let (digits, rest) := moreDigits base r
      some (c :: digits, rest)
    else none
  | [] => none

/-- The digits of a decimal number without superfluous leading zeros. -/
def readWhole : List Char → Option (List Char × List Char)
  | '0' :: r => some (['0'], r)
  | r => readDigits 10 r

/-- A sign, when there is one; the flag tells a minus. -/
def readSign : List Char → Bool × List Char
  | '-' :: r => (true, r)
  | '+' :: r => (false, r)
  | r => (false, r)

/-- The integer with a sign and a magnitude, when it fits 64 signed bits. -/
def integerOf? (negative : Bool) (magnitude : Nat) : Option Int :=
  let n : Int := if negative then -magnitude else magnitude
  if -integerBound ≤ n ∧ n < integerBound then some n else none

/-- Reads an integer. -/
def readInteger : List Char → Option (Int × List Char)
  | '0' :: 'x' :: r => do
    let (digits, rest) ← readDigits 16 r
    some (← integerOf? false (digitsValue 16 digits), rest)
  | '0' :: 'o' :: r => do
    let (digits, rest) ← readDigits 8 r
    some (← integerOf? false (digitsValue 8 digits), rest)
  | '0' :: 'b' :: r => do
    let (digits, rest) ← readDigits 2 r
    some (← integerOf? false (digitsValue 2 digits), rest)
  | s => do
    let (negative, r) := readSign s
    let (digits, rest) ← readWhole r
    some (← integerOf? negative (digitsValue 10 digits), rest)

/-! ### Real numbers -/

/-- The fraction of a real number behind its whole part, when there is one. -/
def readFraction : List Char → Option (List Char × List Char)
  | '.' :: r => readDigits 10 r
  | _ => none

/-- The exponent of a real number, when there is one. -/
def readExponent : List Char → Option (Int × List Char)
  | c :: r =>
    if c = 'e' ∨ c = 'E' then do
      let (negative, r) := readSign r
      let (digits, rest) ← readDigits 10 r
      let magnitude : Int := digitsValue 10 digits
      some (if negative then -magnitude else magnitude, rest)
    else none
  | [] => none

/-- Half way between the greatest double and the power of two above it; from here on a
number rounds to infinity. -/
def roundsToInfinityFrom : Nat := Nat.pow 2 1024 - Nat.pow 2 970

/-- Whether digits times a power of ten are too great for a double.  Where the number of
digits does not settle it, the exact values are compared. -/
def overflows (digits : List Char) (exponent : Int) : Bool :=
  let significant := digits.dropWhile (· = '0')
  let size : Int := significant.length + exponent
  if significant.isEmpty ∨ size < 308 then false
  else if 310 < size then true
  else
    roundsToInfinityFrom * Nat.pow 10 (-exponent).toNat
      ≤ digitsValue 10 significant * Nat.pow 10 exponent.toNat

/-- Reads a word that stands for a real number. -/
def readRealWord : List Char → Option (List Char)
  | 'i' :: 'n' :: 'f' :: r => some r
  | 'n' :: 'a' :: 'n' :: r => some r
  | _ => none

/-- Reads a real number, and refuses one that is too great. -/
def readReal (s : List Char) : Option (List Char) :=
  let (negative, r) := readSign s
  match readWhole r with
  | none => readRealWord r
  | some (whole, r) =>
    let (fraction, afterFraction) := (readFraction r).getD ([], r)
    match readExponent afterFraction with
    | some (exponent, rest) =>
      if !negative && overflows (whole ++ fraction) (exponent - fraction.length) then none else some rest
    | none =>
      if fraction.isEmpty || (!negative && overflows (whole ++ fraction) (-fraction.length)) then none
      else some afterFraction

/-! ### Writing -/

/-- A number in decimal. -/
def writeNatural (n : Nat) : List Char := Nat.toDigits 10 n

end P4Control.Toml
