import P4Control.Datum
import P4Control.Toml.Quoted

namespace P4Control

/-!
# Settings from environment variables

A variable whose name begins with `P4RT_` takes part.  The rest of its name is a path of
keys, in lower case and parted by two underscores or by a dot; its value is an integer, a
truth value, text, an array or a table.

* `Environment.path?` — the path a variable sets.
* `Environment.datumOf` — what a value means; one that cannot be read is plain text.
* `Environment.fields` — all variables together, later ones over earlier ones.
-/

/-- Environment variables with their values, in the order in which they were first set. -/
abbrev Environment := List (String × String)

namespace Environment

/-! ### Names -/

/-- How the names of the variables that take part begin, in any case. -/
def nameStart : List Char := ['p', '4', 'r', 't', '_']

/-- Whether a character is white space. -/
def isSpace (c : Char) : Bool :=
  let n := c.toNat
  (0x09 ≤ n && n ≤ 0x0D) || n = 0x20 || n = 0x85 || n = 0xA0 || n = 0x1680 ||
    (0x2000 ≤ n && n ≤ 0x200A) || n = 0x2028 || n = 0x2029 || n = 0x202F || n = 0x205F || n = 0x3000

/-- Text without the white space at both ends. -/
def trim (s : List Char) : List Char :=
  ((s.dropWhile isSpace).reverse.dropWhile isSpace).reverse

/-- The keys that a name is made of, `key` being the first part of the first one. -/
def splitKeys (key : List Char) : List Char → List (List Char)
  | [] => [key]
  | '_' :: '_' :: r => key :: splitKeys [] r
  | '.' :: r => key :: splitKeys [] r
  | c :: r => splitKeys (key ++ [c]) r

/-- The path of keys that a variable sets, when it takes part and no key is empty. -/
def path? (name : String) : Option (List String) :=
  let lower := (trim name.toList).map Char.toLower
  if lower.take nameStart.length = nameStart then
    let keys := splitKeys [] (trim (lower.drop nameStart.length))
    if keys.any List.isEmpty then none else some (keys.map String.ofList)
  else none

/-! ### Values -/

/-- Whether a character is white space around the parts of a value. -/
def isGap (c : Char) : Bool := c = ' ' || c = '\t' || c = '\n' || c = '\r' || c = '\x0c'

/-- Drops the white space at the head of a text. -/
def skipGaps (s : List Char) : List Char := s.dropWhile isGap

/-- Whether a character ends a bare word. -/
def isSeparator (c : Char) : Bool :=
  c = ',' || c = '\x7b' || c = '\x7d' || c = '[' || c = ']'

/-- Whether a key of this character needs no quotes. -/
def isKeyChar (c : Char) : Bool := c.isAlphanum || c = '_' || c = '-'

/-- The number that decimal digits spell, unless there are none or one is not a digit. -/
def natural? (digits : List Char) : Option Nat :=
  if digits.isEmpty then none
  else digits.foldlM (fun acc c => if c.isDigit then some (10 * acc + (c.toNat - 48)) else none) 0

/-- The integer that a word spells, with an optional sign. -/
def integer? : List Char → Option Int
  | '-' :: digits => (natural? digits).map fun n => -(n : Int)
  | '+' :: digits => (natural? digits).map fun n => (n : Int)
  | digits => (natural? digits).map fun n => (n : Int)

/-- What a bare word means: an integer, or itself. -/
def wordDatum (word : List Char) : Datum :=
  match integer? word with
  | some n => .integer n
  | none => .text (String.ofList word)

/-- Reads a key of a table. -/
def readKey : List Char → Option (String × List Char)
  | '"' :: r => (Toml.readBasic r).map fun (text, rest) => (String.ofList text, rest)
  | s =>
    let key := s.takeWhile isKeyChar
    if key.isEmpty then none else some (String.ofList key, s.dropWhile isKeyChar)

section

variable (readInner : List Char → Option (Datum × List Char))

/-- Reads the elements of an array behind its opening bracket, at most `fuel` of them.  A
comma may stand behind the last one. -/
def readElements : (fuel : Nat) → List Char → Option (List Datum × List Char)
  | 0, _ => none
  | _ + 1, ']' :: rest => some ([], rest)
  | fuel + 1, s => do
    let (item, r) ← readInner s
    match r with
    | ']' :: rest => some ([item], rest)
    | ',' :: r => do
      let (items, rest) ← readElements fuel r
      some (item :: items, rest)
    | _ => none

/-- Reads the fields of a table behind its opening brace, at most `fuel` of them; a later
field replaces an earlier one of the same key. -/
def readFields (fields : Fields) : (fuel : Nat) → List Char → Option (Fields × List Char)
  | 0, _ => none
  | _ + 1, '\x7d' :: rest => some (fields, rest)
  | fuel + 1, s => do
    let (key, r) ← readKey (skipGaps s)
    match skipGaps r with
    | '=' :: r => do
      let (value, r) ← readInner r
      let fields := Directory.insertIn key value fields
      match r with
      | '\x7d' :: rest => some (fields, rest)
      | ',' :: r => readFields fields fuel r
      | _ => none
    | _ => none

end

/-- Reads a value and the white space around it; `fuel` bounds how deep values are nested. -/
def readValue : (fuel : Nat) → List Char → Option (Datum × List Char)
  | 0, _ => none
  | fuel + 1, s => do
    let (datum, rest) ← match skipGaps s with
      | 't' :: 'r' :: 'u' :: 'e' :: r => some (.boolean true, r)
      | 'f' :: 'a' :: 'l' :: 's' :: 'e' :: r => some (.boolean false, r)
      | '\x7b' :: r => (readFields (readValue fuel) [] (r.length + 1) r).map fun (fields, rest) => (.table fields, rest)
      | '[' :: r => (readElements (readValue fuel) (r.length + 1) r).map fun (items, rest) => (.array items, rest)
      | '"' :: r => (Toml.readBasic r).map fun (text, rest) => (.text (String.ofList text), rest)
      | '\'' :: c :: '\'' :: r => some (.text (String.ofList [c]), r)
      | '\'' :: _ => none
      | r => some (wordDatum (trim (r.takeWhile fun c => !isSeparator c)), r.dropWhile fun c => !isSeparator c)
    some (datum, skipGaps rest)

/-- What the value of a variable means. -/
def datumOf (value : String) : Datum :=
  match readValue (value.length + 1) value.toList with
  | some (datum, []) => datum
  | _ => .text value

/-! ### All variables -/

/-- What the variables set together. -/
def fields (environment : Environment) : Fields :=
  environment.foldl
    (fun fields (name, value) =>
      match path? name with
      | some (key :: path) => Datum.overFields fields [(key, Datum.nest (datumOf value) path)]
      | _ => fields)
    []

/-- Sets a variable; one that is set already keeps its place. -/
def set (environment : Environment) (name value : String) : Environment :=
  Directory.insertIn name value environment

end Environment

end P4Control
