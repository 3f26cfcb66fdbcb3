import P4Control.Toml.Moment

namespace P4Control.Toml

/-!
# The items of a document

A document is a sequence of items, each on lines of its own: headers that open a table or
the next element of an array of tables, and entries that give a key its value.

* `Path` — a dotted key, `Item` — one item.
* `Node` — a table under construction, which the inline tables need as well.
* `readValue` — a value, `readItems` — all items of a document.
-/

/-- A dotted key, from the outermost part on. -/
abbrev Path := List String

/-- One item of a document. -/
inductive Item where
  /-- Opens the table at a path. -/
  | table (path : Path)
  /-- Opens a further element of the array of tables at a path. -/
  | element (path : Path)
  /-- Gives the key at a path, counted from the open table, a value. -/
  | entry (path : Path) (value : Datum)
deriving Repr, BEq

/-- How deep arrays and inline tables may be nested, and how many parts a dotted key may
have. -/
def depthLimit : Nat := 79

/-! ### Blanks, comments and line ends -/

/-- Drops the blanks at the head of a text. -/
def skipBlanks (s : List Char) : List Char := s.dropWhile isBlank

/-- Drops blanks, line ends and comments; `inComment` tells that a comment has begun. -/
def skipLines (inComment : Bool) : List Char → List Char
  | [] => []
  | '\r' :: '\n' :: r => skipLines false r
  | c :: r =>
    if c = '\n' then skipLines false r
    else if inComment then (if isPlain c then skipLines true r else c :: r)
    else if isBlank c then skipLines false r
    else if c = '#' then skipLines true r
    else c :: r

/-- Reads the end of a line, or of the text. -/
def readLineEnd : List Char → Option (List Char)
  | [] => some []
  | '\n' :: r => some r
  | '\r' :: '\n' :: r => some r
  | _ => none

/-- Reads what may stand behind an item: blanks, a comment, and the end of the line. -/
def readTrailer (s : List Char) : Option (List Char) :=
  match skipBlanks s with
  | '#' :: r => readLineEnd (r.dropWhile isPlain)
  | r => readLineEnd r

/-! ### Keys -/

/-- Whether a key of this character needs no quotes. -/
def isBare (c : Char) : Bool :=
  isDigit c || ('a' ≤ c && c ≤ 'z') || ('A' ≤ c && c ≤ 'Z') || c = '_' || c = '-'

/-- Reads one part of a key: bare, or quoted on one line. -/
def readPart : List Char → Option (String × List Char)
  | '"' :: r => (readBasic r).map fun (text, rest) => (String.ofList text, rest)
  | '\'' :: r => (readLiteral r).map fun (text, rest) => (String.ofList text, rest)
  | s =>
    let bare := s.takeWhile isBare
    if bare.isEmpty then none else some (String.ofList bare, s.dropWhile isBare)

/-- Reads a key of at most `parts` parts, with blanks around each of them. -/
def readPathWithin : (parts : Nat) → List Char → Option (Path × List Char)
  | 0, _ => none
  | parts + 1, s => do
    let (part, r) ← readPart (skipBlanks s)
    match skipBlanks r with
    | '.' :: r => do
      let (path, rest) ← readPathWithin parts r
      some (part :: path, rest)
    | rest => some ([part], rest)

/-- Reads a key. -/
def readPath (s : List Char) : Option (Path × List Char) := readPathWithin depthLimit s

/-! ### Tables under construction -/

/-- How a table under construction came about. -/
inductive Origin where
  /-- Its own header opened it. -/
  | header
  /-- The header of a table inside it implied it. -/
  | implied
  /-- A dotted key led through it. -/
  | dotted
deriving DecidableEq, Repr

/-- What a key of a document under construction holds. -/
inductive Node where
  /-- A finished value. -/
  | value (datum : Datum)
  /-- A table that may still grow. -/
  | table (origin : Origin) (entries : List (String × Node))
  /-- An array of tables: the finished elements, and the last one, which may still grow. -/
  | tables (finished : List Datum) (last : List (String × Node))

/-- The entries of a table under construction. -/
abbrev Entries := List (String × Node)

mutual

/-- What is under construction as it stands. -/
def Node.finish : Node → Datum
  | .value datum => datum
  | .table _ entries => .table (finishEntries entries)
  | .tables finished last => .array (finished ++ [.table (finishEntries last)])

/-- The fields that entries stand for. -/
def Node.finishEntries : Entries → Fields
  | [] => []
  | entry :: rest => Node.finishEntry entry :: Node.finishEntries rest

/-- The field that an entry stands for. -/
def Node.finishEntry : String × Node → String × Datum
  | (key, node) => (key, node.finish)

end

/-- Gives the key at a path a value.  The path may lead through tables made by dotted keys
and, except for the last of them, through tables that a header implied; it may not lead
through values or tables with a header of their own, and the key has to be new. -/
def assign (value : Datum) : Path → Entries → Option Entries
  | [], _ => none
  | [key], entries =>
    if (Directory.findIn key entries).isSome then none
    else some (Directory.insertIn key (.value value) entries)
  | key :: path, entries =>
    match Directory.findIn key entries with
    | none => (assign value path []).map fun inner => Directory.insertIn key (.table .dotted inner) entries
    | some (.table .dotted inner) =>
      (assign value path inner).map fun inner => Directory.insertIn key (.table .dotted inner) entries
    | some (.table .implied inner) =>
      if path.length = 1 then none
      else (assign value path inner).map fun inner => Directory.insertIn key (.table .implied inner) entries
    | some (.tables finished last) =>
      if path.length = 1 then none
      else (assign value path last).map fun last => Directory.insertIn key (.tables finished last) entries
    | some (.table .header _) => none
    | some (.value _) => none

/-- The inline table of a sequence of keys with their values. -/
def inlineTable? (pairs : List (Path × Datum)) : Option Datum :=
  (pairs.foldlM (fun entries pair => assign pair.2 pair.1 entries) []).map fun entries =>
    .table (Node.finishEntries entries)

/-! ### Values -/

/-- Reads a word at the head of a text. -/
def readWord (word s : List Char) : Option (List Char) :=
  if s.take word.length = word then some (s.drop word.length) else none

/-- Reads a moment or a number. -/
def readNumeral (s : List Char) : Option (Datum × List Char) :=
  match readMoment s with
  | some rest => some (momentOf (s.take (s.length - rest.length)), rest)
  | none => match readReal s with
    | some rest => some (.real, rest)
    | none => (readInteger s).map fun (n, rest) => (.integer n, rest)

/-- Reads a value that holds no other values. -/
def readScalar (s : List Char) : Option (Datum × List Char) :=
  match s with
  | [] => none
  | c :: _ =>
    if c = '"' ∨ c = '\'' then (readText s).map fun (text, rest) => (.text (String.ofList text), rest)
    else if c = 't' then (readWord ['t', 'r', 'u', 'e'] s).map fun rest => (.boolean true, rest)
    else if c = 'f' then (readWord ['f', 'a', 'l', 's', 'e'] s).map fun rest => (.boolean false, rest)
    else readNumeral s

section

variable (readInner : List Char → Option (Datum × List Char))

/-- Reads the elements of an array behind its opening bracket, at most `fuel` of them.  Each
is read by `readInner`; line ends and comments may stand around them, and a comma behind the
last one. -/
def readElements : (fuel : Nat) → List Char → Option (List Datum × List Char)
  | 0, _ => none
  | fuel + 1, s =>
    match skipLines false s with
    | ']' :: rest => some ([], rest)
    | r => do
      let (item, r) ← readInner r
      match skipLines false r with
      | ']' :: rest => some ([item], rest)
      | ',' :: r => do
        let (items, rest) ← readElements fuel r
        some (item :: items, rest)
      | _ => none

/-- Reads a key and its value, the latter by `readInner`. -/
def readPairWith (s : List Char) : Option ((Path × Datum) × List Char) := do
  let (path, r) ← readPath s
  let r ← expect '=' r
  let (value, rest) ← readInner (skipBlanks r)
  some ((path, value), skipBlanks rest)

/-- Reads the pairs of an inline table behind its opening brace or a comma, at most `fuel`
of them. -/
def readPairs : (fuel : Nat) → List Char → Option (List (Path × Datum) × List Char)
  | 0, _ => none
  | fuel + 1, s => do
    let (pair, r) ← readPairWith readInner s
    match r with
    | '\x7d' :: rest => some ([pair], rest)
    | ',' :: r => do
      let (pairs, rest) ← readPairs fuel r
      some (pair :: pairs, rest)
    | _ => none

/-- Reads an inline table behind its opening brace. -/
def readInline (s : List Char) : Option (Datum × List Char) :=
  match skipBlanks s with
  | '\x7d' :: rest => some (.table [], rest)
  | _ => do
    let (pairs, rest) ← readPairs readInner s.length s
    some (← inlineTable? pairs, rest)

end

/-- Reads a value in which arrays and inline tables are nested at most `depth` deep. -/
def readValueWithin : (depth : Nat) → List Char → Option (Datum × List Char)
  | 0, s => readScalar s
  | depth + 1, s => match s with
    | '[' :: r => (readElements (readValueWithin depth) r.length r).map fun (items, rest) => (.array items, rest)
    | '\x7b' :: r => readInline (readValueWithin depth) r
    | s => readScalar s

/-- Reads a value. -/
def readValue (s : List Char) : Option (Datum × List Char) := readValueWithin depthLimit s

/-! ### Items -/

/-- Reads a header behind its opening bracket or brackets. -/
def readHeader (s : List Char) : Option (Item × List Char) :=
  match s with
  | '[' :: r => do
    let (path, r) ← readPath r
    let r ← expect ']' r
    let rest ← expect ']' r
    some (.element path, rest)
  | s => do
    let (path, r) ← readPath s
    let rest ← expect ']' r
    some (.table path, rest)

/-- Reads one item together with the rest of its line. -/
def readItem (s : List Char) : Option (Item × List Char) := do
  let (item, r) ← match s with
    | '[' :: r => readHeader r
    | s => (readPairWith readValue s).map fun (pair, rest) => (.entry pair.1 pair.2, rest)
  let rest ← readTrailer r
  some (item, rest)

/-- Reads all items of a text, `fuel` bounding the number of its lines. -/
def readItemsWithin : (fuel : Nat) → List Char → Option (List Item)
  | 0, _ => none
  | fuel + 1, s =>
    match skipBlanks s with
    | [] => some []
    | '\n' :: r => readItemsWithin fuel r
    | '\r' :: '\n' :: r => readItemsWithin fuel r
    | '#' :: r => do
      let r ← readLineEnd (r.dropWhile isPlain)
      readItemsWithin fuel r
    | s => do
      let (item, r) ← readItem s
      let items ← readItemsWithin fuel r
      some (item :: items)

/-- Reads all items of a text; a byte order mark may stand before them. -/
def readItems (s : List Char) : Option (List Item) :=
  let s := match s with
    | '\ufeff' :: r => r
    | s => s
  readItemsWithin (s.length + 1) s

end P4Control.Toml
