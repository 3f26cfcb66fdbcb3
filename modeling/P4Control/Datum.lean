import P4Control.Directory

namespace P4Control

/-!
# Untyped data

What a configuration source holds before anyone asks for a particular setting: scalars,
arrays and tables.

* `Datum` — a piece of configuration, `Fields` — the content of a table.
* `Datum.layOver` — one piece laid over another: tables are combined key by key, anything else
  is replaced.
* `Datum.nest` — a piece of configuration at the end of a path of keys.
-/

/-- A piece of configuration. -/
inductive Datum where
  | boolean (value : Bool)
  | integer (value : Int)
  /-- A number written with a fraction or an exponent, an infinity or a non-number.  No
  setting takes one, so which one it is is not kept. -/
  | real
  | text (value : String)
  | array (items : List Datum)
  | table (fields : List (String × Datum))
deriving Repr, BEq, Inhabited

/-- The content of a table: each key at most once, in the order of arrival. -/
abbrev Fields := List (String × Datum)

namespace Datum

mutual

/-- Lays a piece of configuration over `base`: a table over a table is combined key by key,
everything else takes the place of `base`. -/
def layOver (base : Datum) : Datum → Datum
  | .table news => match base with
    | .table olds => .table (overFields olds news)
    | _ => .table news
  | .boolean value => .boolean value
  | .integer value => .integer value
  | .real => .real
  | .text value => .text value
  | .array items => .array items

/-- Lays the fields of one table over those of another, field by field. -/
def overFields (olds : Fields) : Fields → Fields
  | [] => olds
  | field :: rest =>
    overFields (Directory.insertIn field.1 (overField (Directory.findIn field.1 olds) field) olds) rest

/-- Lays a field over what its key held before. -/
def overField (old : Option Datum) : String × Datum → Datum
  | (_, value) => match old with
    | some old => layOver old value
    | none => value

end

/-- A piece of configuration at the end of a path of keys, as tables within tables. -/
def nest (value : Datum) : List String → Datum
  | [] => value
  | key :: path => .table [(key, nest value path)]

end Datum

end P4Control
