namespace P4Control

/-!
# Durations

Deadlines are spans of time with nanosecond resolution.  A span is written in the
largest unit that it reaches (seconds, milliseconds, microseconds, nanoseconds), with as
many decimals as it needs and no more.

* `Duration.ofSeconds`, `Duration.ofMilliseconds` — spans in the usual units.
* `Duration.text` — the written form.
-/

/-- A span of time. -/
structure Duration where
  /-- Its length in nanoseconds. -/
  nanoseconds : Nat
deriving DecidableEq, Repr, Inhabited

namespace Duration

/-- A span of whole seconds and a rest in nanoseconds. -/
def ofParts (seconds nanoseconds : Nat) : Duration := ⟨seconds * 1000000000 + nanoseconds⟩

/-- A span of whole seconds. -/
def ofSeconds (seconds : Nat) : Duration := ofParts seconds 0

/-- A span of whole milliseconds. -/
def ofMilliseconds (milliseconds : Nat) : Duration := ⟨milliseconds * 1000000⟩

/-- The whole milliseconds in a span. -/
def milliseconds (d : Duration) : Nat := d.nanoseconds / 1000000

/-- The digits of `rest / 10 ^ width` after the point, up to the last that is not zero. -/
def decimals : (width rest : Nat) → List Char
  | 0, _ => []
  | width + 1, rest =>
    if rest = 0 then []
    else Nat.digitChar (rest / Nat.pow 10 width) :: decimals width (rest % Nat.pow 10 width)

/-- A number of units, given in parts of which `10 ^ width` make one unit. -/
def inUnits (width parts : Nat) : String :=
  let rest := parts % Nat.pow 10 width
  toString (parts / Nat.pow 10 width) ++
    if rest = 0 then "" else "." ++ String.ofList (decimals width rest)

/-- The written form: the largest unit that fits at least once, without needless decimals. -/
def text (d : Duration) : String :=
  if 1000000000 ≤ d.nanoseconds then inUnits 9 d.nanoseconds ++ "s"
  else if 1000000 ≤ d.nanoseconds then inUnits 6 d.nanoseconds ++ "ms"
  else if 1000 ≤ d.nanoseconds then inUnits 3 d.nanoseconds ++ "µs"
  else inUnits 0 d.nanoseconds ++ "ns"

end Duration

end P4Control
