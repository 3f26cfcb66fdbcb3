namespace P4Control

/-!
# Election ids

Controllers that compete for mastership of a switch do so with 128-bit numbers, and the
highest number known to the switch wins.  On the wire such a number travels as two
64-bit halves.

* `Uint128` — the wire form, compared by the high half first.
* `ElectionId` — the controller's form of the same number.
* `ElectionId.toBits` / `ElectionId.ofBits` — the number itself.
* `ElectionId.toWire` / `ElectionId.ofWire` — conversion to the wire form and back.
-/

/-- A 128-bit number as carried on the wire. -/
structure Uint128 where
  high : UInt64
  low : UInt64
deriving DecidableEq, Repr, Inhabited

namespace Uint128

/-- Compares by the high half and, among equal high halves, by the low half. -/
def compare (a b : Uint128) : Ordering := (Ord.compare a.high b.high).then (Ord.compare a.low b.low)

instance : Ord Uint128 := ⟨compare⟩

/-- Whether `a` comes before `b`. -/
def lt (a b : Uint128) : Bool := a.compare b == .lt

end Uint128

/-- A mastership election id. -/
structure ElectionId where
  high : UInt64
  low : UInt64
deriving DecidableEq, Repr, Inhabited

namespace ElectionId

/-- Compares by the high half and, among equal high halves, by the low half. -/
def compare (a b : ElectionId) : Ordering :=
  (Ord.compare a.high b.high).then (Ord.compare a.low b.low)

instance : Ord ElectionId := ⟨compare⟩

/-- The number: the high half shifted past the low one. -/
def toBits (id : ElectionId) : BitVec 128 :=
  (id.high.toBitVec.setWidth 128 <<< 64) ||| id.low.toBitVec.setWidth 128

/-- The election id of a number. -/
def ofBits (n : BitVec 128) : ElectionId :=
  ⟨⟨(n >>> 64).setWidth 64⟩, ⟨n.setWidth 64⟩⟩

/-- The wire form. -/
def toWire (id : ElectionId) : Uint128 := ⟨id.high, id.low⟩

/-- The election id of a wire form. -/
def ofWire (w : Uint128) : ElectionId := ⟨w.high, w.low⟩

/-- The decimal digits of the number. -/
def text (id : ElectionId) : String := toString id.toBits.toNat

end ElectionId

end P4Control
