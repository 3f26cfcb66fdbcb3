namespace P4Control

/-!
# Identities

A device is known to the controller by a `DeviceId` and to its switch by a number.  The
two together are the key of the one client that may exist for the device.
-/

/-- The controller's name of a network device. -/
structure DeviceId where
  raw : String
deriving DecidableEq, Repr, Inhabited

namespace DeviceId

/-- Device ids are ordered character by character, by code point. -/
instance : Ord DeviceId := ⟨fun a b => compareOfLessAndEq a.raw b.raw⟩

/-- Whether `a` comes before `b` or equals it. -/
def le (a b : DeviceId) : Bool := compare a b != .gt

end DeviceId

/-- The name of a pipeline configuration. -/
structure PipeconfId where
  raw : String
deriving DecidableEq, Repr, Inhabited

/-- The identity of a client: its device, and the number the switch knows it by. -/
structure ClientKey where
  device : DeviceId
  number : UInt64
deriving DecidableEq, Repr, Inhabited

namespace ClientKey

/-- The written form of a key. -/
def text (k : ClientKey) : String := k.device.raw ++ "/" ++ toString k.number

end ClientKey

end P4Control
