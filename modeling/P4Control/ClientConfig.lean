import P4Control.Duration

namespace P4Control

/-!
# Client settings

The tunables of one client: two classes of deadlines and the room for outbound frames.
-/

/-- The settings of one client. -/
structure ClientConfig where
  /-- The deadline of stream set-up, reads, writes and configuration queries. -/
  shortTimeout : Duration := .ofSeconds 10
  /-- The deadline of program pushes, which may reprogram the device. -/
  longTimeout : Duration := .ofSeconds 60
  /-- How many outbound frames may wait; zero counts as one. -/
  queueCapacity : Nat := 256
deriving DecidableEq, Repr

instance : Inhabited ClientConfig := ⟨{}⟩

end P4Control
