import P4Control.Signal
import P4Control.Wire.Message

namespace P4Control

/-!
# Mastership

A client claims mastership of its switch by sending an election id.  It is master if and
only if the id that the switch acknowledges is the one it sent last.

* `Arbiter` — the id sent last and the mastership that follows from it.
* `Arbiter.claim` — a claim has been queued; `Arbiter.restore` — it could not be queued.
* `Arbiter.acknowledge` — the switch has spoken.
* `Arbiter.reset`, `Arbiter.forget` — the session ended; a new one begins.
-/

/-- Whether a client is master of its switch. -/
inductive MastershipState where
  | notMaster
  /-- A claim has been sent and not yet answered. -/
  | pending
  | master
deriving DecidableEq, Repr, Inhabited

/-- The name under which a mastership state is shown. -/
def MastershipState.name : MastershipState → String
  | notMaster => "NOT_MASTER"
  | pending => "PENDING"
  | master => "MASTER"

/-- One client's part in the election. -/
structure Arbiter where
  /-- The election id of the last claim of the current session. -/
  lastUsed : Option ElectionId := none
  mastership : Signal MastershipState := ⟨.notMaster, 0⟩
deriving DecidableEq, Repr, Inhabited

namespace Arbiter

/-- The frame that claims mastership. -/
def claimFrame (device : UInt64) (id : ElectionId) : StreamRequest :=
  .arbitration ⟨device, some id.toWire, none⟩

/-- Notes a claim of `id`, whose outcome is open. -/
def claim (a : Arbiter) (id : ElectionId) : Arbiter :=
  ⟨some id, a.mastership.send .pending⟩

/-- Takes back a claim that could not be sent: all is as it was in `before`. -/
def restore (a before : Arbiter) : Arbiter :=
  ⟨before.lastUsed, a.mastership.send before.mastership.value⟩

/-- The mastership after the switch has acknowledged `acknowledged`. -/
def verdict (lastUsed : Option ElectionId) (acknowledged : Option Uint128) : MastershipState :=
  match lastUsed, acknowledged with
  | some sent, some wire => if sent = .ofWire wire then .master else .notMaster
  | _, _ => .notMaster

/-- Takes in an update from the switch that knows this client's device as `device`.  An update
about another device is not for this client. -/
def acknowledge (a : Arbiter) (device : UInt64) (update : ArbitrationUpdate) : Arbiter :=
  if update.device = device then
    { a with mastership := a.mastership.send (verdict a.lastUsed update.election) }
  else a

/-- Drops mastership; the last used id is kept. -/
def reset (a : Arbiter) : Arbiter := { a with mastership := a.mastership.send .notMaster }

/-- Drops mastership and the last used id. -/
def forget (a : Arbiter) : Arbiter := ⟨none, a.mastership.send .notMaster⟩

/-- Whether the client is master. -/
def isMaster (a : Arbiter) : Bool := a.mastership.value = .master

end Arbiter

end P4Control
