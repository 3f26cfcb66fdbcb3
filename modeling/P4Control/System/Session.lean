import P4Control.Session.Outcome
import P4Control.System.Streams

namespace P4Control.System

/-!
# Sessions

How sessions end, how failures are reported, and what a client sends on its session.

* `closeSession` — the session is ended from this side.
* `failSession` — it is ended by a failure in the scope of a token.
* `report` — a failure of a call becomes an error for the caller, and an event where it
  means something to the session.
* `release` — a holder of a client has gone; the last one closes the session.
* `runForMastership`, `packetOut` — frames for the switch.
-/

/-- Why a call got no reply. -/
inductive Failure where
  /-- The switch answered with a status to a call in the scope of `token`. -/
  | refused (status : Status) (token : Token)
  | timedOut (limit : Duration)
  | cancelled
  | notOpen
deriving DecidableEq, Repr

/-! ### Ending a session -/

/-- Wakes what runs in a scope: the inbound loop of the open session, and the calls. -/
def wakeScope (s : System) (id : ClientId) (token : Token) : System :=
  let c := s.client id
  let s := match c.scope.slot with
    | some st => s.wake (.listen st)
    | none => s
  (c.calls.filter fun call => decide (call.wait.token? = some token)).foldl
    (fun s call => s.wake (.resume ⟨id, call.serial⟩)) s

/-- Puts the ended scope in place: what ran in it is woken, the stream's client half goes, and
mastership is dropped. -/
def endScope (s : System) (id : ClientId) (ended : Scope StreamId) : System :=
  let scope := (s.client id).scope
  let s := match scope.current with
    | some token => s.wakeScope id token
    | none => s
  let s := s.updateClient id fun c => { c with scope := ended, arbiter := c.arbiter.reset }
  match scope.slot with
  | some st => s.dropUplink st
  | none => s

/-- Ends the session from this side.  Closing an open session is an event. -/
def closeSession (s : System) (id : ClientId) : System :=
  let (wasOpen, ended) := (s.client id).scope.close
  let s := s.endScope id ended
  if wasOpen then s.post (.channelClosed (s.client id).key.device) else s

/-- Ends the session of `token` in failure, if it is still the one in place. -/
def failSession (s : System) (id : ClientId) (token : Token) : System :=
  match (s.client id).scope.failIfCurrent token with
  | none => s
  | some ended => s.endScope id ended

/-! ### Reporting a failure -/

/-- Reports a failure of an operation. -/
def report (s : System) (id : ClientId) (operation : Operation) : Failure → System × ClientError
  | .notOpen => (s, .sessionNotOpen (s.client id).key.device)
  | .cancelled => (s, .cancelled (s.client id).key.device operation.text)
  | .timedOut limit => (s, .timeout (s.client id).key.device operation.text limit)
  | .refused status token =>
    let device := (s.client id).key.device
    match status.code.outcome with
    | .mastershipLost =>
      (s.post (.permissionDenied device), .permissionDenied device status.message)
    | .channelError =>
      ((s.failSession id token).post (.channelError device status.message),
       .transportUnavailable device status.message)
    | .plainFailure => (s, .rpc device operation.text status.code status.message)

/-! ### Holders -/

/-- A holder of the client has gone.  When the last one goes, the session is closed. -/
def release (s : System) (id : ClientId) : System :=
  if s.isHeld id then s else s.closeSession id

/-! ### Frames for the switch -/

/-- Claims mastership with an election id.  If the claim cannot be queued, nothing is claimed. -/
def runForMastership (s : System) (id : ClientId) (election : ElectionId) :
    System × Option ClientError :=
  let before := (s.client id).arbiter
  let claimed := s.updateClient id fun c => { c with arbiter := c.arbiter.claim election }
  match claimed.enqueue id (Arbiter.claimFrame (s.client id).key.number election) with
  | .ok s => (s, none)
  | .error e =>
    (claimed.updateClient id fun c => { c with arbiter := c.arbiter.restore before }, some e)

/-- Sends a packet through the device. -/
def packetOut (s : System) (id : ClientId) (conf : Pipeconf) (packet : Packet) :
    System × Option ClientError :=
  match packet.encode conf with
  | .error e => (s, some e)
  | .ok wire =>
    match s.enqueue id (.packet wire) with
    | .ok s => (s, none)
    | .error e => (s, some e)

end P4Control.System
