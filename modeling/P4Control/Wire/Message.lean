import P4Control.Wire.ElectionId
import P4Control.Wire.Entity
import P4Control.Wire.Status

namespace P4Control

/-!
# Messages

What client and switch exchange: the frames of the long-lived stream, and the requests
of the four unary calls.

* `ArbitrationUpdate`, `WirePacket`, `StreamError` — what stream frames carry.
* `StreamRequest`, `StreamResponse` — frames from the client and from the switch.
* `PipelineConfig`, `SetPipelineRequest`, `GetPipelineRequest` — the forwarding program.
* `EntityQuery`, `UpdateBatch` — the entity table.
-/

/-- A mastership claim, or the switch's acknowledgement of one. -/
structure ArbitrationUpdate where
  device : UInt64
  election : Option Uint128
  status : Option Status
deriving DecidableEq, Repr, Inhabited

/-- A packet on the wire: its metadata items are addressed by number. -/
structure WirePacket where
  payload : Bytes
  metadata : List (UInt32 × Bytes)
deriving DecidableEq, Repr, Inhabited

/-- What the switch reports on the stream about a packet it could not process. -/
structure StreamError where
  code : StatusCode
  message : String
  packetOut : Option WirePacket
deriving DecidableEq, Repr, Inhabited

/-- A frame from the client to the switch. -/
inductive StreamRequest where
  | arbitration (update : ArbitrationUpdate)
  | packet (packet : WirePacket)
deriving DecidableEq, Repr

/-- A frame from the switch to the client. -/
inductive StreamResponse where
  | arbitration (update : ArbitrationUpdate)
  | packet (packet : WirePacket)
  | error (error : StreamError)
deriving DecidableEq, Repr

/-- A forwarding program with its target configuration. -/
structure PipelineConfig where
  p4info : Bytes := []
  deviceData : Bytes := []
  /-- Chosen by the controller that pushed the program; absent if the switch keeps none. -/
  cookie : Option UInt64 := none
deriving DecidableEq, Repr, Inhabited

/-- What a switch shall do with a pushed program. -/
inductive PipelineAction where
  | verify
  | verifyAndSave
  | verifyAndCommit
  | commit
  | reconcileAndCommit
deriving DecidableEq, Repr, Inhabited

namespace PipelineAction

/-- All actions. -/
def all : List PipelineAction := [verify, verifyAndSave, verifyAndCommit, commit, reconcileAndCommit]

/-- The protocol's name of an action. -/
def name : PipelineAction → String
  | verify => "VERIFY"
  | verifyAndSave => "VERIFY_AND_SAVE"
  | verifyAndCommit => "VERIFY_AND_COMMIT"
  | commit => "COMMIT"
  | reconcileAndCommit => "RECONCILE_AND_COMMIT"

/-- The action of the given name, which is read exactly. -/
def ofName? (s : String) : Option PipelineAction := all.find? (·.name = s)

end PipelineAction

/-- Which parts of the running program a query asks for. -/
inductive PipelineView where
  | all
  | cookieOnly
  | p4infoAndCookie
  | deviceDataAndCookie
deriving DecidableEq, Repr, Inhabited

namespace PipelineView

/-- All views. -/
def every : List PipelineView := [all, cookieOnly, p4infoAndCookie, deviceDataAndCookie]

/-- The protocol's name of a view. -/
def name : PipelineView → String
  | all => "ALL"
  | cookieOnly => "COOKIE_ONLY"
  | p4infoAndCookie => "P4_INFO_AND_COOKIE"
  | deviceDataAndCookie => "DEVICE_CONFIG_AND_COOKIE"

/-- The view of the given name, which is read exactly. -/
def ofName? (s : String) : Option PipelineView := every.find? (·.name = s)

end PipelineView

/-- Push a forwarding program. -/
structure SetPipelineRequest where
  device : UInt64
  election : Option Uint128
  action : PipelineAction
  config : PipelineConfig
deriving DecidableEq, Repr

/-- Ask for the running forwarding program. -/
structure GetPipelineRequest where
  device : UInt64
  view : PipelineView
deriving DecidableEq, Repr

/-- Ask for the entities that at least one of the queries selects. -/
structure EntityQuery where
  device : UInt64
  queries : List Entity
deriving DecidableEq, Repr

/-- Change entities. -/
structure UpdateBatch where
  device : UInt64
  election : Option Uint128
  updates : List Update
  atomicity : Atomicity
deriving DecidableEq, Repr

end P4Control
