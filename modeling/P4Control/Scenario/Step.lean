import P4Control.System.State

namespace P4Control.Scenario

/-!
# Steps and replies

The vocabulary of a scenario: what users, embedders and switches do to a control plane,
and what they see of it.  Users refer to what they hold by names of their own choice.

* `Action` — what is done at once.
* `Request` — what is started and may have to wait.
* `Step` — one entry of a scenario.
* `Reply` — what an action or a request yields.
* `Report` — what is seen after a step.
-/

/-! ### What can be asked for -/

/-- Settings that replace those they are given for. -/
structure ConfigChange where
  shortTimeout : Option Duration := none
  longTimeout : Option Duration := none
  queueCapacity : Option Nat := none
deriving DecidableEq, Repr

/-- The settings after a change. -/
def ConfigChange.apply (change : ConfigChange) (base : ClientConfig) : ClientConfig :=
  { shortTimeout := change.shortTimeout.getD base.shortTimeout
    longTimeout := change.longTimeout.getD base.longTimeout
    queueCapacity := change.queueCapacity.getD base.queueCapacity }

/-- One part of a read. -/
inductive QueryItem where
  | table (name : String)
  | all (kind : EntityKind)
  | entities (es : List Entity)
  | entity (e : Entity)
deriving DecidableEq, Repr

/-- The read with one more part. -/
def QueryItem.addTo (r : ReadRequest) : QueryItem → ReadRequest
  | table name => r.tableEntries name
  | all kind => r.all kind
  | entities es => r.entities es
  | entity e => r.entity e

/-- One part of a write. -/
inductive UpdateItem where
  | table (type : UpdateType) (name : String) (key data : Bytes)
  | entities (type : UpdateType) (es : List Entity)
  | entity (type : UpdateType) (e : Entity)
deriving DecidableEq, Repr

/-- The write with one more part. -/
def UpdateItem.addTo (w : WriteRequest) : UpdateItem → WriteRequest
  | table type name key data => w.tableEntry type name key data
  | entities type es => w.entities type es
  | entity type e => w.update type e

/-- What is done to a switch's agent from outside. -/
inductive Steering where
  | queueFault (rpc : Rpc) (fault : Fault)
  | failUpdate (index : Nat) (status : Status)
  | limitStatuses (keep : Nat)
  | acknowledge (on : Bool)
  | keepCookies (on : Bool)
  | setMaster (id : Option Uint128)
  | chunkSize (size : Nat)
  | holdReads (on : Bool)
  | addEntities (entities : List Entity)
deriving DecidableEq, Repr

/-- The agent after it has been steered. -/
def Steering.apply (a : Agent) : Steering → Agent
  | queueFault rpc fault => a.queueFault rpc fault
  | failUpdate index status => a.failUpdate index status
  | limitStatuses keep => { a with statusLimit := some keep }
  | acknowledge on => { a with acknowledges := on }
  | keepCookies on => { a with keepsCookies := on }
  | setMaster id => { a with master := id }
  | chunkSize size => a.setChunkSize size
  | holdReads on => { a with holdsReads := on }
  | addEntities entities => a.addEntities entities

/-- An answer that a switch's channel gives in place of the agent. -/
inductive Script where
  | stream (script : ScriptedStream)
  | config (answer : Answer (Option PipelineConfig))
  | read (reply : ReadReply)
  | write (statuses : List Status)
deriving DecidableEq, Repr

/-- The switch with one more scripted answer. -/
def Script.addTo (w : Switch) : Script → Switch
  | stream script => { w with scriptedStreams := w.scriptedStreams ++ [script] }
  | config answer => { w with scriptedConfigs := w.scriptedConfigs ++ [answer] }
  | read reply => { w with scriptedReads := w.scriptedReads ++ [reply] }
  | write statuses => { w with scriptedWrites := w.scriptedWrites ++ [statuses] }

/-- What is done at once.  Clients, streams and observers go by the names their users gave them. -/
inductive Action where
  | create (key : ClientKey) (handle : String) (config : Option ConfigChange)
  | new (key : ClientKey) (handle : String) (config : Option ConfigChange)
  | get (device : DeviceId) (handle : Option String)
  | remove (device : DeviceId)
  | deviceIds
  | clone (client handle : String)
  | drop (client : String)
  | addChannel (device : DeviceId) (switch : SwitchName)
  | removeChannel (device : DeviceId)
  | register (conf : Pipeconf)
  | bind (device : DeviceId) (conf : PipeconfId)
  | unbind (device : DeviceId)
  | lookup (device : DeviceId)
  | close (client : String)
  | run (client : String) (id : ElectionId)
  | packetOut (client : String) (conf : PipeconfId) (packet : Packet)
  | info (client : String)
  | watch (client observer : String)
  | look (observer : String)
  | dropRead (stream : String)
  | steer (switch : SwitchName) (steering : Steering)
  | script (switch : SwitchName) (script : Script)
  | sendFrame (switch : SwitchName) (frame : StreamResponse)
  | failStream (switch : SwitchName) (status : Status)
  | closeStream (switch : SwitchName)
  | dump (switch : SwitchName)
  | noted (switch : SwitchName)
  | rawSend (stream : String) (frame : StreamRequest)
  | rawClose (stream : String)
  | rawDrop (stream : String)
  | rawReceive (stream : String)
  | abort (task : String)
deriving DecidableEq, Repr

/-- What is started and may have to wait. -/
inductive Request where
  | openSession (client : String)
  | setPipeline (client : String) (conf : PipeconfId) (data : Bytes)
  | isPipelineSet (client : String) (conf : PipeconfId) (data : Bytes)
  | read (client : String) (conf : PipeconfId) (query : List QueryItem)
  | openRead (client : String) (conf : PipeconfId) (query : List QueryItem)
  | readNext (stream : String)
  | write (client : String) (conf : PipeconfId) (updates : List UpdateItem)
      (atomicity : Option Atomicity)
  | rawOpen (switch : SwitchName)
  | rawSet (switch : SwitchName) (request : SetPipelineRequest)
  | rawGet (switch : SwitchName) (request : GetPipelineRequest)
  | rawRead (switch : SwitchName) (request : EntityQuery)
  | rawWrite (switch : SwitchName) (request : UpdateBatch)
deriving DecidableEq, Repr

/-- One entry of a scenario. -/
inductive Step where
  | act (action : Action)
  /-- Actions between which nothing runs; `none` stands for an entry that is no action. -/
  | batch (actions : List (Option Action))
  /-- A request, started under the given name, or else under one made of the step's number. -/
  | start (name : Option String) (request : Request)
  | advance (span : Duration)
deriving DecidableEq, Repr

/-! ### What can be seen -/

/-- What a step named that is not there. -/
inductive Missing where
  | client
  | switch
  | pipeconf
  | stream
  | task
  | observer
  | channel
deriving DecidableEq, Repr

/-- What an observer finds when it looks again. -/
inductive Change where
  | unchanged
  | changed
  /-- What was observed is no longer there. -/
  | gone
deriving DecidableEq, Repr

/-- A client as its user sees it. -/
structure ClientInfo where
  key : ClientKey
  isOpen : Bool
  isMaster : Bool
  description : String
deriving DecidableEq, Repr

/-- A switch as seen from outside. -/
structure SwitchDump where
  streamOpen : Bool
  agent : Agent
deriving DecidableEq, Repr

/-- What a reader past any client finds on its stream. -/
inductive RawItem where
  | frame (frame : StreamResponse)
  | status (status : Status)
  | ended
deriving DecidableEq, Repr

/-- What an action or a request yields. -/
inductive Reply where
  | done
  | flag (b : Bool)
  | key (key : Option ClientKey)
  | devices (ids : List DeviceId)
  | binding (conf : Option PipeconfId)
  | lookup (bound : Option PipeconfId) (fingerprint : Option UInt64)
  | info (info : ClientInfo)
  | look (connection : Change × ConnectionState) (mastership : Change × MastershipState)
  | dump (dump : SwitchDump)
  | noted (requests : List P4Control.Request)
  | rawItems (items : List RawItem)
  | returned (value : CallValue)
  | stream (name : String)
  | config (config : Option PipelineConfig)
  | chunks (chunks : List (List Entity))
  | statuses (statuses : List Status)
  | error (error : ClientError)
  | refused (status : Status)
  | missing (what : Missing)
  | pending (task : String)
  | aborted
  /-- The entry of a batch is no action. -/
  | notAction
deriving DecidableEq, Repr

/-- What the step itself yields. -/
inductive Outcome where
  | one (reply : Reply)
  | many (replies : List Reply)
deriving DecidableEq, Repr

/-- The state of a client as everyone sees it. -/
structure ClientStatus where
  connection : ConnectionState
  mastership : MastershipState
  lastUsed : Option ElectionId
deriving DecidableEq, Repr

/-- What is seen after a step. -/
structure Report where
  outcome : Outcome
  /-- The pending requests that finished, in the order in which they were started. -/
  done : List (String × Reply)
  /-- The events since the step before. -/
  events : List (Received Event)
  /-- The clients in the users' hands. -/
  clients : List (String × ClientStatus)
deriving DecidableEq, Repr

end P4Control.Scenario
