import P4Control.Pipeconf
import P4Control.ClientConfig
import P4Control.Event
import P4Control.Session.Mastership
import P4Control.Session.Pipe
import P4Control.Session.Scope
import P4Control.Switch.Switch
import P4Control.Table.Read
import P4Control.Table.Write

namespace P4Control

/-!
# The state of a control plane

Everything that is alive at one moment: the clients with their pending calls, the
switches, the streams between them, the registry, the clock and the queue of runnable
tasks.

* `Client`, `Call`, `Wait` — a client and what its pending calls wait for.
* `Stream` — one stream between a client and a switch.
* `Task` — what can be run, `Timer` — what becomes runnable at a given time.
* `System` — all of it, with one accessor and one updater per family of parts.

Parts are named by structured ids: clients are numbered per device, streams per switch
and calls per client.
-/

/-! ### Names of parts -/

/-- The name of a switch. -/
abbrev SwitchName := String

/-- A client: the clients of a device are numbered in the order of their creation. -/
structure ClientId where
  device : DeviceId
  serial : Nat
deriving DecidableEq, Repr, Inhabited

/-- A stream: the streams of a switch are numbered in the order in which they were set up. -/
structure StreamId where
  switch : SwitchName
  serial : Nat
deriving DecidableEq, Repr, Inhabited

/-- A call: the calls on a client are numbered in the order in which they were made. -/
structure CallId where
  client : ClientId
  serial : Nat
deriving DecidableEq, Repr, Inhabited

/-! ### Clients -/

/-- What a pending call waits for. -/
inductive Wait where
  /-- For its turn to open the session. -/
  | turn
  /-- For the answer to a call made in the scope of `token`, until `deadline`. -/
  | answer (operation : Operation) (token : Token) (limit : Duration) (deadline : Duration)
  /-- For the next chunk of a read stream of the scope of `token`. -/
  | chunk (token : Token)
deriving DecidableEq, Repr

/-- The scope in which something waits, if it waits in one. -/
def Wait.token? : Wait → Option Token
  | turn => none
  | answer _ token _ _ => some token
  | chunk token => some token

/-- Who makes a call. -/
inductive CallKind where
  /-- A request to the client, which keeps the client alive. -/
  | request
  /-- The next item of a read stream, which stands on its own. -/
  | next
deriving DecidableEq, Repr

/-- A pending call. -/
structure Call where
  serial : Nat
  kind : CallKind
  wait : Wait
deriving DecidableEq, Repr

/-- A client of one device. -/
structure Client where
  key : ClientKey
  config : ClientConfig := {}
  /-- The switch its channel leads to. -/
  switch : SwitchName := ""
  /-- The scopes of its sessions; an open session has a stream. -/
  scope : Scope StreamId := {}
  arbiter : Arbiter := {}
  /-- The calls that open the session, in the order in which they get their turn; the first one
  has it. -/
  turns : List Nat := []
  /-- The pending calls, in the order in which they were made. -/
  calls : List Call := []
  /-- How many calls have been made. -/
  made : Nat := 0
deriving DecidableEq, Repr, Inhabited

/-! ### Streams -/

/-- A stream between a client and a switch. -/
structure Stream where
  /-- The frames to the switch. -/
  uplink : Pipe StreamRequest
  /-- The frames from the switch. -/
  downlink : Pipe (Arrival StreamResponse)
  /-- Whether the switch's agent reads the uplink. -/
  served : Bool
  /-- The client and the scope whose inbound loop reads the downlink. -/
  listener : Option (ClientId × Token) := none
deriving DecidableEq, Repr

namespace Stream

/-- The stream of which both directions are dead. -/
def dead : Stream :=
  ⟨{ hasSender := false, hasReceiver := false }, { hasSender := false, hasReceiver := false },
   false, none⟩

instance : Inhabited Stream := ⟨dead⟩

end Stream

/-! ### Results -/

/-- A read stream in the hands of a caller. -/
structure ReadCursor where
  client : ClientId
  /-- The scope in which the read was made. -/
  token : Token
  stream : ReadStream
deriving DecidableEq, Repr

/-- What a successful call returns. -/
inductive CallValue where
  /-- Nothing but success. -/
  | done
  | answer (b : Bool)
  | entities (es : List Entity)
  | report (r : WriteReport)
  /-- A read stream, which the caller gets beside the value. -/
  | stream
  | entity (e : Entity)
  /-- The end of a read stream. -/
  | noMore
deriving DecidableEq, Repr

/-- How a call ends. -/
inductive CallResult where
  | returned (value : CallValue)
  | failed (error : ClientError)
deriving DecidableEq, Repr

/-- A finished call. -/
structure Finished where
  call : CallId
  result : CallResult
  /-- The read stream that the call hands to its caller. -/
  cursor : Option ReadCursor := none
deriving DecidableEq, Repr

/-! ### Tasks -/

/-- Something that runs until it has to wait. -/
inductive Task where
  /-- The agent's reading of a stream's uplink. -/
  | serve (stream : StreamId)
  /-- A client's reading of a stream's downlink. -/
  | listen (stream : StreamId)
  /-- A pending call. -/
  | resume (call : CallId)
deriving DecidableEq, Repr

/-- A call that becomes runnable when the clock reaches `deadline`. -/
structure Timer where
  deadline : Duration
  call : CallId
deriving DecidableEq, Repr

/-- Adds a timer behind those that are due no later. -/
def insertTimer (t : Timer) : List Timer → List Timer
  | [] => [t]
  | u :: rest =>
    if u.deadline.nanoseconds ≤ t.deadline.nanoseconds then u :: insertTimer t rest
    else t :: u :: rest

/-! ### The system -/

/-- Everything that is alive at one moment. -/
structure System where
  switches : Directory SwitchName Switch := .empty
  streams : Directory StreamId Stream := .empty
  clients : Directory ClientId Client := .empty
  /-- Which switch the channel of a device leads to. -/
  channels : Directory DeviceId SwitchName := .empty
  /-- The client of each device. -/
  registry : Directory DeviceId ClientId := .empty
  /-- The clients in the users' hands. -/
  handles : Directory String ClientId := .empty
  catalog : Catalog := {}
  /-- The settings of clients created without any of their own. -/
  config : ClientConfig := {}
  now : Duration := ⟨0⟩
  /-- The timers that have not fired, soonest first and in the order they were set. -/
  timers : List Timer := []
  /-- The runnable tasks, in the order in which they run. -/
  ready : List Task := []
  /-- The events posted, oldest first. -/
  journal : List Event := []
  /-- The calls that have finished and not been reported, oldest first. -/
  finished : List Finished := []
deriving DecidableEq, Repr, Inhabited

namespace System

/-! ### Parts -/

/-- The switch of the given name. -/
def switch (s : System) (name : SwitchName) : Switch := (s.switches.find? name).getD {}

/-- The stream of the given id. -/
def stream (s : System) (id : StreamId) : Stream := (s.streams.find? id).getD .dead

/-- The client of the given id. -/
def client (s : System) (id : ClientId) : Client := (s.clients.find? id).getD default

/-- Changes a switch. -/
def updateSwitch (s : System) (name : SwitchName) (f : Switch → Switch) : System :=
  { s with switches := s.switches.insert name (f (s.switch name)) }

/-- Changes a stream. -/
def updateStream (s : System) (id : StreamId) (f : Stream → Stream) : System :=
  { s with streams := s.streams.insert id (f (s.stream id)) }

/-- Changes a client. -/
def updateClient (s : System) (id : ClientId) (f : Client → Client) : System :=
  { s with clients := s.clients.insert id (f (s.client id)) }

/-- The pending call of the given id. -/
def call? (s : System) (id : CallId) : Option Call :=
  (s.client id.client).calls.find? fun c => decide (c.serial = id.serial)

/-! ### Elementary effects -/

/-- Makes a task runnable, behind those that already are. -/
def wake (s : System) (t : Task) : System :=
  if t ∈ s.ready then s else { s with ready := s.ready ++ [t] }

/-- Posts an event. -/
def post (s : System) (e : Event) : System := { s with journal := s.journal ++ [e] }

/-- Sets a timer. -/
def setTimer (s : System) (t : Timer) : System := { s with timers := insertTimer t s.timers }

/-! ### Who keeps a client alive -/

/-- Whether someone holds the client: a user, the registry, or a request that is pending on it. -/
def isHeld (s : System) (id : ClientId) : Bool :=
  s.handles.values.contains id || s.registry.values.contains id ||
    (s.client id).calls.any fun c => decide (c.kind = .request)

/-- Whether parts of the client are still in use: someone holds it, its inbound loop runs, or one
of its read streams is being read. -/
def isInUse (s : System) (id : ClientId) : Bool :=
  s.isHeld id || !(s.client id).calls.isEmpty ||
    s.streams.values.any fun t => t.listener.any fun l => decide (l.1 = id)

end System

end P4Control
