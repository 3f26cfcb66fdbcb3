import P4Control.Proofs.Parts
import P4Control.Proofs.Scope

namespace P4Control

/-!
# What happens to sessions

Whatever a control plane does is a sequence of a few incidents that concern sessions,
with changes in between that no session notices.  A property of sessions is kept by every
run if it is kept by each incident and by the quiet changes.

* `Client.profile`, `Switch.line` — what sessions have to do with in a client and a switch.
* `Incident` — the incidents.
* `System.Quiet` — a change that no session notices.
* `System.Happens` — what an incident does to the system, and when it can happen.
* `System.Leads` — a sequence of incidents that leads from one system to another.
-/

/-- What sessions have to do with in a client. -/
structure Profile where
  key : ClientKey
  config : ClientConfig
  switch : SwitchName
  scope : Scope StreamId
  lastUsed : Option ElectionId
  mastership : MastershipState

/-- What sessions have to do with in a client. -/
def Client.profile (c : Client) : Profile :=
  ⟨c.key, c.config, c.switch, c.scope, c.arbiter.lastUsed, c.arbiter.mastership.value⟩

/-- What sessions have to do with in a switch. -/
structure Line where
  attached : Option Nat
  streamCount : Nat
  scripts : List ScriptedStream
  master : Option Uint128
  acknowledges : Bool
  claims : List ArbitrationUpdate
  packetOuts : List WirePacket

/-- What sessions have to do with in a switch. -/
def Switch.line (w : Switch) : Line :=
  ⟨w.attached, w.streamCount, w.scriptedStreams, w.agent.master, w.agent.acknowledges,
   w.agent.claims, w.agent.packetOuts⟩

/-- What can happen at one stroke. -/
inductive Incident where
  /-- A client is created. -/
  | created (id : ClientId) (key : ClientKey)
  /-- Someone takes or gives back a client. -/
  | filed
  /-- The end of a call is noted. -/
  | told (f : Finished)
  /-- A scope begins, and waits for its stream. -/
  | began (id : ClientId) (token : Token) (afterFailure : Bool)
  /-- A scope begins, and the session opens on its stream. -/
  | opened (id : ClientId) (token : Token) (afterFailure : Bool) (stream : StreamId)
  /-- A session is closed from the client's side. -/
  | closed (id : ClientId) (wasOpen : Bool)
  /-- A session is closed because nobody holds the client any more. -/
  | released (id : ClientId) (wasOpen : Bool)
  /-- A session ends in failure; the reason is that of an unavailable channel. -/
  | lost (id : ClientId) (token : Token) (reason : Option String)
  /-- A claim is queued. -/
  | claimed (id : ClientId) (election : ElectionId)
  /-- A packet is queued. -/
  | sent (id : ClientId) (packet : WirePacket)
  /-- An inbound loop takes a frame. -/
  | heard (id : ClientId) (stream : StreamId) (frame : StreamResponse)
  /-- An inbound loop ends. -/
  | left (stream : StreamId)
  /-- The agent takes a frame. -/
  | served (stream : StreamId) (frame : StreamRequest)
  /-- The agent is done with an uplink. -/
  | drained (stream : StreamId)
  /-- A task finds nothing to do. -/
  | idled (task : Task)
  /-- The agent lets go of its stream. -/
  | detached (switch : SwitchName)
  /-- The agent is made to send something. -/
  | pushed (switch : SwitchName) (frame : Arrival StreamResponse)
  /-- The agent is steered in its part in the election. -/
  | steered (switch : SwitchName) (agent : Agent)
  /-- Something is done past any client and agent. -/
  | foreign

/-- Whether an incident concerns streams and switches alone, and passes the clients by. -/
def Incident.passesBy : Incident → Bool
  | .sent _ _ | .left _ | .served _ _ | .drained _ | .idled _ | .detached _ | .pushed _ _
  | .steered _ _ => true
  | _ => false

namespace System

/-- Nothing waits in a scope that has not begun. -/
def WaitsBegun (s : System) : Prop :=
  ∀ id, ∀ call ∈ (s.client id).calls, ∀ token, call.wait.token? = some token →
    token < (s.client id).scope.begun

/-- A change that no session notices.  Tasks may become runnable, and a refusal for lack of
mastership may be reported. -/
structure Quiet (s t : System) : Prop where
  profile : ∀ id, (t.client id).profile = (s.client id).profile
  keys : t.clients.keys = s.clients.keys
  stream : ∀ st, t.stream st = s.stream st
  line : ∀ n, (t.switch n).line = (s.switch n).line
  handles : t.handles = s.handles
  registry : t.registry = s.registry
  finished : t.finished = s.finished
  ready : ∀ task ∈ s.ready, task ∈ t.ready
  journal : ∃ events, t.journal = s.journal ++ events ∧ ∀ e ∈ events, e.kind = .permissionDenied
  waits : s.WaitsBegun → t.WaitsBegun

/-- A cursor belongs to a client that exists, and to a scope in which a session has opened if it can
still be read. -/
def Holds (s : System) (r : ReadCursor) : Prop :=
  s.Knows r.client ∧ (r.stream.phase = .running → (s.client r.client).scope.Opened r.token)

/-- What a task finds when it has nothing to do. -/
def Idle (s : System) : Task → Prop
  | .serve st => (s.stream st).served = true →
      (s.stream st).uplink.frames = [] ∧ (s.stream st).uplink.hasSender = true
  | .listen st => ∀ id token, (s.stream st).listener = some (id, token) →
      (s.client id).scope.isCancelled token = false ∧
        (s.stream st).downlink.frames = [] ∧ (s.stream st).downlink.hasSender = true
  | .resume _ => True

/-- What happens leads from one system to another. -/
inductive Happens : System → Incident → System → Prop
  | created (s : System) (key : ClientKey) (switch : SwitchName) (config : ClientConfig) :
      Happens s (.created (s.newClient key switch config).2 key) (s.newClient key switch config).1
  | filed (s : System) (handles : Directory String ClientId) (registry : Directory DeviceId ClientId)
      (hh : ∀ id ∈ handles.values, s.Knows id) (hr : ∀ id ∈ registry.values, s.Knows id) :
      Happens s .filed { s with handles, registry }
  | told (s : System) (f : Finished) (hf : ∀ r, f.cursor = some r → s.Holds r) :
      Happens s (.told f) (s.record f)
  | began (s : System) (id : ClientId) (token : Token) (afterFailure : Bool) (begun : Scope StreamId)
      (hk : s.Knows id) (hb : (s.client id).scope.begin = some (token, afterFailure, begun)) :
      Happens s (.began id token afterFailure) (s.beginScope id begun)
  | opened (s : System) (id : ClientId) (token : Token) (afterFailure : Bool)
      (begun activated : Scope StreamId) (capacity : Option Nat) (t : System) (st : StreamId)
      (hk : s.Knows id) (hb : (s.client id).scope.begin = some (token, afterFailure, begun))
      (hc : (s.beginScope id begun).connect (s.client id).switch capacity = (t, st))
      (ha : begun.activate token st = some activated)
      (hq : capacity = some (max (s.client id).config.queueCapacity 1)) :
      Happens s (.opened id token afterFailure st) (t.goLive id token afterFailure activated st)
  | played (s : System) (id : ClientId) (token : Token) (afterFailure : Bool)
      (begun activated : Scope StreamId) (capacity : Option Nat) (script : ScriptedStream)
      (rest : List ScriptedStream) (t : System) (st : StreamId)
      (hk : s.Knows id) (hb : (s.client id).scope.begin = some (token, afterFailure, begun))
      (hs : (s.switch (s.client id).switch).scriptedStreams = script :: rest)
      (hc : (s.beginScope id begun).playScript (s.client id).switch capacity script rest = (t, st))
      (ha : begun.activate token st = some activated)
      (hq : capacity = some (max (s.client id).config.queueCapacity 1)) :
      Happens s (.opened id token afterFailure st) (t.goLive id token afterFailure activated st)
  | closed (s : System) (id : ClientId) (hk : s.Knows id) :
      Happens s (.closed id (s.client id).scope.close.1) (s.closeSession id)
  | released (s : System) (id : ClientId) (hk : s.Knows id) (hh : s.isHeld id = false) :
      Happens s (.released id (s.client id).scope.close.1) (s.closeSession id)
  | failed (s : System) (id : ClientId) (token : Token) (hk : s.Knows id)
      (ht : (s.client id).scope.current = some token) :
      Happens s (.lost id token none) (s.failSession id token)
  | unavailable (s : System) (id : ClientId) (token : Token) (reason : String) (hk : s.Knows id)
      (ht : (s.client id).scope.current = some token) :
      Happens s (.lost id token (some reason))
        ((s.failSession id token).post (.channelError (s.client id).key.device reason))
  | claimed (s : System) (id : ClientId) (election : ElectionId) (st : StreamId)
      (uplink : Pipe StreamRequest) (hk : s.Knows id) (hs : (s.client id).scope.slot = some st)
      (hu : (s.stream st).uplink.send (Arbiter.claimFrame (s.client id).key.number election) =
        .ok uplink) :
      Happens s (.claimed id election)
        (((s.updateClient id fun c => { c with arbiter := c.arbiter.claim election }).updateStream st
          fun t => { t with uplink }).wake (.serve st))
  | sent (s : System) (id : ClientId) (packet : WirePacket) (st : StreamId)
      (uplink : Pipe StreamRequest) (hs : (s.client id).scope.slot = some st)
      (hu : (s.stream st).uplink.send (.packet packet) = .ok uplink) :
      Happens s (.sent id packet) ((s.updateStream st fun t => { t with uplink }).wake (.serve st))
  | heard (s : System) (id : ClientId) (token : Token) (st : StreamId) (frame : StreamResponse)
      (downlink : Pipe (Arrival StreamResponse))
      (hl : (s.stream st).listener = some (id, token))
      (hc : (s.client id).scope.isCancelled token = false)
      (hd : (s.stream st).downlink.receive = .frame (.item frame) downlink) :
      Happens s (.heard id st frame)
        ((s.updateStream st fun t => { t with downlink }).listenFrame id frame)
  | left (s : System) (id : ClientId) (token : Token) (st : StreamId)
      (hr : s.ready.head? = some (.listen st)) (hl : (s.stream st).listener = some (id, token))
      (hc : (s.client id).scope.isCancelled token = true) :
      Happens s (.left st) (s.dequeue.dropListener st)
  | served (s : System) (st : StreamId) (frame : StreamRequest) (uplink : Pipe StreamRequest)
      (hv : (s.stream st).served = true) (hu : (s.stream st).uplink.receive = .frame frame uplink) :
      Happens s (.served st frame)
        ((s.updateStream st fun t => { t with uplink }).serveFrame st.switch frame)
  | drained (s : System) (st : StreamId) (hr : s.ready.head? = some (.serve st))
      (hv : (s.stream st).served = true) (hf : (s.stream st).uplink.frames = [])
      (hs : (s.stream st).uplink.hasSender = false) :
      Happens s (.drained st) (s.dequeue.updateStream st fun t =>
        { t with uplink := t.uplink.dropReceiver, served := false })
  | idled (s : System) (task : Task) (hr : s.ready.head? = some task) (hi : s.Idle task) :
      Happens s (.idled task) s.dequeue
  | detached (s : System) (name : SwitchName) : Happens s (.detached name) (s.detach name)
  | pushed (s : System) (name : SwitchName) (frame : Arrival StreamResponse) :
      Happens s (.pushed name frame) (s.pushFrame name frame).1
  | steered (s : System) (name : SwitchName) (agent : Agent)
      (hc : agent.claims = (s.switch name).agent.claims)
      (hp : agent.packetOuts = (s.switch name).agent.packetOuts) :
      Happens s (.steered name agent) (s.updateSwitch name fun w => { w with agent })
  | foreign (s t : System) (hc : t.clients = s.clients) (hh : t.handles = s.handles)
      (hr : t.registry = s.registry) (hf : t.finished = s.finished) (hj : t.journal = s.journal)
      (hl : ∀ st l, (t.stream st).listener = some l → (s.stream st).listener = some l) :
      Happens s .foreign t

/-- A sequence of incidents, with quiet changes in between, leads from one system to another. -/
inductive Leads : System → List Incident → System → Prop
  | refl (s : System) : Leads s [] s
  | quiet {s t u : System} {is : List Incident} (h : Quiet s t) (r : Leads t is u) : Leads s is u
  | cons {s t u : System} {i : Incident} {is : List Incident} (h : Happens s i t)
      (r : Leads t is u) : Leads s (i :: is) u

end System

end P4Control
