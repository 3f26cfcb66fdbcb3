import P4Control.System.State

namespace P4Control.System

/-!
# Streams

Setting up, feeding and ending the streams between clients and switches.

* `connect`, `attachStream` — a stream set up with the agent of a switch, in place of the one before.
* `openStream` — a stream set up through the channel, where a scripted one may be waiting.
* `pushFrame`, `failStream`, `detach` — what the agent does on its stream.
* `enqueue` — a client queues a frame.
* `serveFrame` — the agent takes in a frame.
-/

/-- Sets up a new stream on a switch and names it. -/
def addStream (s : System) (name : SwitchName) (stream : Stream) : System × StreamId :=
  let id : StreamId := ⟨name, (s.switch name).streamCount⟩
  ((s.updateStream id fun _ => stream).updateSwitch name fun w =>
    { w with streamCount := w.streamCount + 1 }, id)

/-- The client half of a stream goes: the agent reads what is left and stops. -/
def dropUplink (s : System) (id : StreamId) : System :=
  (s.updateStream id fun t => { t with uplink := t.uplink.dropSender }).wake (.serve id)

/-- The reader of a stream's downlink goes. -/
def dropListener (s : System) (id : StreamId) : System :=
  s.updateStream id fun t => { t with downlink := t.downlink.dropReceiver, listener := none }

/-! ### The agent's half -/

/-- The agent lets go of its stream, which ends for the client. -/
def detach (s : System) (name : SwitchName) : System :=
  match (s.switch name).attached with
  | none => s
  | some n =>
    let s := s.updateStream ⟨name, n⟩ fun t => { t with downlink := t.downlink.dropSender }
    (s.updateSwitch name fun w => { w with attached := none }).wake (.listen ⟨name, n⟩)

/-- The agent sends on its stream.  The flag tells whether there is a stream that someone reads. -/
def pushFrame (s : System) (name : SwitchName) (frame : Arrival StreamResponse) : System × Bool :=
  match (s.switch name).attached with
  | none => (s, false)
  | some n =>
    match (s.stream ⟨name, n⟩).downlink.send frame with
    | .error _ => (s, false)
    | .ok downlink =>
      ((s.updateStream ⟨name, n⟩ fun t => { t with downlink }).wake (.listen ⟨name, n⟩), true)

/-- The agent ends its stream with a status. -/
def failStream (s : System) (name : SwitchName) (status : Status) : System × Bool :=
  let (s, sent) := s.pushFrame name (.failure status)
  (s.detach name, sent)

/-- Whether the agent has a stream that someone reads. -/
def isAttached (s : System) (name : SwitchName) : Bool :=
  match (s.switch name).attached with
  | none => false
  | some n => (s.stream ⟨name, n⟩).downlink.hasReceiver

/-- The agent takes in a frame of a client. -/
def serveFrame (s : System) (name : SwitchName) : StreamRequest → System
  | .packet packet =>
    s.updateSwitch name fun w => { w with agent := w.agent.receivePacket packet }
  | .arbitration claim =>
    let (agent, acknowledgement) := (s.switch name).agent.arbitrate claim
    let s := s.updateSwitch name fun w => { w with agent }
    match acknowledgement with
    | none => s
    | some ack => (s.pushFrame name (.item (.arbitration ack))).1

/-! ### Setting up -/

/-- A new stream between a client and the agent.  The agent sends on it from then on; the one before
ends. -/
def connect (s : System) (name : SwitchName) (capacity : Option Nat) : System × StreamId :=
  let s := s.detach name
  let (s, id) := s.addStream name ⟨{ capacity }, {}, true, none⟩
  let s := s.updateSwitch name fun w => { w with attached := some id.serial }
  (s.wake (.serve id), id)

/-- A stream is set up with the agent, unless a fault prevents it. -/
def attachStream (s : System) (name : SwitchName) (capacity : Option Nat) :
    System × Answer StreamId :=
  let (agent, fault) := (s.switch name).agent.enter .streamChannel
  let s := s.updateSwitch name fun w => { w with agent }
  match fault with
  | some (.fail status) => (s, .refused status)
  | some .stall => (s, .silence)
  | none =>
    let (s, id) := s.connect name capacity
    (s, .reply id)

/-- The stream of a script: its frames are there from the start, and the agent has no part in it. -/
def scriptedStream (capacity : Option Nat) (script : ScriptedStream) : Stream :=
  ⟨{ capacity, hasReceiver := !script.refusesFrames },
   { frames := script.frames, hasSender := !script.ends }, false, none⟩

/-- A new stream whose frames are those of a script; `rest` are the scripts after it. -/
def playScript (s : System) (name : SwitchName) (capacity : Option Nat) (script : ScriptedStream)
    (rest : List ScriptedStream) : System × StreamId :=
  (s.updateSwitch name fun w => { w with scriptedStreams := rest }).addStream name
    (scriptedStream capacity script)

/-- A stream is set up through the channel: by the next script, if there is one, and else with the
agent. -/
def openStream (s : System) (name : SwitchName) (capacity : Option Nat) :
    System × Answer StreamId :=
  match (s.switch name).scriptedStreams with
  | [] => s.attachStream name capacity
  | script :: rest =>
    let (s, id) := s.playScript name capacity script rest
    (s, .reply id)

/-! ### The client's half -/

/-- Queues a frame on the stream of a client's open session. -/
def enqueue (s : System) (id : ClientId) (frame : StreamRequest) : Except ClientError System :=
  let c := s.client id
  match c.scope.slot with
  | none => .error (.sessionNotOpen c.key.device)
  | some st =>
    match (s.stream st).uplink.send frame with
    | .error .closed => .error (.sessionNotOpen c.key.device)
    | .error .full => .error (.outboundQueueFull c.key.device)
    | .ok uplink => .ok ((s.updateStream st fun t => { t with uplink }).wake (.serve st))

end P4Control.System
