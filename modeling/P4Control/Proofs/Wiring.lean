import P4Control.Proofs.Parts

namespace P4Control.System

/-!
# What happens to streams and switches

Setting up, feeding and ending streams leaves the clients as they are.

* `SameClients` — two systems that differ only in switches, streams and runnable tasks.
* `PassesBy` — neither has the later one an inbound loop that the earlier one has not.
* `stream_detach`, `switch_detach`, `ready_detach` — the agent lets go of its stream.
* `stream_connect`, `switch_connect`, `ready_connect` — a new stream takes the place of the one before.
* `stream_pushFrame`, `ready_pushFrame` — the agent sends on its stream.
* `client_goLive`, `stream_goLive`, `ready_goLive` — a session opens on its stream.
* `client_listenFrame`, `journal_listenFrame` — an inbound loop takes a frame.
-/

/-- The systems differ only in their switches, their streams and the runnable tasks. -/
def SameClients (s t : System) : Prop :=
  t = { s with switches := t.switches, streams := t.streams, ready := t.ready }

namespace SameClients

variable {s t u : System}

/-- Every system is like itself. -/
theorem refl (s : System) : SameClients s s := rfl

/-- Two changes that pass the clients by pass them by together. -/
theorem trans (h : SameClients s t) (h' : SameClients t u) : SameClients s u := by
  unfold SameClients at *
  rw [h', h]

/-- The table of clients is the same. -/
theorem clients (h : SameClients s t) : t.clients = s.clients := by rw [h]

/-- Each client is as it was. -/
theorem client (h : SameClients s t) (id : ClientId) : t.client id = s.client id := by
  unfold System.client
  rw [h.clients]

/-- The same ids belong to clients. -/
theorem knows (h : SameClients s t) (id : ClientId) : t.Knows id ↔ s.Knows id := by
  unfold Knows
  rw [h.clients]

/-- The caller holds what they held. -/
theorem handles (h : SameClients s t) : t.handles = s.handles := by rw [h]

/-- The registry has the clients it had. -/
theorem registry (h : SameClients s t) : t.registry = s.registry := by rw [h]

/-- No event is posted. -/
theorem journal (h : SameClients s t) : t.journal = s.journal := by rw [h]

/-- No call ends. -/
theorem finished (h : SameClients s t) : t.finished = s.finished := by rw [h]

end SameClients

variable (s : System)

/-- Making a task runnable leaves the clients alone. -/
theorem sameClients_wake (task : Task) : SameClients s (s.wake task) := by
  unfold SameClients
  rw [wake_eq]

/-- What changes on a stream leaves the clients alone. -/
theorem sameClients_updateStream (st : StreamId) (f : Stream → Stream) :
    SameClients s (s.updateStream st f) := rfl

/-- What changes on a switch leaves the clients alone. -/
theorem sameClients_updateSwitch (n : SwitchName) (f : Switch → Switch) :
    SameClients s (s.updateSwitch n f) := rfl

/-- An inbound loop that ends leaves the client's own state alone. -/
theorem sameClients_dropListener (st : StreamId) : SameClients s (s.dropListener st) := rfl

/-- Where an inbound loop ends, its stream is read by nobody, and what it had left to read is gone.
-/
theorem stream_dropListener (st st' : StreamId) :
    (s.dropListener st).stream st' = if st = st' then
      { s.stream st with downlink := (s.stream st).downlink.dropReceiver, listener := none }
    else s.stream st' :=
  stream_updateStream s st st' fun t =>
    { t with downlink := t.downlink.dropReceiver, listener := none }

/-- A change that keeps every inbound loop where it is. -/
theorem listener_updateStream {s : System} {st st' : StreamId} {f : Stream → Stream}
    (hf : ∀ t, (f t).listener = t.listener) {l : ClientId × Token}
    (h : ((s.updateStream st f).stream st').listener = some l) :
    (s.stream st').listener = some l := by
  rw [stream_updateStream] at h
  split at h
  · next he =>
    rw [hf] at h
    exact he ▸ h
  · exact h

/-- The inbound loops after one has ended were there before. -/
theorem listener_of_dropListener {s : System} {st st' : StreamId} {l : ClientId × Token}
    (h : ((s.dropListener st).stream st').listener = some l) :
    (s.stream st').listener = some l := by
  rw [stream_dropListener] at h
  split at h
  · cases h
  · exact h

/-- Closing the outbound half of a stream leaves the clients alone. -/
theorem sameClients_dropUplink (st : StreamId) : SameClients s (s.dropUplink st) :=
  (sameClients_updateStream s st _).trans (sameClients_wake _ _)

/-- Where the outbound half is closed, the agent will read the end after what is queued. -/
theorem stream_dropUplink (st st' : StreamId) :
    (s.dropUplink st).stream st' = if st = st' then
      { s.stream st with uplink := (s.stream st).uplink.dropSender }
    else s.stream st' := by
  unfold dropUplink
  rw [stream_wake]
  exact stream_updateStream s st st' fun t => { t with uplink := t.uplink.dropSender }

/-- Closing the outbound half ends no inbound loop. -/
theorem listener_dropUplink (st st' : StreamId) :
    ((s.dropUplink st).stream st').listener = (s.stream st').listener := by
  rw [stream_dropUplink]
  split
  · next h => rw [h]
  · rfl

/-- Taking a task off the queue leaves the clients alone. -/
theorem sameClients_dequeue : SameClients s s.dequeue := rfl

/-! ### Letting go of a stream -/

/-- The agent lets go of its stream without touching a client. -/
theorem sameClients_detach (name : SwitchName) : SameClients s (s.detach name) := by
  unfold detach
  split
  · exact .refl s
  · unfold SameClients
    rw [wake_eq]
    rfl

/-- The stream that the agent had ends for the client. -/
theorem stream_detach (name : SwitchName) (st : StreamId) :
    (s.detach name).stream st =
      if st.switch = name ∧ (s.switch name).attached = some st.serial then
        { s.stream st with downlink := (s.stream st).downlink.dropSender }
      else s.stream st := by
  unfold detach
  split
  · next h => rw [h]; simp
  · next n h =>
    rw [h, stream_wake, stream_updateSwitch, stream_updateStream]
    -- the stream is the one let go of iff both its switch and its number are
    obtain ⟨name', m⟩ := st
    by_cases hn : name' = name <;> by_cases hm : n = m <;> grind

/-- The switch has no stream attached then, and is otherwise as it was. -/
theorem switch_detach (name n : SwitchName) :
    (s.detach name).switch n =
      if name = n then { s.switch name with attached := none } else s.switch n := by
  unfold detach
  split
  · next h =>
    -- nothing was attached, so `attached := none` is what it was
    split
    · next hn =>
      rw [← h, ← hn]
    · rfl
  · rw [switch_wake, switch_updateSwitch]
    rfl

/-- The client that reads the stream is told. -/
theorem ready_detach (name : SwitchName) :
    (∀ task ∈ s.ready, task ∈ (s.detach name).ready) ∧
      ∀ n, (s.switch name).attached = some n → .listen ⟨name, n⟩ ∈ (s.detach name).ready := by
  unfold detach
  split
  · next h => simp [h]
  · next n h =>
    refine ⟨fun task ht => (mem_ready_wake _).mpr (.inr ht), fun m hm => ?_⟩
    rw [h] at hm
    cases hm
    exact (mem_ready_wake _).mpr (.inl rfl)

/-! ### Setting up a stream -/

/-- The id of the next stream of a switch. -/
def nextStream (name : SwitchName) : StreamId := ⟨name, (s.switch name).streamCount⟩

/-- A new stream is numbered by how many its switch has had. -/
theorem connect_snd (name : SwitchName) (capacity : Option Nat) :
    (s.connect name capacity).2 = s.nextStream name := by
  show (⟨name, ((s.detach name).switch name).streamCount⟩ : StreamId) = _
  rw [switch_detach, if_pos rfl]
  rfl

/-- Setting up a stream leaves the clients alone: the opener has yet to hear of it. -/
theorem sameClients_connect (name : SwitchName) (capacity : Option Nat) :
    SameClients s (s.connect name capacity).1 := by
  refine (s.sameClients_detach name).trans ?_
  show SameClients _ (wake _ _)
  refine SameClients.trans ?_ (sameClients_wake _ _)
  rfl

/-- The new stream is empty and served; the one before ends for the client. -/
theorem stream_connect (name : SwitchName) (capacity : Option Nat) (st : StreamId) :
    (s.connect name capacity).1.stream st =
      if s.nextStream name = st then ⟨{ capacity }, {}, true, none⟩
      else (s.detach name).stream st := by
  show (((s.detach name).updateStream _ _).updateSwitch _ _ |>.updateSwitch _ _ |>.wake _).stream st = _
  rw [stream_wake, stream_updateSwitch, stream_updateSwitch, stream_updateStream, switch_detach,
    if_pos rfl]
  rfl

/-- The switch counts the new stream and is attached to it. -/
theorem switch_connect (name n : SwitchName) (capacity : Option Nat) :
    (s.connect name capacity).1.switch n =
      if name = n then
        { s.switch name with
          streamCount := (s.switch name).streamCount + 1
          attached := some (s.switch name).streamCount }
      else s.switch n := by
  show (((s.detach name).updateStream _ _).updateSwitch _ _ |>.updateSwitch _ _ |>.wake _).switch n = _
  rw [switch_wake, switch_updateSwitch, switch_updateSwitch, switch_updateSwitch,
    switch_updateStream, switch_updateStream, switch_detach, switch_detach]
  by_cases h : name = n <;> simp [h]

/-- The agent begins to read the new stream, and the client of the one before is told. -/
theorem ready_connect (name : SwitchName) (capacity : Option Nat) :
    (∀ task ∈ (s.detach name).ready, task ∈ (s.connect name capacity).1.ready) ∧
      .serve (s.nextStream name) ∈ (s.connect name capacity).1.ready := by
  rw [← connect_snd s name capacity]
  refine ⟨fun task ht => ?_, ?_⟩
  · exact (mem_ready_wake _).mpr (.inr ht)
  · exact (mem_ready_wake _).mpr (.inl rfl)

/-- A scripted stream leaves the clients alone. -/
theorem sameClients_playScript (name : SwitchName) (capacity : Option Nat)
    (script : ScriptedStream) (rest : List ScriptedStream) :
    SameClients s (s.playScript name capacity script rest).1 := rfl

/-- What a call to the agent keeps, and a new stream too, is kept where a stream is set up with it. -/
theorem holds_attachStream {P : System → Prop} {name : SwitchName} {capacity : Option Nat}
    (hu : P (s.updateSwitch name fun w =>
      { w with agent := ((s.switch name).agent.enter .streamChannel).1 }))
    (hc : ∀ t, P t → P (t.connect name capacity).1) : P (s.attachStream name capacity).1 := by
  unfold attachStream
  dsimp only
  split
  · exact hu
  · exact hu
  · exact hc _ hu

/-- However the agent answers a StreamChannel call, the clients stay as they are. -/
theorem sameClients_openStream (name : SwitchName) (capacity : Option Nat) :
    SameClients s (s.openStream name capacity).1 := by
  unfold openStream
  split
  · exact s.holds_attachStream rfl fun t ht => ht.trans (t.sameClients_connect name capacity)
  · exact sameClients_playScript s name capacity _ _

/-! ### Sending -/

/-- A frame on its way has reached no client yet. -/
theorem sameClients_pushFrame (name : SwitchName) (frame : Arrival StreamResponse) :
    SameClients s (s.pushFrame name frame).1 := by
  unfold pushFrame
  split
  · exact .refl s
  · split
    · exact .refl s
    · unfold SameClients
      rw [wake_eq]
      rfl

/-- Sending changes the stream, not the switch. -/
@[simp] theorem switch_pushFrame (name n : SwitchName) (frame : Arrival StreamResponse) :
    (s.pushFrame name frame).1.switch n = s.switch n := by
  unfold pushFrame
  split
  · rfl
  · split
    · rfl
    · exact switch_wake _ _ _

/-- A frame goes behind the others on the stream that the agent has, if someone reads it. -/
theorem stream_pushFrame (name : SwitchName) (frame : Arrival StreamResponse) (st : StreamId) :
    (s.pushFrame name frame).1.stream st =
      match (s.stream st).downlink.send frame with
      | .ok downlink =>
        if st.switch = name ∧ (s.switch name).attached = some st.serial then
          { s.stream st with downlink }
        else s.stream st
      | .error _ => s.stream st := by
  unfold pushFrame
  obtain ⟨name', m⟩ := st
  split
  · next h => rw [h]; split <;> simp
  · next n h =>
    split
    -- nobody reads the stream: nothing is sent, on it or on another
    · next hs =>
      by_cases hst : name' = name ∧ n = m
      · obtain ⟨rfl, rfl⟩ := hst
        rw [hs]
      · split
        · rw [if_neg]
          rw [h]
          grind
        · rfl
    -- it is read: `st` gets the frame if it is that stream
    · next downlink hs =>
      rw [stream_wake, stream_updateStream]
      by_cases hst : name' = name ∧ n = m
      · obtain ⟨rfl, rfl⟩ := hst
        rw [if_pos rfl, hs, h]
        simp
      · rw [if_neg (by grind)]
        split
        · rw [if_neg]
          rw [h]
          grind
        · rfl

/-- Whoever reads the stream becomes runnable when a frame is sent on it, and nobody stops being so.
-/
theorem ready_pushFrame (name : SwitchName) (frame : Arrival StreamResponse) :
    (∀ task ∈ s.ready, task ∈ (s.pushFrame name frame).1.ready) ∧
      ∀ n downlink, (s.switch name).attached = some n →
        (s.stream ⟨name, n⟩).downlink.send frame = .ok downlink →
          .listen ⟨name, n⟩ ∈ (s.pushFrame name frame).1.ready := by
  unfold pushFrame
  split
  · next h => simp [h]
  · next n h =>
    split
    -- a stream that took no frame cannot be one that takes it
    · next hs =>
      refine ⟨fun _ ht => ht, fun m downlink hm hd => ?_⟩
      rw [h] at hm
      cases hm
      rw [hs] at hd
      cases hd
    · refine ⟨fun task ht => (mem_ready_wake _).mpr (.inr ht), fun m downlink hm _ => ?_⟩
      rw [h] at hm
      cases hm
      exact (mem_ready_wake _).mpr (.inl rfl)

/-! ### Serving a frame -/

/-- The agent after it has taken in a frame. -/
def agentAfter (agent : Agent) : StreamRequest → Agent
  | .packet packet => agent.receivePacket packet
  | .arbitration claim => (agent.arbitrate claim).1

/-- A packet only reaches the agent. -/
theorem serveFrame_packet (name : SwitchName) (packet : WirePacket) :
    s.serveFrame name (.packet packet) =
      s.updateSwitch name fun w => { w with agent := w.agent.receivePacket packet } := rfl

/-- A claim reaches the agent, and what it acknowledges goes to the stream it is attached to by
then. -/
theorem serveFrame_arbitration (name : SwitchName) (claim : ArbitrationUpdate) :
    s.serveFrame name (.arbitration claim) =
      match ((s.switch name).agent.arbitrate claim).2 with
      | none => s.updateSwitch name fun w =>
          { w with agent := ((s.switch name).agent.arbitrate claim).1 }
      | some ack => ((s.updateSwitch name fun w =>
          { w with agent := ((s.switch name).agent.arbitrate claim).1 }).pushFrame name
            (.item (.arbitration ack))).1 := rfl

/-- Serving a frame leaves the clients alone: they learn of it from their streams. -/
theorem sameClients_serveFrame (name : SwitchName) (frame : StreamRequest) :
    SameClients s (s.serveFrame name frame) := by
  cases frame with
  | packet packet =>
    rw [serveFrame_packet]
    exact sameClients_updateSwitch s name _
  | arbitration claim =>
    rw [serveFrame_arbitration]
    split
    · exact sameClients_updateSwitch s name _
    · exact (sameClients_updateSwitch s name _).trans (sameClients_pushFrame _ _ _)

/-- On the switch, serving a frame is a step of the agent. -/
theorem switch_serveFrame (name n : SwitchName) (frame : StreamRequest) :
    (s.serveFrame name frame).switch n =
      if name = n then
        { s.switch name with agent := agentAfter (s.switch name).agent frame }
      else s.switch n := by
  cases frame with
  | packet packet =>
    rw [serveFrame_packet]
    exact switch_updateSwitch s name n _
  | arbitration claim =>
    rw [serveFrame_arbitration]
    split
    · exact switch_updateSwitch s name n _
    · rw [switch_pushFrame]
      exact switch_updateSwitch s name n _

/-- Sending a frame leaves the uplinks and the inbound loops as they are. -/
theorem uplink_pushFrame (name : SwitchName) (frame : Arrival StreamResponse) (st : StreamId) :
    ((s.pushFrame name frame).1.stream st).uplink = (s.stream st).uplink ∧
      ((s.pushFrame name frame).1.stream st).served = (s.stream st).served ∧
      ((s.pushFrame name frame).1.stream st).listener = (s.stream st).listener := by
  rw [stream_pushFrame]
  split
  · split <;> exact ⟨rfl, rfl, rfl⟩
  · exact ⟨rfl, rfl, rfl⟩

/-- Serving a frame leaves the uplinks and the inbound loops as they are. -/
theorem uplink_serveFrame (name : SwitchName) (frame : StreamRequest) (st : StreamId) :
    ((s.serveFrame name frame).stream st).uplink = (s.stream st).uplink ∧
      ((s.serveFrame name frame).stream st).served = (s.stream st).served ∧
      ((s.serveFrame name frame).stream st).listener = (s.stream st).listener := by
  cases frame with
  | packet packet => exact ⟨rfl, rfl, rfl⟩
  | arbitration claim =>
    rw [serveFrame_arbitration]
    split
    · exact ⟨rfl, rfl, rfl⟩
    · exact uplink_pushFrame _ name _ st

/-! ### Past the clients -/

/-- The clients are passed by: they stay as they are, and have no inbound loop that they did not have. -/
structure PassesBy (s t : System) : Prop where
  clients : SameClients s t
  listener : ∀ st l, (t.stream st).listener = some l → (s.stream st).listener = some l

namespace PassesBy

variable {s} {t u : System}

/-- A system passes itself by. -/
theorem refl (s : System) : PassesBy s s := ⟨.refl s, fun _ _ h => h⟩

/-- Passing by twice is passing by. -/
theorem trans (h : PassesBy s t) (h' : PassesBy t u) : PassesBy s u :=
  ⟨h.clients.trans h'.clients, fun st l hl => h.listener st l (h'.listener st l hl)⟩

/-- No change of a switch is seen by the clients. -/
theorem updateSwitch (s : System) (n : SwitchName) (f : Switch → Switch) :
    PassesBy s (s.updateSwitch n f) := ⟨sameClients_updateSwitch s n f, fun _ _ h => h⟩

/-- A change of a stream passes by if it keeps the inbound loop. -/
theorem updateStream (s : System) (st : StreamId) {f : Stream → Stream}
    (hf : ∀ t, (f t).listener = t.listener) : PassesBy s (s.updateStream st f) :=
  ⟨sameClients_updateStream s st f, fun _ _ h => listener_updateStream hf h⟩

/-- What is queued outbound is not seen by the clients. -/
theorem setUplink (s : System) (st : StreamId) (uplink : Pipe StreamRequest) :
    PassesBy s (s.updateStream st fun t => { t with uplink }) := updateStream s st fun _ => rfl

/-- Making a task runnable passes by. -/
theorem wake (s : System) (task : Task) : PassesBy s (s.wake task) :=
  ⟨sameClients_wake s task, fun st l h => by rwa [stream_wake] at h⟩

/-- Taking a task off the queue passes by. -/
theorem dequeue (s : System) : PassesBy s s.dequeue := ⟨sameClients_dequeue s, fun _ _ h => h⟩

/-- Closing the outbound half of a stream passes by. -/
theorem dropUplink (s : System) (st : StreamId) : PassesBy s (s.dropUplink st) :=
  ⟨sameClients_dropUplink s st, fun st' l h => by rwa [listener_dropUplink] at h⟩

/-- An inbound loop may end. -/
theorem dropListener (s : System) (st : StreamId) : PassesBy s (s.dropListener st) :=
  ⟨sameClients_dropListener s st, fun _ _ h => listener_of_dropListener h⟩

/-- The agent's letting go of its stream passes by. -/
theorem detach (s : System) (n : SwitchName) : PassesBy s (s.detach n) := by
  refine ⟨sameClients_detach s n, fun st l h => ?_⟩
  rw [stream_detach] at h
  split at h <;> exact h

/-- A new stream has no inbound loop. -/
theorem connect (s : System) (n : SwitchName) (capacity : Option Nat) :
    PassesBy s (s.connect n capacity).1 := by
  refine ⟨sameClients_connect s n capacity, fun st l h => ?_⟩
  rw [stream_connect] at h
  split at h
  · cases h
  · exact (detach s n).listener st l h

/-- A scripted stream has no inbound loop either. -/
theorem playScript (s : System) (n : SwitchName) (capacity : Option Nat) (script : ScriptedStream)
    (rest : List ScriptedStream) : PassesBy s (s.playScript n capacity script rest).1 := by
  refine ⟨sameClients_playScript s n capacity script rest, fun st l h => ?_⟩
  have hst := stream_updateStream (s.updateSwitch n fun w => { w with scriptedStreams := rest })
    (s.playScript n capacity script rest).2 st fun _ => scriptedStream capacity script
  rw [show ((s.playScript n capacity script rest).1.stream st) = _ from hst] at h
  split at h
  · cases h
  · exact h

/-- Setting up a stream, with its result named. -/
theorem of_connect {n : SwitchName} {capacity : Option Nat} {st : StreamId}
    (h : s.connect n capacity = (t, st)) : PassesBy s t := by
  have hc := connect s n capacity
  rwa [h] at hc

/-- Setting up a scripted stream, with its result named. -/
theorem of_playScript {n : SwitchName} {capacity : Option Nat} {script : ScriptedStream}
    {rest : List ScriptedStream} {st : StreamId}
    (h : s.playScript n capacity script rest = (t, st)) : PassesBy s t := by
  have hc := playScript s n capacity script rest
  rwa [h] at hc

/-- Sending a frame passes by. -/
theorem pushFrame (s : System) (n : SwitchName) (frame : Arrival StreamResponse) :
    PassesBy s (s.pushFrame n frame).1 :=
  ⟨sameClients_pushFrame s n frame, fun st _ h => by rwa [(uplink_pushFrame s n frame st).2.2] at h⟩

/-- Serving a frame passes by. -/
theorem serveFrame (s : System) (n : SwitchName) (frame : StreamRequest) :
    PassesBy s (s.serveFrame n frame) :=
  ⟨sameClients_serveFrame s n frame, fun st _ h => by rwa [(uplink_serveFrame s n frame st).2.2] at h⟩

end PassesBy

/-! ### Opening a session -/

/-- A scope begins for one client, who forgets what was claimed before. -/
theorem client_beginScope (id id' : ClientId) (begun : Scope StreamId) :
    (s.beginScope id begun).client id' = if id = id' then
      { s.client id with scope := begun, arbiter := (s.client id).arbiter.forget }
    else s.client id' :=
  client_updateClient s id id' fun c => { c with scope := begun, arbiter := c.arbiter.forget }

/-- Beginning a scope adds no client. -/
theorem knows_beginScope {s : System} {id : ClientId} (h : s.Knows id) (begun : Scope StreamId)
    (id' : ClientId) : (s.beginScope id begun).Knows id' ↔ s.Knows id' :=
  knows_updateClient h _ id'

/-- A session goes live in the scope of one client. -/
theorem client_goLive (id id' : ClientId) (token : Token) (afterFailure : Bool)
    (activated : Scope StreamId) (st : StreamId) :
    (s.goLive id token afterFailure activated st).client id' =
      if id = id' then { s.client id with scope := activated } else s.client id' := by
  unfold goLive
  rw [client_wake, client_updateStream]
  exact client_updateClient s id id' fun c => { c with scope := activated }

/-- The session's stream gets the client's inbound loop. -/
theorem stream_goLive (id : ClientId) (token : Token) (afterFailure : Bool)
    (activated : Scope StreamId) (st st' : StreamId) :
    (s.goLive id token afterFailure activated st).stream st' =
      if st = st' then { s.stream st with listener := some (id, token) } else s.stream st' := by
  unfold goLive
  rw [stream_wake, stream_updateStream]
  rfl

/-- The switches do not see that a session goes live. -/
@[simp] theorem switch_goLive (id : ClientId) (token : Token) (afterFailure : Bool)
    (activated : Scope StreamId) (st : StreamId) (n : SwitchName) :
    (s.goLive id token afterFailure activated st).switch n = s.switch n := by
  unfold goLive
  rw [switch_wake]
  rfl

/-- No client comes or goes when a session goes live. -/
theorem keys_goLive {s : System} {id : ClientId} (h : s.Knows id) (token : Token)
    (afterFailure : Bool) (activated : Scope StreamId) (st : StreamId) :
    (s.goLive id token afterFailure activated st).clients.keys = s.clients.keys := by
  unfold goLive
  rw [clients_wake]
  exact keys_updateClient h fun c => { c with scope := activated }

/-- The caller holds what they held. -/
@[simp] theorem handles_goLive (id : ClientId) (token : Token) (afterFailure : Bool)
    (activated : Scope StreamId) (st : StreamId) :
    (s.goLive id token afterFailure activated st).handles = s.handles := by
  unfold goLive
  rw [handles_wake]
  rfl

/-- The registry has the clients it had. -/
@[simp] theorem registry_goLive (id : ClientId) (token : Token) (afterFailure : Bool)
    (activated : Scope StreamId) (st : StreamId) :
    (s.goLive id token afterFailure activated st).registry = s.registry := by
  unfold goLive
  rw [registry_wake]
  rfl

/-- The call that opened the session has yet to end. -/
@[simp] theorem finished_goLive (id : ClientId) (token : Token) (afterFailure : Bool)
    (activated : Scope StreamId) (st : StreamId) :
    (s.goLive id token afterFailure activated st).finished = s.finished := by
  unfold goLive
  rw [finished_wake]
  rfl

/-- Opening a session is an event. -/
theorem journal_goLive (id : ClientId) (token : Token) (afterFailure : Bool)
    (activated : Scope StreamId) (st : StreamId) :
    (s.goLive id token afterFailure activated st).journal =
      s.journal ++ [if afterFailure then .channelReconnected (s.client id).key.device
        else .channelOpen (s.client id).key.device] := by
  unfold goLive
  rw [journal_wake]
  rfl

/-- The inbound loop becomes runnable. -/
theorem mem_ready_goLive (id : ClientId) (token : Token) (afterFailure : Bool)
    (activated : Scope StreamId) (st : StreamId) {task : Task} :
    task ∈ (s.goLive id token afterFailure activated st).ready ↔
      task = .listen st ∨ task ∈ s.ready := by
  unfold goLive
  rw [mem_ready_wake]
  rfl

/-! ### Taking a frame -/

/-- Only an arbitration update concerns the state of a client. -/
theorem clients_listenFrame (id : ClientId) {frame : StreamResponse}
    (h : ∀ update, frame ≠ .arbitration update) : (s.listenFrame id frame).clients = s.clients := by
  cases frame with
  | arbitration update => exact absurd rfl (h update)
  | error e => rfl
  | packet wire =>
    simp only [listenFrame]
    split
    · rfl
    · split <;> rfl

/-- An arbitration update is acknowledged by the client that reads it; every other frame leaves the
clients alone. -/
theorem client_listenFrame (id id' : ClientId) (frame : StreamResponse) :
    (s.listenFrame id frame).client id' =
      match frame with
      | .arbitration update =>
        if id = id' then
          { s.client id with
            arbiter := (s.client id).arbiter.acknowledge (s.client id).key.number update }
        else s.client id'
      | _ => s.client id' := by
  cases frame with
  | arbitration update =>
    exact client_updateClient s id id' fun c =>
      { c with arbiter := c.arbiter.acknowledge c.key.number update }
  | error | packet =>
    unfold client
    rw [clients_listenFrame s id (by simp)]

/-- At most a client's view of the mastership changes. -/
theorem arbiter_listenFrame (id id' : ClientId) (frame : StreamResponse) :
    ∃ arbiter, (s.listenFrame id frame).client id' = { s.client id' with arbiter } := by
  rw [client_listenFrame]
  cases frame with
  | arbitration update =>
    dsimp only
    split
    · next he =>
      subst he
      exact ⟨_, rfl⟩
    · exact ⟨_, rfl⟩
  | error | packet => exact ⟨_, rfl⟩

/-- No frame opens, closes or replaces a session. -/
theorem scope_listenFrame (id : ClientId) (frame : StreamResponse) (id' : ClientId) :
    ((s.listenFrame id frame).client id').scope = (s.client id').scope := by
  obtain ⟨arbiter, he⟩ := arbiter_listenFrame s id id' frame
  rw [he]

/-- Taking a frame changes nothing but the client and the journal. -/
theorem listenFrame_eq (id : ClientId) (frame : StreamResponse) :
    s.listenFrame id frame =
      { s with clients := (s.listenFrame id frame).clients,
               journal := (s.listenFrame id frame).journal } := by
  cases frame with
  | arbitration update => rfl
  | error e => rfl
  | packet wire =>
    simp only [listenFrame]
    split
    · rfl
    · split <;> rfl

/-- The streams do not depend on what the client makes of a frame. -/
theorem stream_listenFrame (id : ClientId) (frame : StreamResponse) (st : StreamId) :
    (s.listenFrame id frame).stream st = s.stream st := by
  rw [listenFrame_eq]
  rfl

/-- The switches do not depend on what the client makes of a frame. -/
theorem switch_listenFrame (id : ClientId) (frame : StreamResponse) (n : SwitchName) :
    (s.listenFrame id frame).switch n = s.switch n := by
  rw [listenFrame_eq]
  rfl

/-- No client comes or goes when a frame is taken. -/
theorem keys_listenFrame {s : System} {id : ClientId} (h : s.Knows id) (frame : StreamResponse) :
    (s.listenFrame id frame).clients.keys = s.clients.keys := by
  cases frame with
  | arbitration update =>
    exact keys_updateClient h fun c =>
      { c with arbiter := c.arbiter.acknowledge c.key.number update }
  | error | packet => rw [clients_listenFrame s id (by simp)]

end P4Control.System
