import P4Control.Proofs.Intake

namespace P4Control

/-!
# What waits for the agents

An agent reads the uplinks of its streams until their clients let go of them, and the queue of an open
session has the room that the settings of its client give it.  This is so whatever is done to streams.

* `Stream.Astir` — the agent has something to do on an uplink.
* `Stream.Flows` — what becomes of a stream that stays set up.
* `Client.Uses` — a stream on which a client can have its session.
* `System.Plumbed` — the uplinks are in order, and so are the queues of open sessions.
* `Plumbed.of_same`, `Plumbed.of_stream` — changes that keep this, and the lemmas for the single effects.
-/

namespace Stream

/-- The agent has something to do on the uplink: frames wait, or the client has let go of it. -/
def Astir (v : Stream) : Prop :=
  v.served = true ∧ (v.uplink.frames ≠ [] ∨ v.uplink.hasSender = false)

/-- What an agent reads is there to be read, and what it sends to an inbound loop finds room. -/
structure Sound (v : Stream) : Prop where
  reader : v.served = true → v.uplink.hasReceiver = true
  roomy : v.downlink.capacity = none
  heard : v.listener.isSome = true → v.downlink.hasReceiver = true

/-- What becomes of a stream that stays set up: the agent that sends on it has done so before. -/
structure Flows (v w : Stream) : Prop where
  dead : v = .dead → w = .dead
  sound : v.Sound → w.Sound
  lent : w.served = true → w.downlink.hasSender = true →
    v.served = true ∧ v.downlink.hasSender = true

theorem sound_dead : dead.Sound := ⟨by simp [dead], rfl, by simp [dead]⟩

end Stream

/-- The client can have its session on the stream.  That the stream takes no frames is due to
`refusing`. -/
structure Client.Uses (c : Client) (refusing : Prop) (st : StreamId) (v : Stream) : Prop where
  switch : st.switch = c.switch
  sends : v.uplink.hasSender = true
  room : v.uplink.capacity = some (max c.config.queueCapacity 1)
  taken : v.uplink.hasReceiver = false → refusing

theorem Client.Uses.congr {c d : Client} {refusing : Prop} {st : StreamId} {v w : Stream}
    (h : c.Uses refusing st v) (hs : d.switch = c.switch) (hc : d.config = c.config)
    (hu : w.uplink.hasSender = v.uplink.hasSender ∧ w.uplink.capacity = v.uplink.capacity ∧
      w.uplink.hasReceiver = v.uplink.hasReceiver) : d.Uses refusing st w where
  switch := h.switch.trans hs.symm
  sends := hu.1.trans h.sends
  room := by rw [hu.2.1, hc, h.room]
  taken hn := h.taken (hu.2.2 ▸ hn)

namespace System

/-- The uplinks are in order, and the sessions that are open have queues of their clients' sizes.  A
script whose stream takes no frames is there only if `refusing`. -/
structure Plumbed (refusing : Prop) (s : System) : Prop where
  /-- A stream that has not been set up is dead. -/
  fresh : ∀ st, (s.switch st.switch).streamCount ≤ st.serial → s.stream st = .dead
  sound : ∀ st, (s.stream st).Sound
  /-- An agent that has something to do is runnable. -/
  tended : ∀ st, (s.stream st).Astir → .serve st ∈ s.ready
  /-- The agent sends on no other stream than the one it has. -/
  attached : ∀ st, (s.stream st).served = true → (s.stream st).downlink.hasSender = true →
    (s.switch st.switch).attached = some st.serial
  scripts : ∀ n, ∀ script ∈ (s.switch n).scriptedStreams, script.refusesFrames = true → refusing
  slots : ∀ id st, (s.client id).scope.slot = some st →
    (s.client id).Uses refusing st (s.stream st)

variable {s t : System} {refusing : Prop} {id : ClientId} {token : Token} {st : StreamId}

/-! ### Changes elsewhere -/

/-- Neither streams nor switches nor sessions change in what matters here. -/
theorem Plumbed.of_same (h : s.Plumbed refusing) (hst : ∀ st, t.stream st = s.stream st)
    (hw : ∀ n, (t.switch n).streamCount = (s.switch n).streamCount ∧
      (t.switch n).attached = (s.switch n).attached ∧
      (t.switch n).scriptedStreams = (s.switch n).scriptedStreams)
    (hc : ∀ id st, (t.client id).scope.slot = some st → (s.client id).scope.slot = some st ∧
      (t.client id).switch = (s.client id).switch ∧ (t.client id).config = (s.client id).config)
    (hr : ∀ st, .serve st ∈ s.ready → .serve st ∈ t.ready) : t.Plumbed refusing := by
  refine ⟨fun st hle => ?_, fun st => ?_, fun st ha => ?_, fun st => ?_, fun n => ?_,
    fun id st hslot => ?_⟩
  · rw [(hw _).1] at hle
    rw [hst, h.fresh st hle]
  · rw [hst]
    exact h.sound st
  · rw [hst] at ha
    exact hr st (h.tended st ha)
  · rw [hst, (hw _).2.1]
    exact h.attached st
  · rw [(hw n).2.2]
    exact h.scripts n
  · obtain ⟨hold, hs, hcfg⟩ := hc id st hslot
    rw [hst]
    exact (h.slots id st hold).congr hs hcfg ⟨rfl, rfl, rfl⟩

theorem Quiet.plumbed (q : Quiet s t) (h : s.Plumbed refusing) : t.Plumbed refusing := by
  refine h.of_same q.stream (fun n => ?_) (fun id st hslot => ?_) fun st hm => q.ready _ hm
  · have hl := q.line n
    exact ⟨congrArg Line.streamCount hl, congrArg Line.attached hl, congrArg Line.scripts hl⟩
  · rw [q.scope] at hslot
    exact ⟨hslot, q.switch id, congrArg Profile.config (q.profile id)⟩

/-- The agent of a switch changes. -/
theorem Plumbed.updateAgent (h : s.Plumbed refusing) (n : SwitchName) (f : Switch → Agent) :
    (s.updateSwitch n fun w => { w with agent := f w }).Plumbed refusing := by
  refine h.of_same (fun _ => rfl) (fun m => ?_) (fun _ _ hslot => ⟨hslot, rfl, rfl⟩) fun _ hm => hm
  rw [switch_updateSwitch]
  split
  · next he => exact he ▸ ⟨rfl, rfl, rfl⟩
  · exact ⟨rfl, rfl, rfl⟩

/-- A script is queued; whether its stream takes frames is known. -/
theorem Plumbed.queueScript (h : s.Plumbed refusing) (n : SwitchName) {script : ScriptedStream}
    (hr : script.refusesFrames = true → refusing) :
    (s.updateSwitch n fun w =>
      { w with scriptedStreams := w.scriptedStreams ++ [script] }).Plumbed refusing := by
  have hw := fun m => switch_updateSwitch s n m fun w =>
    { w with scriptedStreams := w.scriptedStreams ++ [script] }
  refine ⟨fun st hle => h.fresh st ?_, h.sound, h.tended, fun st hs hd => ?_,
    fun m script' hm => ?_, h.slots⟩
  · rw [hw] at hle
    split at hle
    · next he => exact he ▸ hle
    · exact hle
  · have hatt := h.attached st hs hd
    rw [hw]
    split
    · next he => exact he ▸ hatt
    · exact hatt
  · rw [hw] at hm
    split at hm
    · rcases List.mem_append.mp hm with hm | hm
      · exact h.scripts n script' hm
      · rw [List.mem_singleton.mp hm]
        exact hr
    · exact h.scripts m script' hm

/-- A client changes in its part in the election. -/
theorem Plumbed.updateArbiter (h : s.Plumbed refusing) (id : ClientId) (f : Client → Arbiter) :
    (s.updateClient id fun c => { c with arbiter := f c }).Plumbed refusing := by
  refine h.of_same (fun _ => rfl) (fun _ => ⟨rfl, rfl, rfl⟩) (fun id' st hslot => ?_) fun _ hm => hm
  rw [client_updateClient] at hslot ⊢
  split at hslot
  · next he =>
    subst he
    rw [if_pos rfl]
    exact ⟨hslot, rfl, rfl⟩
  · next hne =>
    rw [if_neg hne]
    exact ⟨hslot, rfl, rfl⟩

/-! ### Changes of one stream -/

/-- One stream changes.  If its agent has something to do afterwards, it is runnable; and the ends of
its uplink stay if a session is open on it. -/
theorem Plumbed.of_stream (h : s.Plumbed refusing) (w : Stream) (hf : (s.stream st).Flows w)
    (hst : ∀ st', t.stream st' = if st = st' then w else s.stream st')
    (hc : ∀ id, t.client id = s.client id) (hw : ∀ n, t.switch n = s.switch n)
    (ha : w.Astir → .serve st ∈ t.ready)
    (hr : ∀ st', st ≠ st' → .serve st' ∈ s.ready → .serve st' ∈ t.ready)
    (hu : ∀ id, (s.client id).scope.slot = some st →
      w.uplink.hasSender = (s.stream st).uplink.hasSender ∧
        w.uplink.capacity = (s.stream st).uplink.capacity ∧
        w.uplink.hasReceiver = (s.stream st).uplink.hasReceiver) : t.Plumbed refusing := by
  -- everywhere the question is only whether the stream is the one that changes
  refine ⟨fun st' hle => ?_, fun st' => ?_, fun st' hb => ?_, fun st' hs hd => ?_, fun n => ?_,
    fun id st' hslot => ?_⟩
  · rw [hw] at hle
    have hdead := h.fresh st' hle
    rw [hst]
    split
    · next he => exact hf.dead (he ▸ hdead)
    · exact hdead
  · rw [hst]
    split
    · exact hf.sound (h.sound st)
    · exact h.sound st'
  · rw [hst] at hb
    split at hb
    · next he => exact he ▸ ha hb
    · next hne => exact hr st' hne (h.tended st' hb)
  · rw [hst] at hs hd
    rw [hw]
    split at hs
    · next he =>
      subst he
      rw [if_pos rfl] at hd
      obtain ⟨hs', hd'⟩ := hf.lent hs hd
      exact h.attached st hs' hd'
    · next hne =>
      rw [if_neg hne] at hd
      exact h.attached st' hs hd
  · rw [hw]
    exact h.scripts n
  · rw [hc] at hslot ⊢
    have hold := h.slots id st' hslot
    rw [hst]
    split
    · next he =>
      subst he
      exact hold.congr rfl rfl (hu id hslot)
    · exact hold

/-- A frame is queued on an uplink. -/
theorem Plumbed.queue (h : s.Plumbed refusing) {frame : StreamRequest}
    {uplink : Pipe StreamRequest} (hu : (s.stream st).uplink.send frame = .ok uplink) :
    ((s.updateStream st fun v => { v with uplink }).wake (.serve st)).Plumbed refusing := by
  obtain ⟨hr, -, he⟩ := Pipe.send_eq_ok.mp hu
  refine h.of_stream { s.stream st with uplink } ⟨fun hd => ?_, fun hs => ⟨fun _ => ?_, hs.roomy, hs.heard⟩,
    fun hs hd => ⟨hs, hd⟩⟩ (fun st' => ?_) (fun id => ?_) (fun n => ?_)
    (fun _ => (mem_ready_wake _).mpr (.inl rfl)) (fun _ _ hm => (mem_ready_wake _).mpr (.inr hm))
    fun _ _ => by rw [he]; exact ⟨rfl, rfl, rfl⟩
  · rw [hd] at hr
    cases hr
  · rw [he]
    exact hr
  · rw [stream_wake]
    exact stream_updateStream s st st' _
  · rw [client_wake]
    rfl
  · rw [switch_wake]
    rfl

/-- The agent takes a frame from an uplink. -/
theorem Plumbed.takeUp (h : s.Plumbed refusing) {frame : StreamRequest}
    {uplink : Pipe StreamRequest} (hv : (s.stream st).served = true)
    (hu : (s.stream st).uplink.receive = .frame frame uplink) :
    (s.updateStream st fun v => { v with uplink }).Plumbed refusing := by
  obtain ⟨hf, he⟩ := Pipe.receive_eq_frame.mp hu
  have hready := h.tended st ⟨hv, .inl (by rw [hf]; simp)⟩
  refine h.of_stream { s.stream st with uplink } ⟨fun hd => ?_,
    fun hs => ⟨fun _ => ?_, hs.roomy, hs.heard⟩, fun hs hd => ⟨hs, hd⟩⟩
    (stream_updateStream s st · fun v => { v with uplink }) (fun _ => rfl) (fun _ => rfl)
    (fun _ => hready) (fun _ _ hm => hm) fun _ _ => ?_
  · rw [hd] at hv
    cases hv
  · rw [he]
    exact hs.reader hv
  · rw [he]
    exact ⟨rfl, rfl, rfl⟩

/-- A downlink changes in the frames that wait on it. -/
theorem Plumbed.changeDown (h : s.Plumbed refusing) {downlink : Pipe (Arrival StreamResponse)}
    (hne : s.stream st = .dead → downlink = (s.stream st).downlink)
    (hd : downlink = { (s.stream st).downlink with frames := downlink.frames }) :
    (s.updateStream st fun v => { v with downlink }).Plumbed refusing := by
  refine h.of_stream { s.stream st with downlink } ⟨fun hdead => ?_,
    fun hs => ⟨hs.reader, ?_, fun hl => ?_⟩, fun hs hd' => ⟨hs, ?_⟩⟩
    (stream_updateStream s st · fun v => { v with downlink }) (fun _ => rfl) (fun _ => rfl)
    (fun hb => h.tended st hb) (fun _ _ hm => hm) fun _ _ => ⟨rfl, rfl, rfl⟩
  · rw [hne hdead, hdead]
  · rw [hd]
    exact hs.roomy
  · rw [hd]
    exact hs.heard hl
  · rw [hd] at hd'
    exact hd'

/-- The agent sends a frame. -/
theorem Plumbed.pushFrame (h : s.Plumbed refusing) (n : SwitchName)
    (frame : Arrival StreamResponse) : (s.pushFrame n frame).1.Plumbed refusing := by
  unfold System.pushFrame
  split
  · exact h
  · next serial ha =>
    split
    · exact h
    · next downlink hd =>
      obtain ⟨hr, -, rfl⟩ := Pipe.send_eq_ok.mp hd
      refine (quiet_wake _).plumbed (h.changeDown (fun hdead => ?_) rfl)
      rw [hdead] at hr
      cases hr

theorem Plumbed.serveFrame (h : s.Plumbed refusing) (n : SwitchName) (frame : StreamRequest) :
    (s.serveFrame n frame).Plumbed refusing := by
  cases frame with
  | packet packet => exact h.updateAgent n fun w => w.agent.receivePacket packet
  | arbitration claim =>
    rw [serveFrame_arbitration]
    split
    · exact h.updateAgent n _
    · exact (h.updateAgent n _).pushFrame n _

/-- The one who reads a downlink goes. -/
theorem Plumbed.dropListener (h : s.Plumbed refusing) (st : StreamId) :
    (s.dropListener st).Plumbed refusing := by
  refine h.of_stream
    { s.stream st with downlink := (s.stream st).downlink.dropReceiver, listener := none }
    ⟨fun hdead => ?_, fun hs => ⟨hs.reader, hs.roomy, ?_⟩, fun hs hd => ⟨hs, hd⟩⟩
    (stream_dropListener s st) (fun _ => rfl) (fun _ => rfl)
    (fun hb => h.tended st hb) (fun _ _ hm => hm) fun _ _ => ⟨rfl, rfl, rfl⟩
  · rw [hdead]
    rfl
  · rintro ⟨⟩

/-- Someone lets go of the uplink of a stream on which no session is open. -/
theorem Plumbed.dropUplink (h : s.Plumbed refusing)
    (hn : ∀ id, (s.client id).scope.slot ≠ some st) : (s.dropUplink st).Plumbed refusing := by
  refine h.of_stream { s.stream st with uplink := (s.stream st).uplink.dropSender }
    ⟨fun hdead => ?_, fun hs => ⟨hs.reader, hs.roomy, hs.heard⟩, fun hs hd => ⟨hs, hd⟩⟩
    (stream_dropUplink s st) (fun id => ?_) (fun n => ?_)
    (fun _ => (mem_ready_wake _).mpr (.inl rfl)) (fun _ _ hm => (mem_ready_wake _).mpr (.inr hm))
    fun id hslot => absurd hslot (hn id)
  · rw [hdead]
    rfl
  · exact (sameClients_dropUplink s st).client id
  · exact switch_wake _ _ _

/-- The agent is done with an uplink. -/
theorem Plumbed.drained (h : s.Plumbed refusing) (hr : s.ready.head? = some (.serve st))
    (hs : (s.stream st).uplink.hasSender = false) :
    (s.dequeue.updateStream st fun v =>
      { v with uplink := v.uplink.dropReceiver, served := false }).Plumbed refusing := by
  refine h.of_stream
    { s.stream st with uplink := (s.stream st).uplink.dropReceiver, served := false }
    ⟨fun hdead => ?_, fun hv => ⟨?_, hv.roomy, hv.heard⟩, ?_⟩
    (stream_updateStream s.dequeue st · fun v =>
      { v with uplink := v.uplink.dropReceiver, served := false }) (fun _ => rfl) (fun _ => rfl) ?_ (fun st' hne hm => ?_)
    fun id hslot => ?_
  · rw [hdead]
    rfl
  · rintro ⟨⟩
  · rintro ⟨⟩
  · rintro ⟨⟨⟩, -⟩
  -- the agents of other streams are still there behind the first task
  · show Task.serve st' ∈ s.ready.tail
    cases hready : s.ready with
    | nil => rw [hready] at hm; cases hm
    | cons first rest =>
      rw [hready] at hr hm
      cases hr
      exact (List.mem_cons.mp hm).resolve_left fun he => hne (Task.serve.inj he).symm
  · rw [(h.slots id st hslot).sends] at hs
    cases hs

/-- The running task leaves the queue, and it is not an agent that has something to do. -/
theorem Plumbed.dequeue (h : s.Plumbed refusing) {task : Task} (hr : s.ready.head? = some task)
    (hi : ∀ st, task = .serve st → ¬ (s.stream st).Astir) : s.dequeue.Plumbed refusing := by
  refine ⟨h.fresh, h.sound, fun st ha => ?_, h.attached, h.scripts, h.slots⟩
  have hm := h.tended st ha
  show Task.serve st ∈ s.ready.tail
  cases hready : s.ready with
  | nil => rw [hready] at hm; cases hm
  | cons first rest =>
    rw [hready] at hr hm
    cases hr
    exact (List.mem_cons.mp hm).resolve_left fun he => hi st he.symm ha

/-! ### Streams that come and go -/

/-- The agent lets go of its stream. -/
theorem Plumbed.detach (h : s.Plumbed refusing) (n : SwitchName) :
    (s.detach n).Plumbed refusing := by
  have hclient := (sameClients_detach s n).client
  have uplink : ∀ st, ((s.detach n).stream st).uplink = (s.stream st).uplink ∧
      ((s.detach n).stream st).served = (s.stream st).served := by
    intro st
    rw [stream_detach]
    split <;> exact ⟨rfl, rfl⟩
  have count : ∀ m, ((s.detach n).switch m).streamCount = (s.switch m).streamCount := by
    intro m
    rw [switch_detach]
    split
    · next he => exact he ▸ rfl
    · rfl
  refine ⟨fun st hle => ?_, fun st => ?_, fun st ha => ?_, fun st hs hd => ?_, fun m => ?_,
    fun id st hslot => ?_⟩
  · rw [count] at hle
    rw [stream_detach, h.fresh st hle]
    split <;> rfl
  · have hs := h.sound st
    rw [stream_detach]
    split
    · exact ⟨hs.reader, hs.roomy, hs.heard⟩
    · exact hs
  · refine (ready_detach s n).1 _ (h.tended st ?_)
    rwa [Stream.Astir, (uplink st).1, (uplink st).2] at ha
  · -- the stream that is let go has no sender any more
    rw [stream_detach] at hd
    rw [(uplink st).2] at hs
    split at hd
    · cases hd
    · next hne =>
      have ha := h.attached st hs hd
      rw [switch_detach, if_neg]
      · exact ha
      · rintro rfl
        exact hne ⟨rfl, ha⟩
  · rw [switch_detach]
    split
    · next he => exact he ▸ h.scripts n
    · exact h.scripts m
  · rw [hclient] at hslot ⊢
    exact (h.slots id st hslot).congr rfl rfl (by rw [(uplink st).1]; exact ⟨rfl, rfl, rfl⟩)

/-- The streams of open sessions have been set up. -/
theorem Looped.ne_nextStream (hl : s.Looped) (n : SwitchName)
    (hs : (s.client id).scope.slot = some st) : s.nextStream n ≠ st := by
  obtain ⟨token, -, hlist⟩ := hl.slots id st hs
  rintro rfl
  rw [hl.fresh _ (Nat.le_refl _)] at hlist
  cases hlist

/-- A stream is set up with the agent, which sends on it from then on. -/
theorem Plumbed.connect (h : s.Plumbed refusing) (hl : s.Looped) (n : SwitchName)
    (capacity : Option Nat) : (s.connect n capacity).1.Plumbed refusing := by
  -- The stream the agent was attached to loses its sender first.
  have hd := h.detach n
  obtain ⟨hready, -⟩ := ready_connect s n capacity
  refine ⟨fun st hle => ?_, fun st => ?_, fun st ha => ?_, fun st hs hsend => ?_, fun m => ?_,
    fun id st hslot => ?_⟩
  · have hne : s.nextStream n ≠ st := by
      rintro rfl
      rw [switch_connect, if_pos (show n = (s.nextStream n).switch from rfl)] at hle
      exact Nat.not_succ_le_self _ hle
    rw [stream_connect, if_neg hne]
    refine hd.fresh st (Nat.le_trans ?_ hle)
    rw [switch_connect, switch_detach]
    split
    · exact Nat.le_succ _
    · exact Nat.le_refl _
  · rw [stream_connect]
    split
    · exact ⟨fun _ => rfl, rfl, by rintro ⟨⟩⟩
    · exact hd.sound st
  · rw [stream_connect] at ha
    split at ha
    · simp [Stream.Astir] at ha
    · exact hready _ (hd.tended st ha)
  · rw [stream_connect] at hs hsend
    rw [switch_connect]
    split at hs
    · next he =>
      subst he
      rw [if_pos (show n = (s.nextStream n).switch from rfl)]
      rfl
    · next hne =>
      rw [if_neg hne] at hsend
      have ha := hd.attached st hs hsend
      rw [switch_detach] at ha
      split at ha
      · cases ha
      · next hsw => rw [if_neg hsw, ha]
  · rw [switch_connect]
    split
    · next he => exact he ▸ h.scripts n
    · exact h.scripts m
  · rw [(sameClients_connect s n capacity).client] at hslot ⊢
    rw [stream_connect, if_neg (hl.ne_nextStream n hslot)]
    have hslot' := hslot
    rw [← (sameClients_detach s n).client] at hslot'
    exact (hd.slots id st hslot').congr (by rw [(sameClients_detach s n).client])
      (by rw [(sameClients_detach s n).client]) ⟨rfl, rfl, rfl⟩

theorem stream_playScript (s : System) (n : SwitchName) (capacity : Option Nat)
    (script : ScriptedStream) (rest : List ScriptedStream) (st : StreamId) :
    (s.playScript n capacity script rest).1.stream st =
      if s.nextStream n = st then scriptedStream capacity script else s.stream st := by
  rw [← (adds_playScript s n capacity script rest).name]
  exact stream_updateStream (s.updateSwitch n fun w => { w with scriptedStreams := rest }) _ st
    fun _ => scriptedStream capacity script

/-- The stream of a script is set up; the agent has no part in it. -/
theorem Plumbed.playScript (h : s.Plumbed refusing) (hl : s.Looped) (n : SwitchName)
    (capacity : Option Nat) {script : ScriptedStream} {rest : List ScriptedStream}
    (hs : (s.switch n).scriptedStreams = script :: rest) :
    (s.playScript n capacity script rest).1.Plumbed refusing := by
  have ha := adds_playScript s n capacity script rest
  have hst := stream_playScript s n capacity script rest
  have hw : ∀ m, (s.playScript n capacity script rest).1.switch m =
      if n = m then { s.switch n with scriptedStreams := rest, streamCount := (s.switch n).streamCount + 1 }
      else s.switch m := by
    intro m
    show (updateSwitch _ n _).switch m = _
    rw [switch_updateSwitch, switch_updateStream, switch_updateStream, switch_updateSwitch_self]
    split
    · rfl
    · next hne => rw [switch_updateSwitch, if_neg hne]
  refine ⟨fun st hle => ?_, fun st => ?_, fun st hb => ?_, fun st hv hd => ?_,
    fun m script' hm => ?_, fun id st hslot => ?_⟩
  -- The serial number of the new stream is counted from now on.
  · have hne : s.nextStream n ≠ st := by
      rintro rfl
      rw [hw, if_pos (show n = (s.nextStream n).switch from rfl)] at hle
      exact Nat.not_succ_le_self _ hle
    rw [hst, if_neg hne]
    refine h.fresh st (Nat.le_trans ?_ hle)
    rw [ha.count]
    exact Nat.le_add_right _ _
  · rw [hst]
    split
    · exact ⟨by rintro ⟨⟩, rfl, by rintro ⟨⟩⟩
    · exact h.sound st
  · rw [hst] at hb
    split at hb
    · cases hb.1
    · exact h.tended st hb
  · rw [hst] at hv hd
    split at hv
    · cases hv
    · next hne =>
      rw [if_neg hne] at hd
      rw [hw]
      split
      · next he => exact he ▸ h.attached st hv hd
      · exact h.attached st hv hd
  · rw [hw] at hm
    split at hm
    · exact h.scripts n script' (by rw [hs]; exact List.mem_cons_of_mem _ hm)
    · exact h.scripts m script' hm
  · have hc : ∀ id, (s.playScript n capacity script rest).1.client id = s.client id :=
      (sameClients_playScript s n capacity script rest).client
    rw [hc] at hslot ⊢
    rw [hst, if_neg (hl.ne_nextStream n hslot)]
    exact h.slots id st hslot

/-! ### Sessions that open and end -/

/-- A session opens on a stream. -/
theorem Plumbed.goLive (h : s.Plumbed refusing) {activated : Scope StreamId}
    (hs : activated.slot = some st) (hset : st.serial < (s.switch st.switch).streamCount)
    (hr : (s.stream st).downlink.hasReceiver = true)
    (hu : (s.client id).Uses refusing st (s.stream st)) (token : Token) (afterFailure : Bool) :
    (s.goLive id token afterFailure activated st).Plumbed refusing := by
  have hst := stream_goLive s id token afterFailure activated st
  have uplink : ∀ st', ((s.goLive id token afterFailure activated st).stream st').uplink =
      (s.stream st').uplink ∧ ((s.goLive id token afterFailure activated st).stream st').served =
        (s.stream st').served ∧ ((s.goLive id token afterFailure activated st).stream st').downlink =
          (s.stream st').downlink := by
    intro st'
    rw [hst]
    split
    · next he => exact he ▸ ⟨rfl, rfl, rfl⟩
    · exact ⟨rfl, rfl, rfl⟩
  refine ⟨fun st' hle => ?_, fun st' => ?_, fun st' hb => ?_, fun st' hv hd => ?_, fun n => ?_,
    fun id' st' hslot => ?_⟩
  · rw [switch_goLive] at hle
    rw [hst, if_neg]
    · exact h.fresh st' hle
    -- The stream has been set up, so it is not one of those to come.
    · rintro rfl
      exact Nat.lt_irrefl _ (Nat.lt_of_lt_of_le hset hle)
  · have hsound := h.sound st'
    rw [hst]
    split
    · next he =>
      subst he
      exact ⟨hsound.reader, hsound.roomy, fun _ => hr⟩
    · exact hsound
  · rw [mem_ready_goLive]
    rw [Stream.Astir, (uplink st').1, (uplink st').2.1] at hb
    exact .inr (h.tended st' hb)
  · rw [(uplink st').2.1] at hv
    rw [(uplink st').2.2] at hd
    rw [switch_goLive]
    exact h.attached st' hv hd
  · rw [switch_goLive]
    exact h.scripts n
  · have same := (uplink st').1
    rw [client_goLive] at hslot ⊢
    split at hslot
    · next he =>
      subst he
      obtain rfl : st = st' := Option.some.inj (hs.symm.trans hslot)
      rw [if_pos rfl]
      exact hu.congr rfl rfl (by rw [same]; exact ⟨rfl, rfl, rfl⟩)
    · next hne =>
      rw [if_neg hne]
      exact (h.slots id' st' hslot).congr rfl rfl (by rw [same]; exact ⟨rfl, rfl, rfl⟩)

theorem Plumbed.beginScope (h : s.Plumbed refusing) (hv : s.Valid) {afterFailure : Bool}
    {begun : Scope StreamId}
    (hb : (s.client id).scope.begin = some (token, afterFailure, begun)) :
    (s.beginScope id begun).Plumbed refusing := by
  refine h.of_same (fun _ => rfl) (fun _ => ⟨rfl, rfl, rfl⟩) (fun id' st hslot => ?_) fun _ hm => hm
  obtain ⟨hold, -⟩ := (spins_beginScope hv hb).slots id' st hslot
  refine ⟨hold, ?_⟩
  rw [client_beginScope]
  split
  · next he => exact he ▸ ⟨rfl, rfl⟩
  · exact ⟨rfl, rfl⟩

/-- The sessions of two clients are on different streams. -/
theorem Looped.slot_inj {id' : ClientId} (hl : s.Looped)
    (h : (s.client id).scope.slot = some st) (h' : (s.client id').scope.slot = some st) :
    id = id' := by
  obtain ⟨token, -, hlist⟩ := hl.slots id st h
  obtain ⟨token', -, hlist'⟩ := hl.slots id' st h'
  rw [hlist] at hlist'
  exact congrArg Prod.fst (Option.some.inj hlist')

/-- A scope ends, and the agent that reads its stream's uplink is told. -/
theorem Plumbed.endScope (h : s.Plumbed refusing) (hl : s.Looped) (id : ClientId)
    {ended : Scope StreamId} (hs : ended.slot = none) : (s.endScope id ended).Plumbed refusing := by
  refine ⟨fun st hle => ?_, fun st => ?_, fun st hb => ?_, fun st hv hd => ?_, fun n => ?_,
    fun id' st hslot => ?_⟩
  · rw [switch_endScope] at hle
    rw [stream_endScope, h.fresh st hle]
    split <;> rfl
  · have hsound := h.sound st
    rw [stream_endScope]
    split
    · exact ⟨hsound.reader, hsound.roomy, hsound.heard⟩
    · exact hsound
  · rw [stream_endScope] at hb
    split at hb
    · next hslot =>
      refine (ready_endScope s id ended).2 _ ?_
      simp [roused, hslot]
    · exact mem_ready_endScope (h.tended st hb) id ended
  · rw [switch_endScope]
    rw [stream_endScope] at hv hd
    split at hv
    · next hslot =>
      rw [if_pos hslot] at hd
      exact h.attached st hv hd
    · next hslot =>
      rw [if_neg hslot] at hd
      exact h.attached st hv hd
  · rw [switch_endScope]
    exact h.scripts n
  · obtain ⟨hne, hsame⟩ := slot_of_endScope hs hslot
    rw [hsame] at hslot ⊢
    -- the stream that ends is not that of another client
    rw [stream_endScope, if_neg fun h' => hne (hl.slot_inj h' hslot)]
    exact h.slots id' st hslot

theorem Plumbed.closeSession (h : s.Plumbed refusing) (hl : s.Looped) (id : ClientId) :
    (s.closeSession id).Plumbed refusing := by
  have he := h.endScope hl id (Scope.slot_close (s.client id).scope)
  rw [closeSession_eq]
  split
  · exact he.of_same (fun _ => rfl) (fun _ => ⟨rfl, rfl, rfl⟩) (fun _ _ hs => ⟨hs, rfl, rfl⟩)
      fun _ hm => hm
  · exact he

theorem Plumbed.failSession (h : s.Plumbed refusing) (hl : s.Looped)
    (ht : (s.client id).scope.current = some token) :
    (s.failSession id token).Plumbed refusing := by
  rw [failSession_eq ht]
  exact h.endScope hl id rfl

end System

end P4Control
