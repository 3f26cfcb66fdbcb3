import P4Control.Proofs.Standing
import P4Control.Proofs.Valid

namespace P4Control.System

/-!
# Both ends of the streams

Five things tell of a session: the queue that the client has installed, the inbound loop that reads
the stream, the stream itself, the stream on which the agent sends, and the tasks that are runnable.
As long as nothing is done past clients and agents, they fit together.

* `Joint` — what holds of one stream and of the two that use it.
* `Linked` — what holds of all streams, and of the clients with an open session.
* `Happens.linked`, `Leads.linked` — incidents keep it.
-/

/-- A stream is known at both ends, and whoever has something to do on it is runnable. -/
structure Joint (s : System) (st : StreamId) : Prop where
  /-- A stream that has not been set up is dead. -/
  fresh : (s.switch st.switch).streamCount ≤ st.serial → s.stream st = .dead
  /-- The agent can send on the stream that it has. -/
  sender : (s.stream st).downlink.hasSender = true ↔ (s.switch st.switch).attached = some st.serial
  /-- What it sends can be read as long as an inbound loop is there to read it. -/
  receiver : (s.stream st).downlink.hasReceiver = true ↔ (s.stream st).listener.isSome = true
  owner : ∀ id token, (s.stream st).listener = some (id, token) → st.switch = (s.client id).switch
  /-- An inbound loop waits only for frames that may still come, in a scope that has not ended. -/
  listens : ∀ id token, (s.stream st).listener = some (id, token) →
    (s.client id).scope.isCancelled token = true ∨ (s.stream st).downlink.frames ≠ [] ∨
      (s.stream st).downlink.hasSender = false → .listen st ∈ s.ready
  /-- So does the agent. -/
  serves : (s.stream st).served = true →
    (s.stream st).uplink.frames ≠ [] ∨ (s.stream st).uplink.hasSender = false →
      .serve st ∈ s.ready
  /-- What clients send can be queued as long as the agent reads it, and no longer. -/
  reader : (s.stream st).uplink.hasReceiver = (s.stream st).served
  drained : (s.stream st).served = false → (s.stream st).uplink.frames = []
  /-- What the agent sends always finds room. -/
  roomy : (s.stream st).downlink.capacity = none

/-- All streams are known at both ends, and an open session has one whose inbound loop is its own. -/
structure Linked (s : System) : Prop where
  streams : ∀ st, s.Joint st
  slots : ∀ id st, (s.client id).scope.slot = some st →
    ∃ token, (s.client id).scope.current = some token ∧ (s.stream st).listener = some (id, token)
  scripts : ∀ n, (s.switch n).scriptedStreams = []

variable {s t : System}

theorem ne_dead_of_listener {v : Stream} {l : ClientId × Token} (h : v.listener = some l) :
    v ≠ .dead := by
  rintro rfl
  cases h

theorem ne_dead_of_served {v : Stream} (h : v.served = true) : v ≠ .dead := by
  rintro rfl
  cases h

theorem ne_dead_of_hasSender {v : Stream} (h : v.downlink.hasSender = true) : v ≠ .dead := by
  rintro rfl
  cases h

/-- The stream that an agent has has been set up. -/
theorem Joint.ne_dead_of_attached {st : StreamId} (h : s.Joint st)
    (ha : (s.switch st.switch).attached = some st.serial) : s.stream st ≠ .dead :=
  ne_dead_of_hasSender (h.sender.mpr ha)

/-! ### Changes elsewhere -/

/-- A stream that does not change stays joined, as long as whoever has to do something on it is
runnable. -/
theorem Joint.mono {st : StreamId} (h : s.Joint st) (hst : t.stream st = s.stream st)
    (hn : (s.switch st.switch).streamCount ≤ (t.switch st.switch).streamCount)
    (ha : (t.switch st.switch).attached = some st.serial ↔
      (s.switch st.switch).attached = some st.serial)
    (hc : ∀ id token, (s.stream st).listener = some (id, token) →
      (t.client id).switch = (s.client id).switch ∧
        ((t.client id).scope.isCancelled token = true →
          (s.client id).scope.isCancelled token = true))
    (hr : ∀ task ∈ s.ready, task = .listen st ∨ task = .serve st → task ∈ t.ready) :
    t.Joint st := by
  constructor
  case fresh =>
    intro hle
    rw [hst]
    exact h.fresh (Nat.le_trans hn hle)
  case sender =>
    rw [hst, ha]
    exact h.sender
  case receiver =>
    rw [hst]
    exact h.receiver
  case owner =>
    intro id token hl
    rw [hst] at hl
    rw [(hc id token hl).1]
    exact h.owner id token hl
  case listens =>
    intro id token hl hbusy
    rw [hst] at hl hbusy
    refine hr _ (h.listens id token hl ?_) (.inl rfl)
    -- the scope has not been cancelled in between, so the loop had that to do before
    exact hbusy.imp_left (hc id token hl).2
  case serves =>
    intro hs hbusy
    rw [hst] at hs hbusy
    exact hr _ (h.serves hs hbusy) (.inr rfl)
  case reader =>
    rw [hst]
    exact h.reader
  case drained =>
    rw [hst]
    exact h.drained
  case roomy =>
    rw [hst]
    exact h.roomy

/-- Neither clients nor streams nor switches change in what matters here. -/
theorem Linked.of_same (h : s.Linked)
    (hc : ∀ id, (t.client id).scope = (s.client id).scope ∧
      ((s.client id).switch = (t.client id).switch ∨ ∀ st token, (s.stream st).listener ≠ some (id, token)))
    (hst : ∀ st, t.stream st = s.stream st)
    (hw : ∀ n, (t.switch n).streamCount = (s.switch n).streamCount ∧
      (t.switch n).attached = (s.switch n).attached ∧
      (t.switch n).scriptedStreams = (s.switch n).scriptedStreams)
    (hr : ∀ task ∈ s.ready, task ∈ t.ready) : t.Linked := by
  refine ⟨fun st => ?_, ?_, ?_⟩
  · obtain ⟨hn, ha, -⟩ := hw st.switch
    refine (h.streams st).mono (hst st) (Nat.le_of_eq hn.symm) (by rw [ha]) ?_ fun task hm _ => hr task hm
    intro id token hl
    obtain ⟨hs, he⟩ := hc id
    refine ⟨(he.resolve_right fun hne => hne st token hl).symm, ?_⟩
    rw [hs]
    exact fun hcan => hcan
  · intro id st hs
    -- scopes and loops are as before
    rw [(hc id).1] at hs ⊢
    obtain ⟨token, ht, hl⟩ := h.slots id st hs
    exact ⟨token, ht, by rw [hst, hl]⟩
  · intro n
    rw [(hw n).2.2]
    exact h.scripts n

theorem Quiet.linked (q : Quiet s t) (h : s.Linked) : t.Linked := by
  refine h.of_same ?_ q.stream ?_ q.ready
  · intro id
    exact ⟨q.scope id, .inl (q.switch id).symm⟩
  · intro n
    have hl := q.line n
    exact ⟨congrArg Line.streamCount hl, congrArg Line.attached hl, congrArg Line.scripts hl⟩

/-! ### Changes of one stream -/

/-- One stream changes in its frames or its uplink.  Whoever has something more to do on it is
runnable, and the others stay so. -/
theorem Linked.of_stream (h : s.Linked) {st : StreamId} (v : Stream) (hne : s.stream st ≠ .dead)
    (hst : ∀ st', t.stream st' = if st = st' then v else s.stream st')
    (hc : ∀ id, (t.client id).scope = (s.client id).scope ∧
      (t.client id).switch = (s.client id).switch)
    (hw : ∀ n, t.switch n = s.switch n)
    (hr : ∀ task ∈ s.ready, task ≠ .serve st → task ∈ t.ready)
    (hk : v.listener = (s.stream st).listener ∧
      v.downlink.hasSender = (s.stream st).downlink.hasSender ∧
      v.downlink.hasReceiver = (s.stream st).downlink.hasReceiver ∧
      v.downlink.capacity = (s.stream st).downlink.capacity)
    (hl : v.downlink.frames ≠ [] → (s.stream st).downlink.frames ≠ [] ∨ .listen st ∈ t.ready)
    (hs : v.served = true → v.uplink.frames ≠ [] ∨ v.uplink.hasSender = false →
      .serve st ∈ t.ready)
    (hd : v.uplink.hasReceiver = v.served ∧ (v.served = false → v.uplink.frames = [])) :
    t.Linked := by
  obtain ⟨hlist, hsend, hrecv, hcap⟩ := hk
  refine ⟨fun st' => ?_, ?_, ?_⟩
  -- the stream that changes is checked field by field; any other has not changed at all
  · by_cases he : st = st'
    · subst he
      have hv : t.stream st = v := by rw [hst, if_pos rfl]
      have hj := h.streams st
      constructor
      case fresh =>
        intro hle
        rw [hw] at hle
        exact absurd (hj.fresh hle) hne
      case sender =>
        rw [hv, hw, hsend]
        exact hj.sender
      case receiver =>
        rw [hv, hrecv, hlist]
        exact hj.receiver
      case owner =>
        intro id token hl'
        rw [hv, hlist] at hl'
        rw [(hc id).2]
        exact hj.owner id token hl'
      case listens =>
        intro id token hl' hbusy
        rw [hv, hlist] at hl'
        rw [hv, (hc id).1, hsend] at hbusy
        have stays : .listen st ∈ s.ready → .listen st ∈ t.ready := fun hm => hr _ hm (by simp)
        -- only a frame that has been added can give the loop more to do than before
        rcases hbusy with hcan | hframes | hnone
        · exact stays (hj.listens id token hl' (.inl hcan))
        · rcases hl hframes with hold | hnew
          · exact stays (hj.listens id token hl' (.inr (.inl hold)))
          · exact hnew
        · exact stays (hj.listens id token hl' (.inr (.inr hnone)))
      case serves =>
        rw [hv]
        exact hs
      case reader =>
        rw [hv]
        exact hd.1
      case drained =>
        rw [hv]
        exact hd.2
      case roomy =>
        rw [hv, hcap]
        exact hj.roomy
    · refine (h.streams st').mono (by rw [hst, if_neg he]) (Nat.le_of_eq (by rw [hw]))
        (by rw [hw]) ?_ ?_
      · intro id token _
        refine ⟨(hc id).2, ?_⟩
        rw [(hc id).1]
        exact fun hcan => hcan
      · rintro task hm (rfl | rfl)
        · exact hr _ hm (by simp)
        · refine hr _ hm ?_
          intro heq
          cases heq
          exact he rfl
  · intro id st' hslot
    rw [(hc id).1] at hslot ⊢
    obtain ⟨token, ht, hl'⟩ := h.slots id st' hslot
    refine ⟨token, ht, ?_⟩
    rw [hst]
    split
    · next he => rw [hlist, he, hl']
    · exact hl'
  · intro n
    rw [hw]
    exact h.scripts n

/-- A frame is queued on an uplink. -/
theorem Linked.queue (h : s.Linked) {st : StreamId} {frame : StreamRequest}
    {uplink : Pipe StreamRequest} (hu : (s.stream st).uplink.send frame = .ok uplink) :
    ((s.updateStream st fun t => { t with uplink }).wake (.serve st)).Linked := by
  obtain ⟨hr, -, he⟩ := Pipe.send_eq_ok.mp hu
  have hj := h.streams st
  have hv : (s.stream st).served = true := hj.reader ▸ hr
  refine h.of_stream { s.stream st with uplink } (ne_dead_of_served hv) (fun st' => ?_)
    (fun id => ?_) (fun n => ?_) ?_ ⟨rfl, rfl, rfl, rfl⟩ .inl ?_ ?_
  · rw [stream_wake]
    exact stream_updateStream s st st' _
  · rw [client_wake]
    exact ⟨rfl, rfl⟩
  · rw [switch_wake]
    rfl
  · intro task hm _
    exact (mem_ready_wake _).mpr (.inr hm)
  · exact fun _ _ => (mem_ready_wake _).mpr (.inl rfl)
  · refine ⟨?_, fun hn => ?_⟩
    · rw [he]
      exact hj.reader
    · rw [show (s.stream st).served = false from hn] at hv
      cases hv

/-- The agent sends a frame. -/
theorem Linked.pushFrame (h : s.Linked) (n : SwitchName) (frame : Arrival StreamResponse) :
    (s.pushFrame n frame).1.Linked := by
  unfold System.pushFrame
  split
  · exact h
  · next serial ha =>
    split
    · exact h
    · next downlink hd =>
      obtain ⟨-, -, he⟩ := Pipe.send_eq_ok.mp hd
      -- only the downlink of the attached stream changes, and its reader is woken
      have hj := h.streams ⟨n, serial⟩
      refine h.of_stream { s.stream ⟨n, serial⟩ with downlink } (hj.ne_dead_of_attached ha)
        (fun st' => ?_) (fun id => ?_) (fun n => ?_) ?_ ?_ ?_ ?_ ⟨hj.reader, hj.drained⟩
      · rw [stream_wake]
        exact stream_updateStream s _ st' _
      · rw [client_wake]
        exact ⟨rfl, rfl⟩
      · rw [switch_wake]
        rfl
      · intro task hm _
        exact (mem_ready_wake _).mpr (.inr hm)
      · rw [he]
        exact ⟨rfl, rfl, rfl, rfl⟩
      · exact fun _ => .inr ((mem_ready_wake _).mpr (.inl rfl))
      · intro hs hbusy
        exact (mem_ready_wake _).mpr (.inr (hj.serves hs hbusy))

/-- The agent takes a frame from an uplink. -/
theorem Linked.takeUp (h : s.Linked) {st : StreamId} {frame : StreamRequest}
    {uplink : Pipe StreamRequest} (hv : (s.stream st).served = true)
    (hu : (s.stream st).uplink.receive = .frame frame uplink) :
    (s.updateStream st fun t => { t with uplink }).Linked := by
  obtain ⟨hf, he⟩ := Pipe.receive_eq_frame.mp hu
  have hj := h.streams st
  have hready : .serve st ∈ s.ready := hj.serves hv (.inl (by rw [hf]; simp))
  refine h.of_stream { s.stream st with uplink } (ne_dead_of_served hv) (fun st' => ?_)
    (fun _ => ⟨rfl, rfl⟩) (fun _ => rfl) (fun _ hm _ => hm) ⟨rfl, rfl, rfl, rfl⟩ .inl (fun _ _ => hready) ?_
  · exact stream_updateStream s st st' _
  · refine ⟨?_, fun hn => ?_⟩
    · rw [he]
      exact hj.reader
    · rw [show (s.stream st).served = false from hn] at hv
      cases hv

/-- An inbound loop takes a frame from a downlink. -/
theorem Linked.takeDown (h : s.Linked) {st : StreamId} {frame : Arrival StreamResponse}
    {downlink : Pipe (Arrival StreamResponse)} {l : ClientId × Token}
    (hl : (s.stream st).listener = some l)
    (hd : (s.stream st).downlink.receive = .frame frame downlink) :
    (s.updateStream st fun t => { t with downlink }).Linked := by
  obtain ⟨hf, he⟩ := Pipe.receive_eq_frame.mp hd
  have hj := h.streams st
  refine h.of_stream { s.stream st with downlink } (ne_dead_of_listener hl) (fun st' => ?_)
    (fun _ => ⟨rfl, rfl⟩) (fun _ => rfl) (fun _ hm _ => hm) ?_ (fun _ => .inl ?_) hj.serves ⟨hj.reader, hj.drained⟩
  · exact stream_updateStream s st st' _
  · rw [he]
    exact ⟨rfl, rfl, rfl, rfl⟩
  · rw [hf]
    simp

/-- What the agent takes in may be answered. -/
theorem Linked.serveFrame (h : s.Linked) (n : SwitchName) (frame : StreamRequest) :
    (s.serveFrame n frame).Linked := by
  have agent : ∀ agent, (s.updateSwitch n fun w => { w with agent }).Linked := by
    intro agent
    refine h.of_same (fun _ => ⟨rfl, .inl rfl⟩) (fun _ => rfl) (fun n' => ?_) fun _ hm => hm
    rw [switch_updateSwitch]
    split
    · next he => exact he ▸ ⟨rfl, rfl, rfl⟩
    · exact ⟨rfl, rfl, rfl⟩
  cases frame with
  | packet packet => exact agent _
  | arbitration claim =>
    rw [serveFrame_arbitration]
    split
    · exact agent _
    · exact (agent _).pushFrame n _

/-! ### Streams that come and go -/

/-- The agent lets go of its stream. -/
theorem Linked.detach (h : s.Linked) (n : SwitchName) : (s.detach n).Linked := by
  obtain ⟨hr, hw⟩ := ready_detach s n
  have hclient : ∀ id, (s.detach n).client id = s.client id := (sameClients_detach s n).client
  have hlist : ∀ st, ((s.detach n).stream st).listener = (s.stream st).listener := by
    intro st
    rw [stream_detach]
    split <;> rfl
  refine ⟨fun st => ?_, ?_, ?_⟩
  · have hj := h.streams st
    -- The stream that the agent was attached to loses its sender, and its listener is woken to find
    -- that out.  Every other stream is as it was.
    by_cases ha : st.switch = n ∧ (s.switch n).attached = some st.serial
    · obtain ⟨rfl, ha⟩ := ha
      have hv : (s.detach st.switch).stream st =
          { s.stream st with downlink := (s.stream st).downlink.dropSender } := by
        rw [stream_detach, if_pos ⟨rfl, ha⟩]
      constructor
      case fresh =>
        intro hle
        rw [switch_detach, if_pos rfl] at hle
        exact absurd (hj.fresh hle) (hj.ne_dead_of_attached ha)
      case sender =>
        rw [hv, switch_detach, if_pos rfl]
        simp [Pipe.dropSender]
      case receiver =>
        rw [hv]
        exact hj.receiver
      case owner =>
        intro id token hl
        rw [hlist] at hl
        rw [hclient]
        exact hj.owner id token hl
      case listens =>
        intro _ _ _ _
        exact hw st.serial ha
      case serves =>
        intro hs hbusy
        rw [hv] at hs hbusy
        exact hr _ (hj.serves hs hbusy)
      case reader =>
        rw [hv]
        exact hj.reader
      case drained =>
        rw [hv]
        exact hj.drained
      case roomy =>
        rw [hv]
        exact hj.roomy
    · refine hj.mono (by rw [stream_detach, if_neg ha]) ?_ ?_ ?_ fun task hm _ => hr task hm
      · rw [switch_detach]
        split
        · next he => exact Nat.le_of_eq (by rw [he])
        · exact Nat.le_refl _
      · rw [switch_detach]
        split
        · next he =>
          have hne : (s.switch st.switch).attached ≠ some st.serial := by
            intro h'
            rw [← he] at h'
            exact ha ⟨he.symm, h'⟩
          simp [hne]
        · exact Iff.rfl
      · intro id token _
        rw [hclient]
        exact ⟨rfl, fun hcan => hcan⟩
  · intro id st hs
    rw [hclient] at hs ⊢
    rw [hlist]
    exact h.slots id st hs
  · intro n'
    rw [switch_detach]
    split
    · next he => exact he ▸ h.scripts n
    · exact h.scripts n'

/-- A scope begins. -/
theorem Linked.began (h : s.Linked) (hv : s.Valid) {id : ClientId} {token : Token}
    {afterFailure : Bool} {begun : Scope StreamId}
    (hb : (s.client id).scope.begin = some (token, afterFailure, begun)) :
    (s.beginScope id begun).Linked := by
  obtain ⟨hc, -, -, rfl⟩ := Scope.begin_eq_some hb
  have hn := (hv.scopes id).slot_eq_none hc
  refine ⟨fun st => ?_, ?_, h.scripts⟩
  · refine (h.streams st).mono rfl (Nat.le_refl _) Iff.rfl ?_ fun _ hm _ => hm
    intro id' token' _
    rw [client_beginScope]
    split
    · next he => exact he ▸ ⟨rfl, fun hcan => hcan⟩
    · exact ⟨rfl, fun hcan => hcan⟩
  · intro id' st hs
    rw [client_beginScope] at hs ⊢
    split at hs
    · rw [show (s.client id).scope.slot = some st from hs] at hn
      cases hn
    · next hne =>
      rw [if_neg hne]
      exact h.slots id' st hs

/-- A new stream is there, which the agent sends on and the inbound loop of a client reads. -/
theorem Linked.attach (h : s.Linked) (n : SwitchName) (id : ClientId) (token : Token)
    (capacity : Option Nat) (hn : (s.switch n).attached = none)
    (hst : ∀ st, t.stream st =
      if s.nextStream n = st then ⟨{ capacity }, {}, true, some (id, token)⟩ else s.stream st)
    (hw : ∀ n', t.switch n' =
      if n = n' then
        { s.switch n with
          streamCount := (s.switch n).streamCount + 1
          attached := some (s.switch n).streamCount }
      else s.switch n')
    (hc : ∀ id', (t.client id').switch = (s.client id').switch ∧
      (t.client id').scope.cancelled = (s.client id').scope.cancelled)
    (hid : (s.client id).switch = n)
    (hslot : (t.client id).scope.current = some token ∧
      (t.client id).scope.slot = some (s.nextStream n))
    (hother : ∀ id', id ≠ id' → t.client id' = s.client id')
    (hr : ∀ task ∈ s.ready, task ∈ t.ready)
    (hnew : .listen (s.nextStream n) ∈ t.ready ∧ .serve (s.nextStream n) ∈ t.ready) :
    t.Linked := by
  -- No client can have had the new stream, which is dead until now.
  have hdead : s.stream (s.nextStream n) = .dead :=
    (h.streams (s.nextStream n)).fresh (Nat.le_refl _)
  refine ⟨fun st => ?_, ?_, ?_⟩
  · by_cases he : s.nextStream n = st
    · subst he
      have hv : t.stream (s.nextStream n) = ⟨{ capacity }, {}, true, some (id, token)⟩ := by
        rw [hst, if_pos rfl]
      have hsw : t.switch (s.nextStream n).switch = _ := (hw n).trans (if_pos rfl)
      constructor
      case fresh =>
        intro hle
        rw [hsw] at hle
        exact absurd hle (Nat.not_succ_le_self _)
      case sender =>
        rw [hv, hsw]
        exact iff_of_true rfl rfl
      case receiver =>
        rw [hv]
        exact iff_of_true rfl rfl
      case owner =>
        intro id' token' hl
        rw [hv] at hl
        cases hl
        rw [(hc id).1, hid]
        rfl
      case listens => exact fun _ _ _ _ => hnew.1
      case serves => exact fun _ _ => hnew.2
      case reader => rw [hv]
      case drained =>
        rw [hv]
        exact fun hn => by cases hn
      case roomy => rw [hv]
    · refine (h.streams st).mono (by rw [hst, if_neg he]) ?_ ?_ ?_ fun task hm _ => hr task hm
      · rw [hw]
        split
        · next hn' => exact hn' ▸ Nat.le_succ _
        · exact Nat.le_refl _
      · rw [hw]
        split
        · next hn' =>
          rw [← hn', hn]
          -- Only one stream is attached at a time, and it is the new one.
          refine iff_of_false ?_ (by simp)
          intro hs
          exact he (by rw [nextStream, Option.some.inj hs, hn'])
        · exact Iff.rfl
      · intro id' token' _
        refine ⟨(hc id').1, ?_⟩
        unfold Scope.isCancelled
        rw [(hc id').2]
        exact fun hcan => hcan
  · intro id' st hs
    by_cases hi : id = id'
    · subst hi
      obtain rfl := Option.some.inj (hslot.2.symm.trans hs)
      exact ⟨token, hslot.1, by rw [hst, if_pos rfl]⟩
    · rw [hother id' hi] at hs ⊢
      obtain ⟨token', ht, hl⟩ := h.slots id' st hs
      refine ⟨token', ht, ?_⟩
      rw [hst, if_neg, hl]
      rintro rfl
      rw [hdead] at hl
      cases hl
  · intro n'
    rw [hw]
    split
    · exact h.scripts n
    · exact h.scripts n'

/-- A session opens on a new stream with the agent. -/
theorem Linked.opened (h : s.Linked) (hv : s.Valid) {id : ClientId} {token : Token}
    {afterFailure : Bool} {begun activated : Scope StreamId} {capacity : Option Nat}
    {st : StreamId}
    (hb : (s.client id).scope.begin = some (token, afterFailure, begun))
    (hc : (s.beginScope id begun).connect (s.client id).switch capacity = (t, st))
    (ha : begun.activate token st = some activated) :
    (t.goLive id token afterFailure activated st).Linked := by
  -- before the stream is there, the scope has begun and the agent has let go of the stream before
  have hu := (h.began hv hb).detach (s.client id).switch
  obtain ⟨hcur, hact⟩ := Scope.activate_eq_some ha
  have hdetach := sameClients_detach (s.beginScope id begun) (s.client id).switch
  have hstream := stream_connect (s.beginScope id begun) (s.client id).switch capacity
  have hswitch := fun n => switch_connect (s.beginScope id begun) (s.client id).switch n capacity
  have hclients := sameClients_connect (s.beginScope id begun) (s.client id).switch capacity
  obtain ⟨hready, hserve⟩ := ready_connect (s.beginScope id begun) (s.client id).switch capacity
  have hst := connect_snd (s.beginScope id begun) (s.client id).switch capacity
  rw [hc] at hstream hswitch hclients hready hserve hst
  dsimp only at hstream hswitch hclients hready hserve hst
  have hnext : ((s.beginScope id begun).detach (s.client id).switch).nextStream
      (s.client id).switch = st := by
    rw [hst, nextStream, switch_detach, if_pos rfl]
    rfl
  have hother : ∀ id', id ≠ id' → (t.goLive id token afterFailure activated st).client id' =
      ((s.beginScope id begun).detach (s.client id).switch).client id' := by
    intro id' hi
    rw [client_goLive, if_neg hi, hclients.client, hdetach.client]
  have hself : (t.goLive id token afterFailure activated st).client id =
      { ((s.beginScope id begun).detach (s.client id).switch).client id with
        scope := activated } := by
    rw [client_goLive, if_pos rfl, hclients.client, hdetach.client]
  have hbegun : (((s.beginScope id begun).detach (s.client id).switch).client id).scope = begun ∧
      (((s.beginScope id begun).detach (s.client id).switch).client id).switch =
        (s.client id).switch := by
    rw [hdetach.client, client_beginScope, if_pos rfl]
    exact ⟨rfl, rfl⟩
  refine hu.attach (s.client id).switch id token capacity ?_ ?_ ?_ ?_ hbegun.2 ?_ hother ?_ ?_
  · rw [switch_detach, if_pos rfl]
  · intro st'
    rw [stream_goLive, hnext]
    by_cases he : st = st'
    · rw [if_pos he, if_pos he, hstream, if_pos hst.symm]
    · rw [if_neg he, if_neg he, hstream, if_neg (hst ▸ he)]
  · intro n
    rw [switch_goLive, hswitch, switch_detach, if_pos rfl, switch_detach]
    by_cases hn : (s.client id).switch = n <;> simp [hn]
  · intro id'
    by_cases hi : id = id'
    · subst hi
      rw [hself, hbegun.1, hact]
      exact ⟨rfl, rfl⟩
    · rw [hother id' hi]
      exact ⟨rfl, rfl⟩
  · rw [hself, hnext, hact]
    exact ⟨hcur, rfl⟩
  · intro task hm
    exact (mem_ready_goLive _ _ _ _ _ _).mpr (.inr (hready task hm))
  · rw [hnext]
    refine ⟨(mem_ready_goLive _ _ _ _ _ _).mpr (.inl rfl), ?_⟩
    exact (mem_ready_goLive _ _ _ _ _ _).mpr (.inr (hst ▸ hserve))

/-- A scope ends that at most one session was open in, and nothing else is cancelled: whoever reads or
serves its stream is runnable. -/
theorem Linked.joint_endScope (h : s.Linked) (hv : s.Valid) (id : ClientId) (ended : Scope StreamId)
    (hcan : ∀ token, ended.isCancelled token = true →
      (s.client id).scope.isCancelled token = true ∨ (s.client id).scope.current = some token)
    (st : StreamId) : (s.endScope id ended).Joint st := by
  have hj := h.streams st
  obtain ⟨hlist, hdown⟩ := downlink_endScope s id ended st
  have hup : ((s.endScope id ended).stream st).served = (s.stream st).served ∧
      ((s.endScope id ended).stream st).uplink.frames = (s.stream st).uplink.frames ∧
      ((s.endScope id ended).stream st).uplink.hasReceiver = (s.stream st).uplink.hasReceiver := by
    rw [stream_endScope]
    split <;> exact ⟨rfl, rfl, rfl⟩
  obtain ⟨hserved, hframes, hrecv⟩ := hup
  constructor
  case fresh =>
    intro hle
    rw [switch_endScope] at hle
    have hdead := hj.fresh hle
    rw [stream_endScope, if_neg, hdead]
    intro hs
    obtain ⟨token, -, hl⟩ := h.slots id st hs
    exact ne_dead_of_listener hl hdead
  case sender =>
    rw [hdown, switch_endScope]
    exact hj.sender
  case receiver =>
    rw [hdown, hlist]
    exact hj.receiver
  case owner =>
    intro id' token hl
    rw [hlist] at hl
    rw [client_endScope]
    split
    · next he => exact he ▸ hj.owner id' token hl
    · exact hj.owner id' token hl
  case listens =>
    intro id' token hl hbusy
    rw [hlist] at hl
    rw [hdown] at hbusy
    have stays := fun hb => mem_ready_endScope (hj.listens id' token hl hb) id ended
    rcases hbusy with hc | hbusy
    · exact (hv.listen_ready_endScope hcan hl hc).elim (fun hold => stays (.inl hold)) fun hnew => hnew
    · exact stays (.inr hbusy)
  case serves =>
    intro hs hbusy
    rw [hserved] at hs
    rw [hframes] at hbusy
    -- The agent that serves the stream of this session has been woken.
    by_cases he : (s.client id).scope.slot = some st
    · refine (ready_endScope s id ended).2 _ ?_
      simp [roused, he]
    · rw [stream_endScope, if_neg he] at hbusy
      exact mem_ready_endScope (hj.serves hs hbusy) id ended
  case reader =>
    rw [hrecv, hserved]
    exact hj.reader
  case drained =>
    rw [hserved, hframes]
    exact hj.drained
  case roomy =>
    rw [hdown]
    exact hj.roomy

/-- The scope of a client ends, and nothing else is cancelled. -/
theorem Linked.endScope (h : s.Linked) (hv : s.Valid) (id : ClientId) (ended : Scope StreamId)
    (hslot : ended.slot = none)
    (hcan : ∀ token, ended.isCancelled token = true →
      (s.client id).scope.isCancelled token = true ∨ (s.client id).scope.current = some token) :
    (s.endScope id ended).Linked := by
  refine ⟨h.joint_endScope hv id ended hcan, fun id' st hs => ?_, fun n => ?_⟩
  · have hsame := (slot_of_endScope hslot hs).2
    rw [hsame] at hs ⊢
    rw [(downlink_endScope s id ended st).1]
    exact h.slots id' st hs
  · rw [switch_endScope]
    exact h.scripts n

theorem Linked.post (h : s.Linked) (e : Event) : (s.post e).Linked :=
  ⟨fun st => ⟨(h.streams st).fresh, (h.streams st).sender, (h.streams st).receiver,
    (h.streams st).owner, (h.streams st).listens, (h.streams st).serves, (h.streams st).reader,
    (h.streams st).drained, (h.streams st).roomy⟩, h.slots, h.scripts⟩

theorem Linked.closeSession (h : s.Linked) (hv : s.Valid) (id : ClientId) :
    (s.closeSession id).Linked := by
  have hl := h.endScope hv id (s.client id).scope.close.2 (Scope.slot_close _)
    fun token hc => (Scope.isCancelled_close _ token).mp hc
  rw [closeSession_eq]
  split
  · exact hl.post _
  · exact hl

theorem Linked.failSession (h : s.Linked) (hv : s.Valid) {id : ClientId} {token : Token}
    (ht : (s.client id).scope.current = some token) : (s.failSession id token).Linked := by
  rw [failSession_eq ht]
  exact h.endScope hv id _ rfl fun token' hc => (Scope.isCancelled_ended ht rfl token').mp hc

/-! ### Tasks that end or wait -/

/-- A task other than the one that leaves the queue stays in it. -/
theorem mem_dequeue {task head : Task} (hh : s.ready.head? = some head) (hm : task ∈ s.ready)
    (hne : task ≠ head) : task ∈ s.dequeue.ready := by
  show task ∈ s.ready.tail
  cases hr : s.ready with
  | nil =>
    rw [hr] at hm
    cases hm
  | cons first rest =>
    rw [hr] at hh hm
    cases hh
    exact (List.mem_cons.mp hm).resolve_left hne

/-- A task that finds nothing to do waits. -/
theorem Linked.idled (h : s.Linked) {task : Task} (hh : s.ready.head? = some task)
    (hi : s.Idle task) : s.dequeue.Linked := by
  refine ⟨fun st => ?_, h.slots, h.scripts⟩
  have hj := h.streams st
  refine ⟨hj.fresh, hj.sender, hj.receiver, hj.owner, ?_, ?_, hj.reader, hj.drained, hj.roomy⟩
  · intro id token hl hbusy
    refine mem_dequeue hh (hj.listens id token hl hbusy) ?_
    rintro rfl
    -- the task that is taken off has nothing to do
    obtain ⟨hc, hf, hs⟩ := hi id token hl
    rcases hbusy with hb | hb | hb
    · rw [show (s.client id).scope.isCancelled token = true from hb] at hc
      cases hc
    · exact hb hf
    · rw [show (s.stream st).downlink.hasSender = false from hb] at hs
      cases hs
  · intro hs hbusy
    refine mem_dequeue hh (hj.serves hs hbusy) ?_
    rintro rfl
    -- nor has an agent whose uplink is empty
    obtain ⟨hf, hsend⟩ := hi hs
    rcases hbusy with hb | hb
    · exact hb hf
    · rw [show (s.stream st).uplink.hasSender = false from hb] at hsend
      cases hsend

/-- An inbound loop ends with its scope. -/
theorem Linked.left (h : s.Linked) (hv : s.Valid) {id : ClientId} {token : Token} {st : StreamId}
    (hh : s.ready.head? = some (.listen st)) (hl : (s.stream st).listener = some (id, token))
    (hc : (s.client id).scope.isCancelled token = true) : (s.dequeue.dropListener st).Linked := by
  have hst : ∀ st', (s.dequeue.dropListener st).stream st' = if st = st' then
      { s.stream st with downlink := (s.stream st).downlink.dropReceiver, listener := none }
      else s.stream st' := stream_dropListener s.dequeue st
  refine ⟨fun st' => ?_, ?_, h.scripts⟩
  · have hj := h.streams st'
    by_cases he : st = st'
    · subst he
      have hs := (hst st).trans (if_pos rfl)
      constructor
      case fresh =>
        intro hle
        exact absurd (hj.fresh hle) (ne_dead_of_listener hl)
      case sender =>
        rw [hs]
        exact hj.sender
      case receiver =>
        rw [hs]
        exact iff_of_false (by simp [Pipe.dropReceiver]) (by simp)
      case owner =>
        intro id' token' hl'
        rw [hs] at hl'
        cases hl'
      case listens =>
        intro id' token' hl'
        rw [hs] at hl'
        cases hl'
      case serves =>
        intro hserved hbusy
        rw [hs] at hserved hbusy
        exact mem_dequeue hh (hj.serves hserved hbusy) (by simp)
      case reader =>
        rw [hs]
        exact hj.reader
      case drained =>
        rw [hs]
        exact hj.drained
      case roomy =>
        rw [hs]
        exact hj.roomy
    · refine hj.mono ((hst st').trans (if_neg he)) (Nat.le_refl _) Iff.rfl
        (fun _ _ _ => ⟨rfl, fun hcan => hcan⟩) ?_
      rintro task hm (rfl | rfl)
      · exact mem_dequeue hh hm (by simpa using Ne.symm he)
      · exact mem_dequeue hh hm (by simp)
  · intro id' st' hs
    obtain ⟨token', ht, hl'⟩ := h.slots id' st' hs
    refine ⟨token', ht, ?_⟩
    rw [hst, if_neg, hl']
    -- the loop of an open session is not the one that ends
    rintro rfl
    rw [hl] at hl'
    cases hl'
    exact (hv.scopes id).current_ne hc ht

/-- The agent is done with an uplink. -/
theorem Linked.drain (h : s.Linked) {st : StreamId} (hh : s.ready.head? = some (.serve st))
    (hv : (s.stream st).served = true) :
    (s.dequeue.updateStream st fun t =>
      { t with uplink := t.uplink.dropReceiver, served := false }).Linked := by
  refine h.of_stream { s.stream st with
    uplink := (s.stream st).uplink.dropReceiver, served := false } (ne_dead_of_served hv)
    (fun st' => ?_) (fun _ => ⟨rfl, rfl⟩) (fun _ => rfl) ?_ ⟨rfl, rfl, rfl, rfl⟩ .inl ?_ ⟨rfl, fun _ => rfl⟩
  · exact stream_updateStream s.dequeue st st' _
  · intro task hm hne
    exact mem_dequeue hh hm hne
  · intro hs
    cases hs

/-! ### Incidents -/

/-- A new client has no stream. -/
theorem Linked.newClient (h : s.Linked) (hv : s.Valid) (key : ClientKey) (switch : SwitchName)
    (config : ClientConfig) : (s.newClient key switch config).1.Linked := by
  refine h.of_same (fun id => ⟨(scope_newClient hv key switch config id).1, ?_⟩) (fun _ => rfl)
    (fun _ => ⟨rfl, rfl, rfl⟩) fun _ hm => hm
  rw [client_newClient]
  split
  · next he =>
    refine .inr fun st token hl => ?_
    exact hv.not_knows_newClient key switch config (he ▸ (hv.listeners st id token hl).1)
  · exact .inl rfl

/-- Every incident keeps both ends of the streams together, unless it is past any client and agent. -/
theorem Happens.linked {i : Incident} (hi : Happens s i t) (hf : i ≠ .foreign) (hv : s.Valid)
    (h : s.Linked) : t.Linked := by
  -- Incidents that touch neither streams nor switches nor scopes.
  have clients : ∀ {u : System}, (∀ id, (u.client id).scope = (s.client id).scope ∧
      (u.client id).switch = (s.client id).switch) → u.streams = s.streams →
      u.switches = s.switches → u.ready = s.ready → u.Linked := by
    intro u hc hst hsw hr
    refine h.of_same (fun id => ⟨(hc id).1, .inl (hc id).2.symm⟩) (fun st => ?_) (fun n => ?_)
      fun _ hm => hr ▸ hm
    · unfold System.stream
      rw [hst]
    · unfold System.switch
      rw [hsw]
      exact ⟨rfl, rfl, rfl⟩
  cases hi with
  | created key switch config => exact h.newClient hv key switch config
  | filed _ _ _ _ => exact clients (fun _ => ⟨rfl, rfl⟩) rfl rfl rfl
  | told _ _ => exact clients (fun _ => ⟨rfl, rfl⟩) rfl rfl rfl
  | began id token afterFailure begun hk hb => exact h.began hv hb
  | opened id token afterFailure begun activated capacity t st hk hb hc ha =>
    exact h.opened hv hb hc ha
  | played id token afterFailure begun activated capacity script rest t st hk hb hs hc ha =>
    -- No script is left to be played: agents open every stream themselves.
    rw [h.scripts] at hs
    cases hs
  | closed id hk => exact h.closeSession hv id
  | released id hk hh => exact h.closeSession hv id
  | failed id token hk ht => exact h.failSession hv ht
  | unavailable id token reason hk ht => exact (h.failSession hv ht).post _
  | claimed id election st uplink hk hs hu =>
    have hc : (s.updateClient id fun c => { c with arbiter := c.arbiter.claim election }).Linked := by
      refine clients (fun id' => ?_) rfl rfl rfl
      rw [client_updateClient]
      split
      · next he => exact he ▸ ⟨rfl, rfl⟩
      · exact ⟨rfl, rfl⟩
    exact hc.queue hu
  | sent id packet st uplink hs hu => exact h.queue hu
  | heard id token st frame downlink hl hc hd =>
    have ht := h.takeDown hl hd
    refine ht.of_same (fun id' => ?_) (fun st' => stream_listenFrame _ id frame st') (fun n => ?_)
      fun task hm => ?_
    · obtain ⟨arbiter, he⟩ := arbiter_listenFrame (s.updateStream st fun v => { v with downlink }) id id' frame
      rw [he]
      exact ⟨rfl, .inl rfl⟩
    · rw [switch_listenFrame]
      exact ⟨rfl, rfl, rfl⟩
    · rw [listenFrame_eq]
      exact hm
  | left id token st hr hl hc => exact h.left hv hr hl hc
  | served st frame uplink hs hu => exact (h.takeUp hs hu).serveFrame _ _
  | drained st hr hs hu => exact h.drain hr hs
  | idled task hr hi => exact h.idled hr hi
  | detached name => exact h.detach name
  | pushed name frame => exact h.pushFrame name frame
  | steered name agent hc hp =>
    refine h.of_same (fun _ => ⟨rfl, .inl rfl⟩) (fun _ => rfl) (fun n => ?_) fun _ hm => hm
    rw [switch_updateSwitch]
    split
    · next he => exact he ▸ ⟨rfl, rfl, rfl⟩
    · exact ⟨rfl, rfl, rfl⟩
  | foreign _ hc hh hr hf' hj hl => exact absurd rfl hf

/-- So does a sequence of them. -/
theorem Leads.linked {is : List Incident} (l : Leads s is t) (hf : .foreign ∉ is) (hv : s.Valid)
    (h : s.Linked) : t.Linked := by
  induction l with
  | refl s => exact h
  | quiet q _ ih => exact ih hf (q.valid hv) (q.linked h)
  | cons hi _ ih =>
    rw [List.mem_cons, not_or] at hf
    exact ih hf.2 (hi.valid hv) (hi.linked (Ne.symm hf.1) hv h)

end P4Control.System
