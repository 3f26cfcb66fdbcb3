import P4Control.Proofs.Hearing
import P4Control.Proofs.Loops
import P4Control.Proofs.Mastership

namespace P4Control

/-!
# What waits for the inbound loops

Frames come in behind the others on the stream of an inbound loop, and nobody but the loop takes them,
whatever else is done to streams.  When a loop has left, nothing comes in any more.

* `Stream.Deaf` — a downlink that nobody reads, and on which nothing can be put.
* `Stream.Fares` — what becomes of a downlink while no frame is taken from it.
* `System.Heedful` — an inbound loop that has something to do is runnable.
* `System.Feeds` — a change in which no frame is taken.
* `Happens.feeds`, `Leads.feeds` — incidents are such changes, unless a loop takes a frame.
* `Scenario.feeds_make` — and so is every move, unless a loop takes a frame in it.
-/

namespace Stream

/-- Nobody reads the downlink, and nothing can be put on it. -/
structure Deaf (v : Stream) : Prop where
  listener : v.listener = none
  hasReceiver : v.downlink.hasReceiver = false
  frames : v.downlink.frames = []

/-- What becomes of a downlink while no frame is taken from it.  Its loop stays, with the frames that
wait and perhaps more behind them, or leaves and is the last one. -/
structure Fares (v w : Stream) : Prop where
  hears : ∀ l, w.listener = some l → v.listener = some l ∧
    ∃ more, w.downlink.frames = v.downlink.frames ++ more
  leaves : v.listener.isSome = true → w.listener = none → w.Deaf
  deaf : v.Deaf → w.Deaf

variable {u v w : Stream}

theorem deaf_dead : dead.Deaf := ⟨rfl, rfl, rfl⟩

/-- A stream whose frames and reader do not change fares well. -/
theorem fares_of_same (hl : w.listener = v.listener)
    (hr : w.downlink.hasReceiver = v.downlink.hasReceiver)
    (hf : w.downlink.frames = v.downlink.frames) : v.Fares w where
  hears l h := ⟨hl ▸ h, [], by rw [hf, List.append_nil]⟩
  leaves hs hn := by
    rw [← hl, hn] at hs
    cases hs
  deaf h := ⟨hl ▸ h.listener, hr ▸ h.hasReceiver, hf ▸ h.frames⟩

theorem Fares.refl (v : Stream) : v.Fares v := fares_of_same rfl rfl rfl

/-- A stream that fares well twice fares well. -/
theorem Fares.trans (h : u.Fares v) (h' : v.Fares w) : u.Fares w where
  hears l hl := by
    obtain ⟨hv, more', hf'⟩ := h'.hears l hl
    obtain ⟨hu, more, hf⟩ := h.hears l hv
    exact ⟨hu, more ++ more', by rw [hf', hf, List.append_assoc]⟩
  leaves hs hn := by
    -- the loop has left at the first change, or it leaves at the second
    cases hv : v.listener with
    | none => exact h'.deaf (h.leaves hs hv)
    | some l => exact h'.leaves (by rw [hv]; rfl) hn
  deaf hd := h'.deaf (h.deaf hd)

/-- A frame is put on the downlink. -/
theorem fares_send {frame : Arrival StreamResponse} {downlink : Pipe (Arrival StreamResponse)}
    (h : v.downlink.send frame = .ok downlink) : v.Fares { v with downlink } := by
  obtain ⟨hr, -, rfl⟩ := Pipe.send_eq_ok.mp h
  refine ⟨fun l hl => ⟨hl, [frame], rfl⟩, fun hs hn => ?_, fun hd => ?_⟩
  · rw [show v.listener = none from hn] at hs
    cases hs
  · rw [hd.hasReceiver] at hr
    cases hr

/-- The one who reads the downlink goes. -/
theorem fares_dropReceiver (v : Stream) :
    v.Fares { v with downlink := v.downlink.dropReceiver, listener := none } where
  hears l hl := by cases hl
  leaves _ _ := ⟨rfl, rfl, rfl⟩
  deaf _ := ⟨rfl, rfl, rfl⟩

end Stream

namespace System

/-! ### Loops that have something to do -/

/-- The inbound loop of a stream has something to do: its session has ended, frames wait, or the stream
has ended. -/
def Busy (s : System) (st : StreamId) : Prop :=
  ∃ id token, (s.stream st).listener = some (id, token) ∧
    ((s.client id).scope.isCancelled token = true ∨ (s.stream st).downlink.frames ≠ [] ∨
      (s.stream st).downlink.hasSender = false)

/-- An inbound loop that has something to do is runnable. -/
def Heedful (s : System) : Prop := ∀ st, s.Busy st → .listen st ∈ s.ready

/-- A change in which no frame is taken.  Streams that have been set up fare as said, those that have not
been stay as they are, and the loops heed what happens. -/
structure Feeds (s t : System) : Prop where
  count : ∀ n, (s.switch n).streamCount ≤ (t.switch n).streamCount
  fares : ∀ st, st.serial < (s.switch st.switch).streamCount → (s.stream st).Fares (t.stream st)
  fresh : ∀ st, (t.switch st.switch).streamCount ≤ st.serial →
    (s.stream st).Deaf → (t.stream st).Deaf
  heedful : s.Heedful → t.Heedful

variable {s t u : System} {id : ClientId} {token : Token} {st : StreamId}

/-- A loop that has something to do had it before, if nothing about its stream or its scope has
changed. -/
theorem Busy.mono (h : t.Busy st) (hl : (t.stream st).listener = (s.stream st).listener)
    (hf : (t.stream st).downlink.frames = (s.stream st).downlink.frames)
    (hs : (t.stream st).downlink.hasSender = (s.stream st).downlink.hasSender)
    (hc : ∀ id, (t.client id).scope.cancelled = (s.client id).scope.cancelled) : s.Busy st := by
  obtain ⟨id, token, hlist, hbusy⟩ := h
  refine ⟨id, token, hl ▸ hlist, ?_⟩
  rwa [hf, hs, Scope.isCancelled, hc] at hbusy

/-- A stream that no loop reads has no loop with anything to do. -/
theorem not_busy_of_none (h : (s.stream st).listener = none) : ¬ s.Busy st := by
  rintro ⟨id, token, hl, -⟩
  rw [h] at hl
  cases hl

/-- Two changes that both feed the streams feed them together. -/
theorem Feeds.trans (h : Feeds s t) (h' : Feeds t u) : Feeds s u where
  count n := Nat.le_trans (h.count n) (h'.count n)
  fares st hlt := (h.fares st hlt).trans (h'.fares st (Nat.lt_of_lt_of_le hlt (h.count _)))
  fresh st hle hd := h'.fresh st hle (h.fresh st (Nat.le_trans (h'.count _) hle) hd)
  heedful hs := h'.heedful (h.heedful hs)

/-! ### Changes in which streams neither come nor go -/

/-- Streams fare as said, and a loop that has got something to do has been woken. -/
theorem feeds_of_fares (hn : ∀ n, (s.switch n).streamCount ≤ (t.switch n).streamCount)
    (hf : ∀ st, (s.stream st).Fares (t.stream st))
    (hb : ∀ st, t.Busy st → s.Busy st ∨ .listen st ∈ t.ready)
    (hr : ∀ st, t.Busy st → .listen st ∈ s.ready → .listen st ∈ t.ready) : Feeds s t where
  count := hn
  fares st _ := hf st
  fresh st _ := (hf st).deaf
  heedful hs st hbusy := (hb st hbusy).elim (fun h => hr st hbusy (hs st h)) fun h => h

/-- Neither the downlinks nor the cancelled scopes change. -/
theorem feeds_of_same (hl : ∀ st, (t.stream st).listener = (s.stream st).listener)
    (hd : ∀ st, (t.stream st).downlink = (s.stream st).downlink)
    (hc : ∀ id, (t.client id).scope.cancelled = (s.client id).scope.cancelled)
    (hn : ∀ n, (s.switch n).streamCount ≤ (t.switch n).streamCount)
    (hr : ∀ task ∈ s.ready, task ∈ t.ready) : Feeds s t :=
  feeds_of_fares hn (fun st => Stream.fares_of_same (hl st) (by rw [hd]) (by rw [hd]))
    (fun st hb => .inl (hb.mono (hl st) (by rw [hd]) (by rw [hd]) hc)) fun _ _ => hr _

theorem Feeds.refl (s : System) : Feeds s s :=
  feeds_of_same (fun _ => rfl) (fun _ => rfl) (fun _ => rfl) (fun _ => Nat.le_refl _) fun _ h => h

/-- A quiet change keeps every stream as it is. -/
theorem Quiet.feeds (q : Quiet s t) : Feeds s t := by
  refine feeds_of_same (fun st => by rw [q.stream]) (fun st => by rw [q.stream])
    (fun id => by rw [q.scope]) (fun n => Nat.le_of_eq ?_) q.ready
  exact (congrArg Line.streamCount (q.line n)).symm

/-- A switch changes, but sets up no stream. -/
theorem feeds_updateSwitch (s : System) (n : SwitchName) {f : Switch → Switch}
    (hf : ∀ w, (f w).streamCount = w.streamCount) : Feeds s (s.updateSwitch n f) := by
  refine feeds_of_same (fun _ => rfl) (fun _ => rfl) (fun _ => rfl) (fun m => Nat.le_of_eq ?_)
    fun _ h => h
  rw [switch_updateSwitch]
  split
  · next he => rw [hf, he]
  · rfl

/-- A stream changes at the client's end of its uplink, or at the agent's. -/
theorem feeds_updateStream (s : System) (st : StreamId) {f : Stream → Stream}
    (hl : ∀ v, (f v).listener = v.listener) (hd : ∀ v, (f v).downlink = v.downlink) :
    Feeds s (s.updateStream st f) := by
  refine feeds_of_same (fun st' => ?_) (fun st' => ?_) (fun _ => rfl) (fun _ => Nat.le_refl _)
    fun _ h => h
  · rw [stream_updateStream]
    split
    · next he => rw [hl, he]
    · rfl
  · rw [stream_updateStream]
    split
    · next he => rw [hd, he]
    · rfl

theorem feeds_wake (s : System) (task : Task) : Feeds s (s.wake task) := (quiet_wake task).feeds

/-- To let go of the outbound side says nothing of the inbound one. -/
theorem feeds_dropUplink (s : System) (st : StreamId) : Feeds s (s.dropUplink st) :=
  (feeds_updateStream s st (f := fun v => { v with uplink := v.uplink.dropSender })
    (fun _ => rfl) fun _ => rfl).trans (feeds_wake _ _)

/-- A frame is queued on an uplink. -/
theorem feeds_queue (s : System) (st : StreamId) (uplink : Pipe StreamRequest) :
    Feeds s ((s.updateStream st fun v => { v with uplink }).wake (.serve st)) :=
  (feeds_updateStream s st (f := fun v => { v with uplink }) (fun _ => rfl) fun _ => rfl).trans
    (feeds_wake _ _)

/-- The running task leaves the queue, unless it is a loop that has something to do. -/
theorem feeds_dequeue {task : Task} (hr : s.ready.head? = some task)
    (hi : ∀ st, task = .listen st → ¬ s.Busy st) : Feeds s s.dequeue := by
  refine feeds_of_fares (fun _ => Nat.le_refl _) (fun _ => .refl _) (fun _ h => .inl h)
    fun st hb hm => ?_
  show Task.listen st ∈ s.ready.tail
  cases hready : s.ready with
  | nil =>
    rw [hready] at hr
    cases hr
  | cons first rest =>
    rw [hready] at hr hm
    cases hr
    exact (List.mem_cons.mp hm).resolve_left fun he => hi st he.symm hb

/-- The one who reads a downlink goes. -/
theorem feeds_dropListener (s : System) (st : StreamId) : Feeds s (s.dropListener st) := by
  refine feeds_of_fares (fun _ => Nat.le_refl _) (fun st' => ?_) (fun st' hb => ?_) fun _ _ h => h
  · rw [stream_dropListener]
    split
    · next he => exact he ▸ Stream.fares_dropReceiver _
    · exact .refl _
  · by_cases he : st = st'
    · exact absurd hb (not_busy_of_none (by rw [stream_dropListener, if_pos he]))
    · have hst : (s.dropListener st).stream st' = s.stream st' := by
        rw [stream_dropListener, if_neg he]
      exact .inl (hb.mono (by rw [hst]) (by rw [hst]) (by rw [hst]) fun _ => rfl)

/-- A stream that is detached ends for its reader, and the loop is woken for that. -/
theorem feeds_detach (s : System) (n : SwitchName) : Feeds s (s.detach n) := by
  refine feeds_of_fares (fun m => ?_) (fun st => ?_) (fun st hb => ?_)
    fun st _ h => (ready_detach s n).1 _ h
  · rw [switch_detach]
    split
    · next he => exact he ▸ Nat.le_refl _
    · exact Nat.le_refl _
  · rw [stream_detach]
    split
    · exact Stream.fares_of_same rfl rfl rfl
    · exact .refl _
  · -- the stream that the agent lets go ends, and its loop is woken
    by_cases ha : st.switch = n ∧ (s.switch n).attached = some st.serial
    · obtain ⟨rfl, hn⟩ := ha
      exact .inr ((ready_detach s st.switch).2 _ hn)
    · have hst : (s.detach n).stream st = s.stream st := by rw [stream_detach, if_neg ha]
      exact .inl (hb.mono (by rw [hst]) (by rw [hst]) (by rw [hst]) fun id => by
        rw [(sameClients_detach s n).client])

/-- A frame that is pushed goes into the stream that is attached, and wakes its loop. -/
theorem feeds_pushFrame (s : System) (n : SwitchName) (frame : Arrival StreamResponse) :
    Feeds s (s.pushFrame n frame).1 := by
  unfold pushFrame
  split
  · exact .refl s
  · next serial ha =>
    split
    · exact .refl s
    · next downlink hd =>
      -- with the loop runnable to begin with, the frame makes no loop busy that is not
      refine Feeds.trans (t := s.wake (.listen ⟨n, serial⟩)) (feeds_wake _ _) ?_
      refine feeds_of_fares (fun m => by simp) (fun st => ?_) (fun st hb => ?_) fun st _ h => ?_
      · rw [stream_wake, stream_wake, stream_updateStream]
        split
        · next he => exact he ▸ Stream.fares_send hd
        · exact .refl _
      · by_cases he : ⟨n, serial⟩ = st
        · exact .inr ((mem_ready_wake _).mpr (.inl (by rw [he])))
        · have hst : ((s.updateStream ⟨n, serial⟩ fun v => { v with downlink }).wake
              (.listen ⟨n, serial⟩)).stream st = (s.wake (.listen ⟨n, serial⟩)).stream st := by
            rw [stream_wake, stream_wake, stream_updateStream, if_neg he]
          exact .inl (hb.mono (by rw [hst]) (by rw [hst]) (by rw [hst]) fun id => by
            rw [client_wake, client_wake]
            rfl)
      · rw [mem_ready_wake] at h ⊢
        exact h

/-- What the agent answers to a frame is pushed, or nothing is. -/
theorem feeds_serveFrame (s : System) (n : SwitchName) (frame : StreamRequest) :
    Feeds s (s.serveFrame n frame) := by
  have agent : ∀ agent, Feeds s (s.updateSwitch n fun w => { w with agent }) := fun agent =>
    feeds_updateSwitch s n (f := fun w => { w with agent }) fun _ => rfl
  cases frame with
  | packet packet =>
    exact feeds_updateSwitch s n (f := fun w => { w with agent := w.agent.receivePacket packet })
      fun _ => rfl
  | arbitration claim =>
    rw [serveFrame_arbitration]
    split
    · exact agent _
    · exact (agent _).trans (feeds_pushFrame _ n _)

/-! ### Sessions that end -/

/-- A scope ends, and the loop that runs in it is told. -/
theorem feeds_endScope (hv : s.Valid) {ended : Scope StreamId}
    (hc : ∀ token, ended.isCancelled token = true →
      (s.client id).scope.isCancelled token = true ∨ (s.client id).scope.current = some token) :
    Feeds s (s.endScope id ended) := by
  refine feeds_of_fares (fun n => Nat.le_of_eq (by rw [switch_endScope])) (fun st => ?_)
    (fun st hb => ?_) fun st _ h => mem_ready_endScope h id ended
  · obtain ⟨hl, hd⟩ := downlink_endScope s id ended st
    exact Stream.fares_of_same hl (by rw [hd]) (by rw [hd])
  · obtain ⟨hl, hd⟩ := downlink_endScope s id ended st
    obtain ⟨id', token, hlist, hbusy⟩ := hb
    rw [hl] at hlist
    rw [hd] at hbusy
    -- a loop that learns of an end has learned of it before, or is roused by this one
    rcases hbusy with hcan | hrest
    · exact (hv.listen_ready_endScope hc hlist hcan).imp_left fun hold => ⟨id', token, hlist, .inl hold⟩
    · exact .inl ⟨id', token, hlist, .inr hrest⟩

theorem feeds_post (s : System) (e : Event) : Feeds s (s.post e) :=
  feeds_of_same (fun _ => rfl) (fun _ => rfl) (fun _ => rfl) (fun _ => Nat.le_refl _) fun _ h => h

/-- A session that is closed wakes the loop that read its stream. -/
theorem feeds_closeSession (hv : s.Valid) (id : ClientId) : Feeds s (s.closeSession id) := by
  have he : Feeds s (s.endScope id (s.client id).scope.close.2) := by
    exact feeds_endScope hv fun token hcan => (Scope.isCancelled_close _ token).mp hcan
  rw [closeSession_eq]
  split
  · exact he.trans (feeds_post _ _)
  · exact he

/-- A session that fails wakes the loop that read its stream. -/
theorem feeds_failSession (hv : s.Valid) (ht : (s.client id).scope.current = some token) :
    Feeds s (s.failSession id token) := by
  rw [failSession_eq ht]
  exact feeds_endScope hv fun token' hcan => (Scope.isCancelled_ended ht rfl token').mp hcan

/-! ### Streams that are set up -/

/-- A stream is set up that nobody reads. -/
theorem feeds_addStream (s : System) (n : SwitchName) {v : Stream} (hv : v.listener = none) :
    Feeds s (s.addStream n v).1 := by
  have hst : ∀ st, (s.addStream n v).1.stream st = if s.nextStream n = st then v else s.stream st :=
    fun st => stream_updateStream s (s.nextStream n) st fun _ => v
  have hn : ∀ m, ((s.addStream n v).1.switch m).streamCount =
      (s.switch m).streamCount + if n = m then 1 else 0 := by
    intro m
    show ((updateSwitch _ n _).switch m).streamCount = _
    rw [switch_updateSwitch]
    split
    · next he => rw [he]; rfl
    · rfl
  -- the new stream lies beyond those that have been set up, and within those that are set up now
  refine ⟨fun m => ?_, fun st hlt => ?_, fun st hle hd => ?_, fun hs st hb => ?_⟩
  · rw [hn]
    exact Nat.le_add_right _ _
  · rw [hst, if_neg]
    · exact .refl _
    · rintro rfl
      exact Nat.lt_irrefl _ hlt
  · rw [hst, if_neg]
    · exact hd
    · rintro rfl
      rw [hn, if_pos (show n = (s.nextStream n).switch from rfl)] at hle
      exact Nat.not_succ_le_self _ hle
  · by_cases he : s.nextStream n = st
    · exact absurd hb (not_busy_of_none (by rw [hst, if_pos he, hv]))
    · have hsame : (s.addStream n v).1.stream st = s.stream st := by rw [hst, if_neg he]
      exact hs st (hb.mono (by rw [hsame]) (by rw [hsame]) (by rw [hsame]) fun _ => rfl)

/-- A new stream has no frames and no loop yet. -/
theorem feeds_connect (s : System) (n : SwitchName) (capacity : Option Nat) :
    Feeds s (s.connect n capacity).1 :=
  (((feeds_detach s n).trans (feeds_addStream _ n rfl)).trans
    (feeds_updateSwitch _ n (f := fun w => { w with attached := some _ }) fun _ => rfl)).trans
      (feeds_wake _ _)

/-- A scripted stream has its frames from the start, and no loop yet. -/
theorem feeds_playScript (s : System) (n : SwitchName) (capacity : Option Nat)
    (script : ScriptedStream) (rest : List ScriptedStream) :
    Feeds s (s.playScript n capacity script rest).1 :=
  (feeds_updateSwitch s n (f := fun w => { w with scriptedStreams := rest }) fun _ => rfl).trans
    (feeds_addStream _ n rfl)

/-- A session opens on a stream that is new. -/
theorem Feeds.goLive (h : Feeds s t) (hst : (s.switch st.switch).streamCount ≤ st.serial)
    (hlt : st.serial < (t.switch st.switch).streamCount) {activated : Scope StreamId}
    (hc : activated.cancelled = (t.client id).scope.cancelled) (token : Token)
    (afterFailure : Bool) : Feeds s (t.goLive id token afterFailure activated st) := by
  refine ⟨fun n => ?_, fun st' hlt' => ?_, fun st' hle hd => ?_, fun hs st' hb => ?_⟩
  · rw [switch_goLive]
    exact h.count n
  · rw [stream_goLive, if_neg]
    · exact h.fares st' hlt'
    · rintro rfl
      exact Nat.lt_irrefl _ (Nat.lt_of_lt_of_le hlt' hst)
  · rw [switch_goLive] at hle
    rw [stream_goLive, if_neg]
    · exact h.fresh st' hle hd
    · rintro rfl
      exact Nat.lt_irrefl _ (Nat.lt_of_lt_of_le hlt hle)
  · -- the new loop is runnable, whatever waits on its stream
    rw [mem_ready_goLive]
    by_cases he : st = st'
    · exact .inl (by rw [he])
    · have hsame : (t.goLive id token afterFailure activated st).stream st' = t.stream st' := by
        rw [stream_goLive, if_neg he]
      refine .inr (h.heedful hs st' (hb.mono (by rw [hsame]) (by rw [hsame]) (by rw [hsame])
        fun id' => ?_))
      rw [client_goLive]
      split
      · next hid => exact hid ▸ hc
      · rfl

/-- A scope that begins touches no stream. -/
theorem feeds_beginScope {afterFailure : Bool} {begun : Scope StreamId}
    (hb : (s.client id).scope.begin = some (token, afterFailure, begun)) :
    Feeds s (s.beginScope id begun) := by
  obtain ⟨-, -, -, rfl⟩ := Scope.begin_eq_some hb
  refine feeds_of_same (fun _ => rfl) (fun _ => rfl) (fun id' => ?_) (fun _ => Nat.le_refl _)
    fun _ h => h
  rw [client_beginScope]
  split
  · next he => exact he ▸ rfl
  · rfl

/-- A session opens on a new stream in the scope begun for it. -/
theorem feeds_opened {afterFailure : Bool} {begun activated : Scope StreamId} {n : SwitchName}
    (hb : (s.client id).scope.begin = some (token, afterFailure, begun))
    (hn : (s.beginScope id begun).Adds n t st) (ht : Feeds (s.beginScope id begun) t)
    (ha : begun.activate token st = some activated) :
    Feeds s (t.goLive id token afterFailure activated st) := by
  obtain ⟨-, hact⟩ := Scope.activate_eq_some ha
  refine ((feeds_beginScope hb).trans ht).goLive (Nat.le_of_eq ?_) hn.lt_count ?_ token afterFailure
  · rw [hn.name]
    rfl
  · rw [hn.scopes, client_beginScope, if_pos rfl, hact]

/-! ### Incidents -/

/-- In an incident no frame is taken, unless it says so, or is past any client and agent. -/
theorem Happens.feeds {i : Incident} (hi : Happens s i t) (hf : i ≠ .foreign)
    (hn : ∀ id st frame, i ≠ .heard id st frame) (hv : s.Valid) : Feeds s t := by
  have elsewhere : ∀ {u : System}, u.clients = s.clients → u.streams = s.streams →
      u.switches = s.switches → u.ready = s.ready → Feeds s u := by
    intro u hc hs hw hr
    refine feeds_of_same (fun st => ?_) (fun st => ?_) (fun id => ?_) (fun n => Nat.le_of_eq ?_)
      fun _ h => hr ▸ h
    · rw [System.stream, hs]
      rfl
    · rw [System.stream, hs]
      rfl
    · rw [System.client, hc]
      rfl
    · rw [System.switch, System.switch, hw]
  -- Only four incidents reach the frames on their way down: a new stream, a frame that is served or
  -- pushed, and the end of either side.
  cases hi with
  | created key switch config =>
    refine feeds_of_same (fun _ => rfl) (fun _ => rfl) (fun id => ?_) (fun _ => Nat.le_refl _)
      fun _ h => h
    rw [(scope_newClient hv key switch config id).1]
  | filed _ _ _ _ => exact elsewhere rfl rfl rfl rfl
  | told _ _ => exact elsewhere rfl rfl rfl rfl
  | began id token afterFailure begun hk hb => exact feeds_beginScope hb
  | opened id token afterFailure begun activated capacity u st hk hb hc ha =>
    have hn := adds_connect (s.beginScope id begun) (s.client id).switch capacity
    have ht := feeds_connect (s.beginScope id begun) (s.client id).switch capacity
    rw [hc] at hn ht
    exact feeds_opened hb hn ht ha
  | played id token afterFailure begun activated capacity script rest u st hk hb hs hc ha =>
    have hn := adds_playScript (s.beginScope id begun) (s.client id).switch capacity script rest
    have ht := feeds_playScript (s.beginScope id begun) (s.client id).switch capacity script rest
    rw [hc] at hn ht
    exact feeds_opened hb hn ht ha
  | closed id hk => exact feeds_closeSession hv id
  | released id hk hh => exact feeds_closeSession hv id
  | failed id token hk ht => exact feeds_failSession hv ht
  | unavailable id token reason hk ht => exact (feeds_failSession hv ht).trans (feeds_post _ _)
  | claimed id election st uplink hk hs hu =>
    have hc : Feeds s (s.updateClient id fun c => { c with arbiter := c.arbiter.claim election }) := by
      refine feeds_of_same (fun _ => rfl) (fun _ => rfl) (fun id' => ?_) (fun _ => Nat.le_refl _)
        fun _ h => h
      rw [client_updateClient]
      split
      · next he => exact he ▸ rfl
      · rfl
    exact hc.trans (feeds_queue _ st uplink)
  | sent id packet st uplink hs hu => exact feeds_queue s st uplink
  | heard id token st frame downlink hl hc hd => exact absurd rfl (hn id st frame)
  | left id token st hr hl hc =>
    refine (feeds_dropListener s st).trans (feeds_dequeue (s := s.dropListener st) hr ?_)
    rintro st' ⟨⟩
    exact not_busy_of_none (by rw [stream_dropListener, if_pos rfl])
  | served st frame uplink hs hu =>
    exact (feeds_updateStream s st (f := fun v => { v with uplink }) (fun _ => rfl)
      fun _ => rfl).trans (feeds_serveFrame _ _ _)
  | drained st hr hs hu =>
    exact (feeds_dequeue hr (by simp)).trans
      (feeds_updateStream s.dequeue st (fun _ => rfl) fun _ => rfl)
  | idled task hr hi =>
    refine feeds_dequeue hr fun st he => ?_
    subst he
    rintro ⟨id, token, hl, hbusy⟩
    obtain ⟨hc, hf, hs⟩ := hi id token hl
    -- A task that finds nothing to do leaves no frame behind that it should have taken.
    rcases hbusy with h | h | h
    · rw [hc] at h
      cases h
    · exact h hf
    · rw [hs] at h
      cases h
  | detached name => exact feeds_detach s name
  | pushed name frame => exact feeds_pushFrame s name frame
  | steered name agent hc hp =>
    exact feeds_updateSwitch s name (f := fun w => { w with agent }) fun _ => rfl
  | foreign _ hc hh hr hf' hj hl => exact absurd rfl hf

/-- So it is with a sequence of them. -/
theorem Leads.feeds {is : List Incident} (l : Leads s is t) (hf : .foreign ∉ is)
    (hn : ∀ id st frame, .heard id st frame ∉ is) (hv : s.Valid) : Feeds s t := by
  induction l with
  | refl s => exact .refl s
  | quiet q _ ih => exact q.feeds.trans (ih hf hn (q.valid hv))
  | cons hi _ ih =>
    rw [List.mem_cons, not_or] at hf
    refine (hi.feeds (Ne.symm hf.1) (fun id st frame he => ?_) hv).trans
      (ih hf.2 (fun id st frame hm => hn id st frame (List.mem_cons_of_mem _ hm)) (hi.valid hv))
    exact hn id st frame (he ▸ List.mem_cons_self)

end System

namespace Scenario

variable {x : Scenario}

/-! ### Moves -/

/-- The frame that is taken in a move. -/
def hearing? (x : Scenario) : Move → Option Hearing
  | .poll => x.system.hearing?
  | _ => none

/-- A frame is heard only when a loop gets its turn. -/
theorem hearing?_eq_some {m : Move} {h : Hearing} (hh : x.hearing? m = some h) :
    m = .poll ∧ x.system.hearing? = some h := by
  cases m with
  | poll => exact ⟨rfl, hh⟩
  | _ => cases hh

/-- What a move does in which a frame is taken. -/
theorem takes_make (hv : x.Valid) {m : Move} {h : Hearing} (hh : x.hearing? m = some h) :
    x.system.Takes h (x.make m).system := by
  obtain ⟨rfl, hh⟩ := hearing?_eq_some hh
  exact System.takes_poll hv.system hh

/-- A frame that an inbound loop takes is the one that is taken in the move. -/
theorem not_heard_of_makes {t : System} {m : Move} {is : List Incident} (h : Makes x t m is)
    (hn : x.hearing? m = none) : ∀ id st frame, .heard id st frame ∉ is := by
  intro id st frame hi
  cases h.ofMove hi with
  | causes action hc => exact hc
  | call name request id' hi => cases hi
  | task hi =>
    cases hi with
    | call K hr hi => cases hi
    | heard id' st' frame' hh =>
      -- a loop that hears a frame is the one whose turn it is
      have hsome : x.system.hearing? ≠ none := by
        unfold System.hears at hh
        split at hh
        · next id'' token frame'' downlink hlist =>
          obtain ⟨st'', rest, hr, -⟩ := System.listens_eq_some hlist
          unfold System.hearing?
          rw [hr, hlist]
          simp
        · cases hh
      exact hsome hn

/-- In a move in which no frame is taken, nothing is posted about frames. -/
theorem inbound_make (hv : x.Valid) {m : Move} (hn : x.hearing? m = none) :
    (x.make m).system.inbound = x.system.inbound := by
  rcases observes_or_leads hv m with ⟨posted, outcome, rfl⟩ | ⟨is, hmake, hl⟩
  · rfl
  · exact hl.inbound (not_heard_of_makes hmake hn)

/-! ### Streams in the hands of users -/

/-- A raw stream that is let go is no stream of a loop. -/
theorem feeds_discard (s : System) (raw : RawStream) : System.Feeds s (discard s raw) :=
  holds_discard (.refl s) (fun t h => h.trans (System.feeds_dropUplink t raw.id))
    fun t h => h.trans (System.feeds_dropListener t raw.id)

/-- A user takes what waits on a stream that no inbound loop reads. -/
theorem feeds_rawReceive (s : System) {st : StreamId} (hl : (s.stream st).listener = none) :
    System.Feeds s (s.updateStream st fun v => { v with downlink := { v.downlink with frames := [] } }) := by
  have hst := System.stream_updateStream s st
  refine System.feeds_of_fares (fun _ => Nat.le_refl _) (fun st' => ?_) (fun st' hb => ?_)
    fun _ _ h => h
  · rw [hst]
    split
    · next he =>
      subst he
      refine ⟨fun l h => ?_, fun hs _ => ?_, fun hd => ⟨hd.listener, hd.hasReceiver, rfl⟩⟩
      · rw [show (s.stream st).listener = some l from h] at hl
        cases hl
      · rw [hl] at hs
        cases hs
    · exact .refl _
  · by_cases he : st = st'
    · exact absurd hb (System.not_busy_of_none (by rw [hst, if_pos he, hl]))
    · exact .inl (hb.mono (by rw [hst, if_neg he]) (by rw [hst, if_neg he]) (by rw [hst, if_neg he])
        fun _ => rfl)

/-- What is done to streams past any client and agent takes no frame from an inbound loop. -/
theorem Effect.feeds {action : Action} {t : System} (he : x.Effect action t) (h : x.Tuned)
    (ha : action.isForeign = true) : System.Feeds x.system t := by
  cases he with
  | stays => exact .refl _
  | files => exact (x.system.quiet_files _ _).feeds
  | queues => exact System.feeds_queue _ _ _
  | hangsUp => exact System.feeds_dropUplink _ _
  | turnsAway => exact System.feeds_dropListener _ _
  | empties hr => exact feeds_rawReceive _ (h.raws _ (Directory.mem_values_of_find? hr)).2
  | @scripts n script =>
    exact System.feeds_updateSwitch x.system n (f := fun w => script.addTo w) fun _ => by
      cases script <;> rfl
  | _ => cases ha

/-- Nor does setting up a stream past any client. -/
theorem feeds_rawOpen (x : Scenario) (name : String) (n : SwitchName) :
    System.Feeds x.system (x.start name (.rawOpen n)).1.system := by
  refine holds_rawOpen (.refl _) (x.system.holds_attachStream ?_ ?_)
    fun t old _ ht => ht.trans (feeds_discard t old)
  · exact System.feeds_updateSwitch x.system n (f := fun w => { w with agent := _ }) fun _ => rfl
  · exact fun t ht => ht.trans (System.feeds_connect t n none)

/-- In a move, no frame is taken, unless it is the one that an inbound loop takes. -/
theorem feeds_make (hv : x.Valid) (h : x.Tuned) {m : Move} (hn : x.hearing? m = none) :
    System.Feeds x.system (x.make m).system := by
  have domestic : m.isForeign = false → (∀ posted outcome, m ≠ .observe posted outcome) →
      System.Feeds x.system (x.make m).system := by
    intro hf hm
    obtain ⟨is, hmake, hl⟩ := leads_make hv hm
    exact hl.feeds (not_foreign_of_makes hmake hf) (not_heard_of_makes hmake hn) hv.system
  cases m with
  | act action =>
    by_cases ha : action.isForeign = true
    · exact (x.effect_act action).feeds h ha
    · exact domestic (by simpa [Move.isForeign] using ha) (by simp)
  | start name request =>
    by_cases hf : request.isForeign = true
    · cases request with
      | rawOpen switch => exact feeds_rawOpen x name switch
      | _ => cases hf
    · exact domestic (by simpa [Move.isForeign] using hf) (by simp)
  | advance span => exact domestic rfl (by simp)
  | poll => exact domestic rfl (by simp)
  | observe posted outcome =>
    exact System.feeds_of_same (fun _ => rfl) (fun _ => rfl) (fun _ => rfl)
      (fun _ => Nat.le_refl _) fun _ hm => hm

end Scenario

end P4Control
