import P4Control.Proofs.Partition

namespace P4Control.System

/-!
# The effects of one party on its part

What a party does changes its own part of a control plane, as it would if there were no other part, and
leaves the parts of all others as they are.  This holds of the elementary effects, and of what is done on
streams and sessions by way of them.

* `Beside` — a control plane beside the part of the party that is active.
* `Beside.updateSwitch`, `Beside.updateStream`, `Beside.updateClient`, `Beside.wake`, … — the elementary
  effects.
* `Beside.openStream`, `Beside.serveFrame`, `Beside.enqueue`, … — streams.
* `Beside.endScope`, `Beside.report`, `Beside.release`, … — sessions.
-/

variable {Party : Type} [DecidableEq Party] {ω : Allotment Party} {p : Party} {s t u : System}

/-- The party `p` has taken the control plane from `s` to `t`, and its part of it to `u`. -/
structure Beside (ω : Allotment Party) (p : Party) (s t u : System) : Prop where
  own : t.part ω p = u
  others : ∀ o, o ≠ p → t.part ω o = s.part ω o
  fenced : t.Fenced ω
  knows : ∀ id, s.Knows id → t.Knows id

namespace Beside

/-- At the start, the part of the party is cut out of the whole. -/
theorem refl (h : s.Fenced ω) (p : Party) : Beside ω p s s (s.part ω p) :=
  ⟨rfl, fun _ _ => rfl, h, fun _ hk => hk⟩

/-! ### What the party finds -/

variable (h : Beside ω p s t u)

include h

/-- A party finds its switches as they are in the whole. -/
theorem switch_eq {n : SwitchName} (hn : ω.switch n = p) : u.switch n = t.switch n := by
  rw [← h.own, switch_part hn]

/-- A party finds its streams. -/
theorem stream_eq {st : StreamId} (hst : ω.stream st = p) : u.stream st = t.stream st := by
  rw [← h.own, stream_part hst]

variable {id : ClientId}

/-- A party finds its clients. -/
theorem client_eq (hid : ω.client id = p) : u.client id = t.client id := by
  rw [← h.own, client_part hid]

/-- Whether someone holds a client can be told from the part, since nobody else has a handle on it.
-/
theorem isHeld_eq (hid : ω.client id = p) : u.isHeld id = t.isHeld id := by
  rw [← h.own, isHeld_part h.fenced hid]

/-! What a client refers to belongs to its party. -/

/-- The device of a client belongs to the party of the client. -/
theorem device (hid : ω.client id = p) (hk : s.Knows id) : ω.device (t.client id).key.device = p :=
  (h.fenced.device (h.knows id hk)).trans hid

/-- So does its switch. -/
theorem switch (hid : ω.client id = p) (hk : s.Knows id) : ω.switch (t.client id).switch = p :=
  (h.fenced.switch (h.knows id hk)).trans hid

/-- So does the stream of its session. -/
theorem slot (hid : ω.client id = p) (hk : s.Knows id) {st : StreamId}
    (hs : (t.client id).scope.slot = some st) : ω.stream st = p :=
  (h.fenced.slot (h.knows id hk) hs).trans hid

/-! ### Elementary effects -/

/-- An effect on the part of the party. -/
theorem lift (f : System → System) (hown : (f t).part ω p = f (t.part ω p))
    (hothers : ∀ o, o ≠ p → (f t).part ω o = t.part ω o) (hfenced : (f t).Fenced ω)
    (hknows : ∀ id, t.Knows id → (f t).Knows id) : Beside ω p s (f t) (f u) :=
  ⟨by rw [hown, h.own], fun o ho => (hothers o ho).trans (h.others o ho), hfenced,
   fun id hk => hknows id (h.knows id hk)⟩

/-- A switch changes. -/
theorem updateSwitch {n : SwitchName} (hn : ω.switch n = p) (f : Switch → Switch) :
    Beside ω p s (t.updateSwitch n f) (u.updateSwitch n f) := by
  refine h.lift (·.updateSwitch n f) ?_ (fun o ho => ?_) ?_ fun _ hk => hk
  · simp only [System.updateSwitch, switch_part hn]
    simp only [part, Directory.keep_insert hn]
  · have hn' : ω.switch n ≠ o := fun he => ho (he.symm.trans hn)
    simp only [System.updateSwitch, part, Directory.keep_insert_of_ne hn']
  · exact ⟨h.fenced.clients, h.fenced.streams, h.fenced.registry, h.fenced.handles, h.fenced.finished,
      h.fenced.timers⟩

/-- A stream changes.  Its inbound loop, if it has one afterwards, is that of a client of the party.
-/
theorem updateStream {st : StreamId} (hst : ω.stream st = p) {f : Stream → Stream}
    (hf : ∀ id token, (f (t.stream st)).listener = some (id, token) → ω.client id = p) :
    Beside ω p s (t.updateStream st f) (u.updateStream st f) := by
  refine h.lift (·.updateStream st f) ?_ (fun o ho => ?_) ?_ fun _ hk => hk
  · simp only [System.updateStream, stream_part hst]
    simp only [part, Directory.keep_insert hst]
  · have hst' : ω.stream st ≠ o := fun he => ho (he.symm.trans hst)
    simp only [System.updateStream, part, Directory.keep_insert_of_ne hst']
  · exact ⟨h.fenced.clients,
      h.fenced.streams.insert fun id token hl => (hf id token hl).trans hst.symm,
      h.fenced.registry, h.fenced.handles, h.fenced.finished, h.fenced.timers⟩

/-- A change that leaves the inbound loop where it is, or ends it. -/
theorem changeStream {st : StreamId} (hst : ω.stream st = p) {f : Stream → Stream}
    (hf : ∀ v, (f v).listener = v.listener ∨ (f v).listener = none) :
    Beside ω p s (t.updateStream st f) (u.updateStream st f) := by
  refine h.updateStream hst fun id token hl => ?_
  rcases hf (t.stream st) with he | he
  · rw [he] at hl
    exact (h.fenced.listener hl).trans hst
  · rw [he] at hl
    cases hl

/-- A client changes, but neither its key nor its switch, and its session is on a stream of the
party. -/
theorem updateClient (hid : ω.client id = p) (hk : s.Knows id) {f : Client → Client}
    (hf : (f (t.client id)).key = (t.client id).key ∧ (f (t.client id)).switch = (t.client id).switch)
    (hs : ∀ st, (f (t.client id)).scope.slot = some st → ω.stream st = p) :
    Beside ω p s (t.updateClient id f) (u.updateClient id f) := by
  refine h.lift (·.updateClient id f) ?_ (fun o ho => ?_) ?_ fun id' hk' => ?_
  · simp only [System.updateClient, client_part hid]
    simp only [part, Directory.keep_insert hid]
  · have hid' : ω.client id ≠ o := fun he => ho (he.symm.trans hid)
    simp only [System.updateClient, part, Directory.keep_insert_of_ne hid']
  -- the changed client still refers to nothing but what belongs to its party
  · refine ⟨h.fenced.clients.insert ⟨?_, ?_, fun st hst => ?_⟩, h.fenced.streams, h.fenced.registry,
      h.fenced.handles, h.fenced.finished, h.fenced.timers⟩
    · rw [hf.1, h.device hid hk, hid]
    · rw [hf.2, h.switch hid hk, hid]
    · rw [hs st hst, hid]
  · exact (knows_updateClient (h.knows id hk) f id').mpr hk'

/-- A change that leaves the stream of the session where it is. -/
theorem changeClient (hid : ω.client id = p) (hk : s.Knows id) {f : Client → Client}
    (hf : ∀ c, (f c).key = c.key ∧ (f c).switch = c.switch ∧ (f c).scope.slot = c.scope.slot) :
    Beside ω p s (t.updateClient id f) (u.updateClient id f) := by
  obtain ⟨hkey, hswitch, hslot⟩ := hf (t.client id)
  refine h.updateClient hid hk ⟨hkey, hswitch⟩ fun st hs => ?_
  rw [hslot] at hs
  exact h.slot hid hk hs

/-- A task of the party becomes runnable. -/
theorem wake {task : Task} (ht : ω.task task = p) : Beside ω p s (t.wake task) (u.wake task) := by
  refine h.lift (·.wake task) ?_ (fun o ho => ?_) ?_ fun id hk => by rwa [Knows, clients_wake]
  · rw [part_wake, if_pos ht]
  · rw [part_wake, if_neg fun he => ho (he.symm.trans ht)]
  · rw [wake_eq]
    exact ⟨h.fenced.clients, h.fenced.streams, h.fenced.registry, h.fenced.handles, h.fenced.finished,
      h.fenced.timers⟩

/-- Several do. -/
theorem wakeAll {tasks : List Task} (ht : ∀ task ∈ tasks, ω.task task = p) :
    Beside ω p s (tasks.foldl System.wake t) (tasks.foldl System.wake u) := by
  induction tasks generalizing t u with
  | nil => exact h
  | cons task rest ih =>
    exact ih (h.wake (ht task List.mem_cons_self)) fun t hm => ht t (List.mem_cons_of_mem _ hm)

/-- An event about a device of the party is posted. -/
theorem post {e : Event} (he : ω.device e.device = p) : Beside ω p s (t.post e) (u.post e) := by
  refine h.lift (·.post e) ?_ (fun o ho => ?_) ?_ fun _ hk => hk
  · simp [System.post, part, he]
  · have he' : ω.device e.device ≠ o := fun hd => ho (hd.symm.trans he)
    simp [System.post, part, he']
  · exact ⟨h.fenced.clients, h.fenced.streams, h.fenced.registry, h.fenced.handles, h.fenced.finished,
      h.fenced.timers⟩

/-- The end of a call is noted, with the read stream that comes of it. -/
theorem record {f : Finished} (hf : ω.client f.call.client = p)
    (hc : ∀ r, f.cursor = some r → ω.client r.client = p) :
    Beside ω p s (t.record f) (u.record f) := by
  refine h.lift (·.record f) ?_ (fun o ho => ?_) ?_ fun _ hk => hk
  · simp [System.record, part, hf]
  · have hf' : ω.client f.call.client ≠ o := fun hd => ho (hd.symm.trans hf)
    simp [System.record, part, hf']
  · refine ⟨h.fenced.clients, h.fenced.streams, h.fenced.registry, h.fenced.handles, fun g hg r hr => ?_,
      h.fenced.timers⟩
    rcases List.mem_append.mp hg with hg | hg
    · exact h.fenced.finished g hg r hr
    · rw [List.mem_singleton.mp hg] at hr ⊢
      rw [hc r hr, hf]

/-- A timer is set.  It goes to its place among the timers of all, which leaves the order of each
party's as it is. -/
theorem setTimer {timer : Timer} (ht : ω.client timer.call.client = p) :
    Beside ω p s (t.setTimer timer) (u.setTimer timer) := by
  refine h.lift (·.setTimer timer) ?_ (fun o ho => ?_) ?_ fun _ hk => hk
  · simp [System.setTimer, part, filter_insertTimer h.fenced.timers, ht]
  · have ht' : ω.client timer.call.client ≠ o := fun hd => ho (hd.symm.trans ht)
    simp [System.setTimer, part, filter_insertTimer h.fenced.timers, ht']
  · exact ⟨h.fenced.clients, h.fenced.streams, h.fenced.registry, h.fenced.handles, h.fenced.finished,
      sorted_insertTimer timer h.fenced.timers⟩

/-- The timers of a call are stopped. -/
theorem stopTimers {call : CallId} (hc : ω.client call.client = p) :
    Beside ω p s { t with timers := t.timers.filter fun timer => decide (timer.call ≠ call) }
      { u with timers := u.timers.filter fun timer => decide (timer.call ≠ call) } := by
  refine h.lift (fun s => { s with timers := s.timers.filter fun timer => decide (timer.call ≠ call) })
    ?_ (fun o ho => ?_) ?_ fun _ hk => hk
  · simp only [part, List.filter_filter, Bool.and_comm]
  -- another party has no timers of this call that could be stopped
  · simp only [part, List.filter_filter]
    congr 1
    refine List.filter_congr fun timer _ => ?_
    by_cases he : timer.call = call
    · have hne : ω.client call.client ≠ o := fun hd => ho (hd.symm.trans hc)
      simp [he, hne]
    · simp [he]
  · exact ⟨h.fenced.clients, h.fenced.streams, h.fenced.registry, h.fenced.handles, h.fenced.finished,
      h.fenced.timers.filter _⟩

/-! ### Streams -/

/-- The sending half of a stream goes. -/
theorem dropUplink {st : StreamId} (hst : ω.stream st = p) :
    Beside ω p s (t.dropUplink st) (u.dropUplink st) := by
  unfold System.dropUplink
  refine Beside.wake ?_ hst
  exact h.changeStream hst fun _ => .inl rfl

/-- The inbound loop of a stream ends. -/
theorem dropListener {st : StreamId} (hst : ω.stream st = p) :
    Beside ω p s (t.dropListener st) (u.dropListener st) :=
  h.changeStream hst fun _ => .inr rfl

variable {n : SwitchName}

/-- The agent of a switch lets go of its stream. -/
theorem detach (hn : ω.switch n = p) : Beside ω p s (t.detach n) (u.detach n) := by
  unfold System.detach
  rw [h.switch_eq hn]
  split
  · exact h
  · next k _ =>
    have hst : ω.stream ⟨n, k⟩ = p := hn
    refine Beside.wake ?_ hst
    refine Beside.updateSwitch ?_ hn _
    exact h.changeStream hst fun _ => .inl rfl

/-- The agent sends a frame on its stream, if it has one. -/
theorem pushFrame (hn : ω.switch n = p) (frame : Arrival StreamResponse) :
    Beside ω p s (t.pushFrame n frame).1 (u.pushFrame n frame).1 ∧
      (u.pushFrame n frame).2 = (t.pushFrame n frame).2 := by
  unfold System.pushFrame
  rw [h.switch_eq hn]
  split
  · exact ⟨h, rfl⟩
  · next k _ =>
    have hst : ω.stream ⟨n, k⟩ = p := hn
    rw [h.stream_eq hst]
    split
    · exact ⟨h, rfl⟩
    · refine ⟨Beside.wake ?_ hst, rfl⟩
      exact h.changeStream hst fun _ => .inl rfl

/-- The agent makes its stream fail, and lets go of it. -/
theorem failStream (hn : ω.switch n = p) (status : Status) :
    Beside ω p s (t.failStream n status).1 (u.failStream n status).1 ∧
      (u.failStream n status).2 = (t.failStream n status).2 := by
  obtain ⟨hpush, hsent⟩ := h.pushFrame hn (.failure status)
  exact ⟨hpush.detach hn, hsent⟩

/-- Whether the agent has a stream that is read can be told from the part. -/
theorem isAttached_eq (hn : ω.switch n = p) : u.isAttached n = t.isAttached n := by
  unfold isAttached
  rw [h.switch_eq hn]
  split
  · rfl
  · next k _ =>
    have hst : ω.stream ⟨n, k⟩ = p := hn
    rw [h.stream_eq hst]

/-- The agent takes a frame, and may answer on its stream. -/
theorem serveFrame (hn : ω.switch n = p) (frame : StreamRequest) :
    Beside ω p s (t.serveFrame n frame) (u.serveFrame n frame) := by
  cases frame with
  | packet packet =>
    rw [serveFrame_packet, serveFrame_packet]
    exact h.updateSwitch hn _
  | arbitration claim =>
    simp only [serveFrame_arbitration, h.switch_eq hn]
    split
    · exact h.updateSwitch hn _
    · exact ((h.updateSwitch hn _).pushFrame hn _).1

/-- A stream of the switch is added, under the next number of that switch. -/
theorem addStream (hn : ω.switch n = p) (stream : Stream) (hl : stream.listener = none) :
    Beside ω p s (t.addStream n stream).1 (u.addStream n stream).1 ∧
      (u.addStream n stream).2 = (t.addStream n stream).2 := by
  have hst : ω.stream ⟨n, (t.switch n).streamCount⟩ = p := hn
  unfold System.addStream
  dsimp only
  rw [h.switch_eq hn]
  refine ⟨Beside.updateSwitch ?_ hn _, rfl⟩
  exact h.changeStream hst fun _ => .inr hl

/-- The agent takes a new stream in place of the one that it has. -/
theorem connect (hn : ω.switch n = p) (capacity : Option Nat) :
    Beside ω p s (t.connect n capacity).1 (u.connect n capacity).1 ∧
      (u.connect n capacity).2 = (t.connect n capacity).2 := by
  obtain ⟨hadd, hid⟩ := (h.detach hn).addStream hn ⟨{ capacity }, {}, true, none⟩ rfl
  unfold System.connect
  dsimp only
  rw [hid]
  exact ⟨(hadd.updateSwitch hn _).wake hn, rfl⟩

/-- The agent is asked for a stream, and a fault may keep it from answering. -/
theorem attachStream (hn : ω.switch n = p) (capacity : Option Nat) :
    Beside ω p s (t.attachStream n capacity).1 (u.attachStream n capacity).1 ∧
      (u.attachStream n capacity).2 = (t.attachStream n capacity).2 := by
  unfold System.attachStream
  dsimp only
  rw [h.switch_eq hn]
  have hu := h.updateSwitch hn fun w =>
    { w with agent := ((t.switch n).agent.enter .streamChannel).1 }
  split
  · exact ⟨hu, rfl⟩
  · exact ⟨hu, rfl⟩
  · obtain ⟨hc, hid⟩ := hu.connect hn capacity
    exact ⟨hc, congrArg Answer.reply hid⟩

/-- The switch is asked for a stream, and a script may answer in place of the agent. -/
theorem openStream (hn : ω.switch n = p) (capacity : Option Nat) :
    Beside ω p s (t.openStream n capacity).1 (u.openStream n capacity).1 ∧
      (u.openStream n capacity).2 = (t.openStream n capacity).2 := by
  unfold System.openStream
  rw [h.switch_eq hn]
  split
  · exact h.attachStream hn capacity
  · next script rest _ =>
    obtain ⟨ha, hid⟩ := (h.updateSwitch hn fun w => { w with scriptedStreams := rest }).addStream hn
      (scriptedStream capacity script) rfl
    exact ⟨ha, congrArg Answer.reply hid⟩

/-- A client queues a frame, or fails to, as it would without the others. -/
theorem enqueue (hid : ω.client id = p) (hk : s.Knows id) (frame : StreamRequest) :
    (∃ t' u', t.enqueue id frame = .ok t' ∧ u.enqueue id frame = .ok u' ∧ Beside ω p s t' u') ∨
      ∃ error, t.enqueue id frame = .error error ∧ u.enqueue id frame = .error error := by
  unfold System.enqueue
  dsimp only
  rw [h.client_eq hid]
  split
  · exact .inr ⟨_, rfl, rfl⟩
  · next st hs =>
    have hst := h.slot hid hk hs
    rw [h.stream_eq hst]
    split
    · exact .inr ⟨_, rfl, rfl⟩
    · exact .inr ⟨_, rfl, rfl⟩
    · refine .inl ⟨_, _, rfl, rfl, Beside.wake ?_ hst⟩
      exact h.changeStream hst fun _ => .inl rfl

/-! ### Sessions -/

/-- A scope ends.  Whatever it rouses is of the party: the loop on its stream, its waiting calls,
and the agent's reading of the uplink. -/
theorem endScope (hid : ω.client id = p) (hk : s.Knows id) {ended : Scope StreamId}
    (he : ended.slot = none) : Beside ω p s (t.endScope id ended) (u.endScope id ended) := by
  have roused : ∀ token, Beside ω p s (t.wakeScope id token) (u.wakeScope id token) := by
    intro token
    rw [wakeScope_eq, wakeScope_eq, h.client_eq hid]
    refine h.wakeAll fun task hm => ?_
    rcases List.mem_append.mp hm with hm | hm
    · obtain ⟨st, hs, rfl⟩ := List.mem_map.mp hm
      exact h.slot hid hk (Option.mem_toList.mp hs)
    · obtain ⟨call, -, rfl⟩ := List.mem_map.mp hm
      exact hid
  have replaced : ∀ {t' u' : System}, Beside ω p s t' u' → Beside ω p s
      (t'.updateClient id fun c => { c with scope := ended, arbiter := c.arbiter.reset })
      (u'.updateClient id fun c => { c with scope := ended, arbiter := c.arbiter.reset }) :=
    fun h' => h'.updateClient hid hk ⟨rfl, rfl⟩ fun st hs => by rw [he] at hs; cases hs
  -- The scope in place may have no stream yet, and the stream may outlive its scope's token.
  unfold System.endScope
  dsimp only
  rw [h.client_eq hid]
  cases hs : (t.client id).scope.slot with
  | none =>
    cases (t.client id).scope.current with
    | none => exact replaced h
    | some token => exact replaced (roused token)
  | some st =>
    -- what is left of the session is its stream
    have hst := h.slot hid hk hs
    cases (t.client id).scope.current with
    | none => exact (replaced h).dropUplink hst
    | some token => exact (replaced (roused token)).dropUplink hst

/-- A session is closed from the client's side. -/
theorem closeSession (hid : ω.client id = p) (hk : s.Knows id) :
    Beside ω p s (t.closeSession id) (u.closeSession id) := by
  have he := h.endScope hid hk (Scope.slot_close (t.client id).scope)
  unfold System.closeSession
  dsimp only
  rw [h.client_eq hid]
  split
  · rw [he.client_eq hid]
    exact he.post (he.device hid hk)
  · exact he

/-- A session fails, if the scope is the one in place. -/
theorem failSession (hid : ω.client id = p) (hk : s.Knows id) (token : Token) :
    Beside ω p s (t.failSession id token) (u.failSession id token) := by
  by_cases ht : (t.client id).scope.current = some token
  · rw [failSession_eq ht, failSession_eq (by rw [h.client_eq hid]; exact ht), h.client_eq hid]
    exact h.endScope hid hk rfl
  · rw [failSession_eq_self ht, failSession_eq_self (by rw [h.client_eq hid]; exact ht)]
    exact h

/-- A failure is reported: the caller is told the same, and the same events are posted. -/
theorem report (hid : ω.client id = p) (hk : s.Knows id) (operation : Operation) (failure : Failure) :
    Beside ω p s (t.report id operation failure).1 (u.report id operation failure).1 ∧
      (u.report id operation failure).2 = (t.report id operation failure).2 := by
  cases failure with
  | refused status token =>
    have hd := h.device hid hk
    unfold System.report
    dsimp only
    rw [h.client_eq hid]
    split
    · exact ⟨h.post hd, rfl⟩
    · exact ⟨(h.failSession hid hk token).post hd, rfl⟩
    · exact ⟨h, rfl⟩
  | _ =>
    unfold System.report
    rw [h.client_eq hid]
    exact ⟨h, rfl⟩

/-- A client that nobody holds any more loses its session. -/
theorem release (hid : ω.client id = p) (hk : s.Knows id) :
    Beside ω p s (t.release id) (u.release id) := by
  unfold System.release
  rw [h.isHeld_eq hid]
  split
  · exact h
  · exact h.closeSession hid hk

/-- A client claims, and takes the claim back if it cannot be queued. -/
theorem runForMastership (hid : ω.client id = p) (hk : s.Knows id) (election : ElectionId) :
    Beside ω p s (t.runForMastership id election).1 (u.runForMastership id election).1 ∧
      (u.runForMastership id election).2 = (t.runForMastership id election).2 := by
  have hclaim : Beside ω p s
      (t.updateClient id fun c => { c with arbiter := c.arbiter.claim election })
      (u.updateClient id fun c => { c with arbiter := c.arbiter.claim election }) :=
    h.changeClient hid hk fun _ => ⟨rfl, rfl, rfl⟩
  unfold System.runForMastership
  dsimp only
  rw [h.client_eq hid]
  rcases hclaim.enqueue hid hk (Arbiter.claimFrame (t.client id).key.number election) with
    ⟨t', u', ht, hu, hq⟩ | ⟨error, ht, hu⟩
  · rw [ht, hu]
    exact ⟨hq, rfl⟩
  · -- a claim that has not been queued is taken back
    rw [ht, hu]
    dsimp only
    refine ⟨?_, rfl⟩
    exact hclaim.changeClient hid hk fun _ => ⟨rfl, rfl, rfl⟩

/-- A client sends a packet. -/
theorem packetOut (hid : ω.client id = p) (hk : s.Knows id) (conf : Pipeconf) (packet : Packet) :
    Beside ω p s (t.packetOut id conf packet).1 (u.packetOut id conf packet).1 ∧
      (u.packetOut id conf packet).2 = (t.packetOut id conf packet).2 := by
  unfold System.packetOut
  split
  · exact ⟨h, rfl⟩
  · next wire _ =>
    rcases h.enqueue hid hk (.packet wire) with ⟨t', u', ht, hu, hq⟩ | ⟨error, ht, hu⟩
    · rw [ht, hu]
      exact ⟨hq, rfl⟩
    · rw [ht, hu]
      exact ⟨h, rfl⟩

end Beside

end P4Control.System
