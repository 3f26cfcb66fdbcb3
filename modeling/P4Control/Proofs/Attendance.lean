import P4Control.Proofs.Course

namespace P4Control

/-!
# No waiting call is overlooked

A pending call waits for its turn, for an answer or for a chunk.  Whatever it waits for, it is runnable
as soon as it can go on, and until the deadline of an answer there is a timer for it.

* `System.Tends` — what there is for a call that waits.
* `System.Attended` — what holds of all pending calls, but for the one that is running.
* `System.Heeds` — changes that overlook no waiting call; `Attended.heeds` — they keep it.
-/

/-- The scope whose stream is being set up by a call that waits like this. -/
def Wait.settingUp? : Wait → Option Token
  | .answer .openStream token _ _ => some token
  | _ => none

namespace System

/-! ### What there is for a call that waits -/

/-- What there is for a call that waits: it is runnable when it has its turn, when its scope has
been cancelled and when its deadline has passed; it has a timer until then; and it has its turn if it
sets up a stream. -/
def Tends (s : System) (id : CallId) : Wait → Prop
  | .turn => id.serial ∈ (s.client id.client).turns ∧
      ((s.client id.client).turns.head? = some id.serial → .resume id ∈ s.ready)
  | .answer operation token _ deadline =>
      ((s.client id.client).scope.isCancelled token = true → .resume id ∈ s.ready) ∧
      (deadline.nanoseconds ≤ s.now.nanoseconds → .resume id ∈ s.ready) ∧
      (s.now.nanoseconds < deadline.nanoseconds → ⟨deadline, id⟩ ∈ s.timers) ∧
      (operation = .openStream → (s.client id.client).turns.head? = some id.serial)
  | .chunk token => (s.client id.client).scope.isCancelled token = true → .resume id ∈ s.ready

/-- No pending call is overlooked, apart from the one that is running.  The scopes in `stray` have
begun for a session that nobody sets up any more. -/
structure Attended (s : System) (busy : Option CallId) (stray : ClientId → Token → Prop) : Prop where
  serials : ∀ id, ((s.client id).calls.map (·.serial)).Nodup
  made : ∀ id, ∀ call ∈ (s.client id).calls, call.serial < (s.client id).made
  running : ∀ id, busy = some id → id.serial < (s.client id.client).made
  queue : ∀ id, (s.client id).turns.Nodup
  /-- Whoever is in line to open the session is a call that is there to do so. -/
  openers : ∀ id, ∀ n ∈ (s.client id).turns,
    busy = some ⟨id, n⟩ ∨ ∃ call ∈ (s.client id).calls, call.serial = n ∧ call.wait.opens = true
  sorted : s.timers.Pairwise fun t u => t.deadline.nanoseconds ≤ u.deadline.nanoseconds
  timers : ∀ t ∈ s.timers, t.call.serial < (s.client t.call.client).made
  tended : ∀ id, ∀ call ∈ (s.client id).calls, busy ≠ some ⟨id, call.serial⟩ →
    s.Tends ⟨id, call.serial⟩ call.wait
  /-- A scope in place without an open session is one whose stream is being set up. -/
  settingUp : ∀ id token, (s.client id).scope.current = some token →
    (s.client id).scope.isOpen = false → stray id token ∨
      ∃ call ∈ (s.client id).calls, busy ≠ some ⟨id, call.serial⟩ ∧
        call.wait.settingUp? = some token

variable {s t u : System} {busy : Option CallId} {stray stray' : ClientId → Token → Prop}

/-- What there is for a call depends on its client and on what is runnable. -/
theorem Tends.mono {id : CallId} {wait : Wait} (h : s.Tends id wait) (hn : t.now = s.now)
    (hin : id.serial ∈ (s.client id.client).turns → id.serial ∈ (t.client id.client).turns)
    (hhead : (s.client id.client).turns.head? = some id.serial →
      (t.client id.client).turns.head? = some id.serial)
    (hturn : (t.client id.client).turns.head? = some id.serial →
      (s.client id.client).turns.head? = some id.serial ∨ .resume id ∈ t.ready)
    (hc : ∀ token, wait.token? = some token →
      (t.client id.client).scope.isCancelled token = true →
        (s.client id.client).scope.isCancelled token = true ∨ .resume id ∈ t.ready)
    (ht : ∀ deadline, (⟨deadline, id⟩ : Timer) ∈ s.timers → ⟨deadline, id⟩ ∈ t.timers)
    (hr : .resume id ∈ s.ready → .resume id ∈ t.ready) : t.Tends id wait := by
  cases wait with
  | turn =>
    obtain ⟨hm, hw⟩ := h
    exact ⟨hin hm, fun hh => (hturn hh).elim (fun hs => hr (hw hs)) fun h => h⟩
  | answer operation token limit deadline =>
    obtain ⟨hcan, hdue, htimer, hop⟩ := h
    refine ⟨fun hh => ?_, fun hd => ?_, fun hd => ?_, fun ho => hhead (hop ho)⟩
    · exact (hc token rfl hh).elim (fun hs => hr (hcan hs)) fun h => h
    · rw [hn] at hd
      exact hr (hdue hd)
    · rw [hn] at hd
      exact ht deadline (htimer hd)
  | chunk token => exact fun hh => (hc token rfl hh).elim (fun hs => hr (h hs)) fun h => h

/-- It stays as long as the line and the cancelled scopes do. -/
theorem Tends.congr {id : CallId} {wait : Wait} (h : s.Tends id wait) (hn : t.now = s.now)
    (hturns : (t.client id.client).turns = (s.client id.client).turns)
    (hc : (t.client id.client).scope.cancelled = (s.client id.client).scope.cancelled)
    (ht : ∀ deadline, (⟨deadline, id⟩ : Timer) ∈ s.timers → ⟨deadline, id⟩ ∈ t.timers)
    (hr : .resume id ∈ s.ready → .resume id ∈ t.ready) : t.Tends id wait := by
  refine h.mono hn ?_ ?_ ?_ (fun token _ hcan => .inl ?_) ht hr
  · rw [hturns]
    exact fun hin => hin
  · rw [hturns]
    exact fun hh => hh
  · rw [hturns]
    exact .inl
  · unfold Scope.isCancelled at hcan ⊢
    rwa [hc] at hcan

/-- More scopes may be without anyone who sets up their stream. -/
theorem Attended.weaken (h : s.Attended busy stray)
    (hs : ∀ id token, stray id token → stray' id token) :
    s.Attended busy stray' :=
  { h with settingUp := fun id token hc ho => (h.settingUp id token hc ho).imp_left (hs id token) }

/-- A scope that has ended, or whose session is open, does not count among the stray ones. -/
theorem Attended.strengthen (h : s.Attended busy stray')
    (hs : ∀ id token, stray' id token → (s.client id).scope.current = some token →
      (s.client id).scope.isOpen = false → stray id token) : s.Attended busy stray :=
  { h with
    settingUp := fun id token hc ho =>
      (h.settingUp id token hc ho).imp_left fun hst => hs id token hst hc ho }

/-! ### Changes that overlook no call -/

/-- A change that leaves the calls as they are and overlooks none of them. -/
structure Heeds (s t : System) : Prop where
  now : t.now = s.now
  finished : t.finished = s.finished
  timers : t.timers = s.timers
  calls : ∀ id, (t.client id).calls = (s.client id).calls
  turns : ∀ id, (t.client id).turns = (s.client id).turns
  made : ∀ id, (t.client id).made = (s.client id).made
  ready : ∀ id, .resume id ∈ s.ready → .resume id ∈ t.ready
  /-- Whoever waits in a scope that is cancelled is told. -/
  roused : ∀ id, ∀ call ∈ (s.client id).calls, ∀ token, call.wait.token? = some token →
    (t.client id).scope.isCancelled token = true →
      (s.client id).scope.isCancelled token = true ∨ .resume ⟨id, call.serial⟩ ∈ t.ready
  cancelled : ∀ id token, (s.client id).scope.isCancelled token = true →
    (t.client id).scope.isCancelled token = true
  /-- No scope is left to wait for its stream. -/
  waiting : ∀ id token, (t.client id).scope.current = some token →
    (t.client id).scope.isOpen = false →
      (s.client id).scope.current = some token ∧ (s.client id).scope.isOpen = false

/-- A change that heeds the calls overlooks none. -/
theorem Attended.heeds (h : s.Attended busy stray) (hst : Heeds s t) : t.Attended busy stray where
  serials := by
    intro id
    rw [hst.calls]
    exact h.serials id
  made := by
    intro id call hm
    rw [hst.calls] at hm
    rw [hst.made]
    exact h.made id call hm
  running := by
    intro id hb
    rw [hst.made]
    exact h.running id hb
  queue := by
    intro id
    rw [hst.turns]
    exact h.queue id
  openers := by
    intro id n hn
    rw [hst.turns] at hn
    rw [hst.calls]
    exact h.openers id n hn
  sorted := by
    rw [hst.timers]
    exact h.sorted
  timers := by
    intro timer hm
    rw [hst.timers] at hm
    rw [hst.made]
    exact h.timers timer hm
  tended := by
    intro id call hm hb
    rw [hst.calls] at hm
    -- A call may wait for five things; each of them is still there or has come about.
    have turns := hst.turns id
    refine (h.tended id call hm hb).mono hst.now ?_ ?_ ?_ (hst.roused id call hm) ?_ (hst.ready _)
    · rw [turns]
      exact fun hin => hin
    · rw [turns]
      exact fun hh => hh
    · rw [turns]
      exact .inl
    · rw [hst.timers]
      exact fun _ ht => ht
  settingUp := by
    intro id token hc ho
    obtain ⟨hc', ho'⟩ := hst.waiting id token hc ho
    rw [hst.calls]
    exact h.settingUp id token hc' ho'

/-- No change heeds all calls. -/
theorem Heeds.refl (s : System) : Heeds s s :=
  ⟨rfl, rfl, rfl, fun _ => rfl, fun _ => rfl, fun _ => rfl, fun _ h => h, fun _ _ _ _ _ h => .inl h,
   fun _ _ h => h, fun _ _ hc ho => ⟨hc, ho⟩⟩

/-- Changes that heed the calls do so together. -/
theorem Heeds.trans (h : Heeds s t) (h' : Heeds t u) : Heeds s u where
  now := h'.now.trans h.now
  finished := h'.finished.trans h.finished
  timers := h'.timers.trans h.timers
  calls id := (h'.calls id).trans (h.calls id)
  turns id := (h'.turns id).trans (h.turns id)
  made id := (h'.made id).trans (h.made id)
  ready id hr := h'.ready id (h.ready id hr)
  roused := by
    intro id call hm token ht hc
    rcases h'.roused id call (by rwa [h.calls]) token ht hc with hc | hr
    · exact (h.roused id call hm token ht hc).imp_right (h'.ready _)
    · exact .inr hr
  cancelled id token hc := h'.cancelled id token (h.cancelled id token hc)
  waiting id token hc ho := (h'.waiting id token hc ho).elim (h.waiting id token)

/-- The clients stay as they are, and so does the time. -/
theorem heeds_of_clients (hc : ∀ id, t.client id = s.client id) (hn : t.now = s.now)
    (hf : t.finished = s.finished) (ht : t.timers = s.timers)
    (hr : ∀ id, .resume id ∈ s.ready → .resume id ∈ t.ready) : Heeds s t where
  now := hn
  finished := hf
  timers := ht
  calls id := by rw [hc]
  turns id := by rw [hc]
  made id := by rw [hc]
  ready := hr
  roused id call _ token _ h := by
    rw [hc] at h
    exact .inl h
  cancelled id token h := by rwa [hc]
  waiting id token h ho := by
    rw [hc] at h ho
    exact ⟨h, ho⟩

/-- Where the clients stay as they are, calls are heeded if none is put to sleep. -/
theorem heeds_of_sameClients (h : SameClients s t)
    (hr : ∀ id, .resume id ∈ s.ready → .resume id ∈ t.ready) : Heeds s t :=
  heeds_of_clients h.client (by rw [h]) h.finished (by rw [h]) hr

/-- One client changes in what waiting calls have nothing to do with. -/
theorem heeds_updateClient {id : ClientId} {f : Client → Client}
    (hc : (f (s.client id)).calls = (s.client id).calls)
    (ht : (f (s.client id)).turns = (s.client id).turns)
    (hm : (f (s.client id)).made = (s.client id).made)
    (hs : (f (s.client id)).scope = (s.client id).scope) : Heeds s (s.updateClient id f) := by
  have client : ∀ id', ((s.updateClient id f).client id').calls = (s.client id').calls ∧
      ((s.updateClient id f).client id').turns = (s.client id').turns ∧
      ((s.updateClient id f).client id').made = (s.client id').made ∧
      ((s.updateClient id f).client id').scope = (s.client id').scope := by
    intro id'
    rw [client_updateClient]
    split
    · next he => exact he ▸ ⟨hc, ht, hm, hs⟩
    · exact ⟨rfl, rfl, rfl, rfl⟩
  refine ⟨rfl, rfl, rfl, fun id' => (client id').1, fun id' => (client id').2.1,
    fun id' => (client id').2.2.1, fun _ h => h, fun id' call _ token _ h => ?_, fun id' token h => ?_,
    fun id' token h ho => ?_⟩
  · rw [(client id').2.2.2] at h
    exact .inl h
  · rw [(client id').2.2.2]
    exact h
  · rw [(client id').2.2.2] at h ho
    exact ⟨h, ho⟩

/-- Waking a task heeds the calls. -/
theorem heeds_wake (task : Task) : Heeds s (s.wake task) :=
  heeds_of_sameClients (sameClients_wake s task) fun _ h => (mem_ready_wake s).mpr (.inr h)

/-- A stream that is set up heeds the calls. -/
theorem heeds_attachStream (n : SwitchName) (capacity : Option Nat) :
    Heeds s (s.attachStream n capacity).1 := by
  have connected : ∀ t : System, Heeds t (t.connect n capacity).1 := fun t =>
    heeds_of_sameClients (sameClients_connect t n capacity) fun _ h =>
      (ready_connect t n capacity).1 _ ((ready_detach t n).1 _ h)
  refine s.holds_attachStream ?_ fun t ht => ht.trans (connected t)
  exact heeds_of_sameClients (sameClients_updateSwitch s n _) fun _ h => h

/-- So does one that a script answers. -/
theorem heeds_openStream (n : SwitchName) (capacity : Option Nat) :
    Heeds s (s.openStream n capacity).1 := by
  have hs := sameClients_openStream s n capacity
  unfold openStream at hs ⊢
  split
  · exact heeds_attachStream n capacity
  · next script rest h =>
    rw [h] at hs
    exact heeds_of_sameClients hs fun _ h => h

/-- A frame on its way heeds the calls. -/
theorem heeds_pushFrame (n : SwitchName) (frame : Arrival StreamResponse) :
    Heeds s (s.pushFrame n frame).1 :=
  heeds_of_sameClients (sameClients_pushFrame s n frame) fun _ h => (ready_pushFrame s n frame).1 _ h

/-- A frame that is served heeds the calls. -/
theorem heeds_serveFrame (n : SwitchName) (frame : StreamRequest) :
    Heeds s (s.serveFrame n frame) := by
  refine heeds_of_sameClients (sameClients_serveFrame s n frame) fun id h => ?_
  cases frame with
  | packet packet => exact h
  | arbitration claim =>
    rw [serveFrame_arbitration]
    split
    · exact h
    · exact (ready_pushFrame _ n _).1 _ h

/-- Closing a stream's outbound half heeds the calls. -/
theorem heeds_dropUplink (st : StreamId) : Heeds s (s.dropUplink st) :=
  heeds_of_sameClients (sameClients_dropUplink s st) fun _ h => (mem_ready_wake _).mpr (.inr h)

/-- Leaving a stream heeds the calls. -/
theorem heeds_dropListener (st : StreamId) : Heeds s (s.dropListener st) :=
  heeds_of_sameClients (sameClients_dropListener s st) fun _ h => h

/-- An agent that lets go of its stream heeds the calls. -/
theorem heeds_detach (n : SwitchName) : Heeds s (s.detach n) :=
  heeds_of_sameClients (sameClients_detach s n) fun _ h => (ready_detach s n).1 _ h

/-! ### The ends of scopes -/

/-- Whoever waits in the scope that ends is told. -/
theorem heeds_endScope (id : ClientId) {ended : Scope StreamId} (hcur : ended.current = none)
    (hcan : ∀ token, ended.isCancelled token = true ↔
      (s.client id).scope.isCancelled token = true ∨ (s.client id).scope.current = some token) :
    Heeds s (s.endScope id ended) := by
  have hroused := (ready_endScope s id ended).2
  have same : ∀ id', ((s.endScope id ended).client id').calls = (s.client id').calls ∧
      ((s.endScope id ended).client id').turns = (s.client id').turns ∧
      ((s.endScope id ended).client id').made = (s.client id').made := by
    intro id'
    rw [client_endScope]
    split
    · next he => exact he ▸ ⟨rfl, rfl, rfl⟩
    · exact ⟨rfl, rfl, rfl⟩
  refine ⟨by rw [endScope_eq], finished_endScope s id ended, by rw [endScope_eq],
    fun id' => (same id').1, fun id' => (same id').2.1, fun id' => (same id').2.2,
    fun _ h => mem_ready_endScope h id ended, fun id' call hm token ht hc => ?_,
    fun id' token hc => ?_, fun id' token hc ho => ?_⟩
  · rw [client_endScope] at hc
    split at hc
    · next he =>
      subst he
      rcases (hcan token).mp hc with hold | hnow
      · exact .inl hold
      · -- whoever waits in the scope in place is among those that are roused
        refine .inr (hroused _ ?_)
        simp only [roused, hnow, List.mem_append, List.mem_map, List.mem_filter]
        exact .inl (.inr ⟨call, ⟨hm, by simpa using ht⟩, rfl⟩)
    · exact .inl hc
  · rw [client_endScope]
    split
    · next he => exact (hcan token).mpr (.inl (he ▸ hc))
    · exact hc
  · rw [client_endScope] at hc ho
    split at hc
    · rw [show ended.current = some token from hc] at hcur
      cases hcur
    · next hne =>
      rw [if_neg hne] at ho
      exact ⟨hc, ho⟩

/-- An event heeds the calls. -/
theorem heeds_post (e : Event) : Heeds s (s.post e) :=
  heeds_of_clients (fun _ => rfl) rfl rfl rfl fun _ h => h

/-- A close wakes the calls in the scope that it ends. -/
theorem heeds_closeSession (id : ClientId) : Heeds s (s.closeSession id) := by
  have he := heeds_endScope (s := s) id (Scope.current_close _)
    (Scope.isCancelled_close (s.client id).scope)
  rw [closeSession_eq]
  split
  · exact he.trans (heeds_post _)
  · exact he

/-- So does a failure. -/
theorem heeds_failSession (id : ClientId) (token : Token) : Heeds s (s.failSession id token) := by
  by_cases ht : (s.client id).scope.current = some token
  · rw [failSession_eq ht]
    exact heeds_endScope id rfl (Scope.isCancelled_ended ht rfl)
  · rw [failSession_eq_self ht]
    exact .refl s

/-- A report heeds the calls, whether it ends the session or not. -/
theorem heeds_report (id : ClientId) (operation : Operation) (failure : Failure) :
    Heeds s (s.report id operation failure).1 := by
  cases failure with
  | refused status token =>
    unfold report
    dsimp only
    split
    · exact heeds_post _
    · exact (heeds_failSession id token).trans (heeds_post _)
    · exact .refl s
  | _ => exact .refl s

/-- Letting go of a client heeds the calls, whether it closes the session or not. -/
theorem heeds_release (id : ClientId) : Heeds s (s.release id) := by
  unfold release
  split
  · exact .refl s
  · exact heeds_closeSession id

/-- The session opens in the scope in place. -/
theorem heeds_goLive (id : ClientId) (token : Token) (afterFailure : Bool)
    {activated : Scope StreamId} (st : StreamId) (ho : activated.isOpen = true)
    (hc : activated.cancelled = (s.client id).scope.cancelled) :
    Heeds s (s.goLive id token afterFailure activated st) := by
  have same : ∀ id', ((s.goLive id token afterFailure activated st).client id').calls =
        (s.client id').calls ∧
      ((s.goLive id token afterFailure activated st).client id').turns = (s.client id').turns ∧
      ((s.goLive id token afterFailure activated st).client id').made = (s.client id').made ∧
      ((s.goLive id token afterFailure activated st).client id').scope.cancelled =
        (s.client id').scope.cancelled := by
    intro id'
    rw [client_goLive]
    split
    · next he => exact he ▸ ⟨rfl, rfl, rfl, hc⟩
    · exact ⟨rfl, rfl, rfl, rfl⟩
  refine ⟨?_, finished_goLive s id token afterFailure activated st, ?_, fun id' => (same id').1,
    fun id' => (same id').2.1, fun id' => (same id').2.2.1,
    fun _ h => (mem_ready_goLive s id token afterFailure activated st).mpr (.inr h),
    fun id' call _ token' _ h => ?_, fun id' token' h => ?_, fun id' token' h ho' => ?_⟩
  · unfold goLive
    rw [wake_eq]
    rfl
  · unfold goLive
    rw [wake_eq]
    rfl
  · unfold Scope.isCancelled at h ⊢
    rw [(same id').2.2.2] at h
    exact .inl h
  · unfold Scope.isCancelled at h ⊢
    rw [(same id').2.2.2]
    exact h
  · -- the session is open now, so its scope waits for no stream
    rw [client_goLive] at h ho'
    split at h
    · rw [if_pos ‹_›, ho] at ho'
      cases ho'
    · next hne =>
      rw [if_neg hne] at ho'
      exact ⟨h, ho'⟩

/-- A frame that is taken heeds the calls. -/
theorem heeds_listenFrame (id : ClientId) (frame : StreamResponse) :
    Heeds s (s.listenFrame id frame) := by
  cases frame with
  | arbitration update =>
    exact heeds_updateClient (f := fun c =>
      { c with arbiter := c.arbiter.acknowledge c.key.number update }) rfl rfl rfl rfl
  | error e => exact heeds_post _
  | packet wire =>
    unfold listenFrame
    dsimp only
    split
    · exact .refl s
    · split
      · exact heeds_post _
      · exact .refl s

/-- A stream that is lost takes the session along. -/
theorem heeds_loseStream (st : StreamId) (id : ClientId) (token : Token) (status : Status) :
    Heeds s (s.loseStream st id token status) :=
  ((heeds_report id .streamChannel (.refused status token)).trans (heeds_failSession id token)).trans
    (heeds_dropListener st)

end System

end P4Control
