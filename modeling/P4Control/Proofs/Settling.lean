import P4Control.Proofs.Ending
import P4Control.Proofs.Wiring

namespace P4Control

/-!
# Tasks run until none can

Every step of a task gets something done, or takes the task off the queue and changes nothing.  What
can be done is bounded, and so is what one step makes runnable.

* `work_updateClient`, `work_updateStream`, `work_updateSwitch` — the work left after an update.
* `alarm` — how many tasks the end of a client's scope can rouse.
* `Costs` — what the end of a scope or a call gets done, and what it makes runnable.
* `Progress`, `poll_progress` — a step leaves fewer runnable tasks, or less work.
* `settle_ready` — no task is runnable any more when the tasks have run.
-/

/-- How much the waiting calls of a client may still set in motion. -/
def Client.weight (c : Client) : Nat := System.total (c.calls.map fun call => System.Wait.weight call.wait)

namespace System

/-! ### Sums over directories -/

/-- The sum over the values of a list, where a value is replaced or added. -/
theorem total_insertIn {κ α : Type} [DecidableEq κ] (f : α → Nat) (k : κ) (v : α)
    (l : List (κ × α)) :
    total ((Directory.insertIn k v l).map fun p => f p.2) + (Directory.findIn k l).elim 0 f =
      total (l.map fun p => f p.2) + f v := by
  induction l with
  | nil => simp [Directory.insertIn, Directory.findIn, total]
  | cons p rest ih =>
    obtain ⟨k', v'⟩ := p
    by_cases h : k' = k
    · simp [Directory.insertIn, Directory.findIn, total, h]
      omega
    · simp only [Directory.insertIn, Directory.findIn, total, if_neg h, List.map_cons]
      omega

/-- Replacing a value replaces its share in a sum. -/
theorem total_insert {κ α : Type} [DecidableEq κ] (f : α → Nat) (d : Directory κ α) (k : κ) (v : α) :
    total ((d.insert k v).values.map f) + (d.find? k).elim 0 f = total (d.values.map f) + f v := by
  have h := total_insertIn f k v d.entries
  unfold Directory.values Directory.insert Directory.find?
  rw [List.map_map, List.map_map]
  exact h

/-- A blank value weighs nothing, so it may stand for a missing one. -/
theorem elim_eq_getD {α : Type} (f : α → Nat) (blank : α) (hb : f blank = 0) (o : Option α) :
    o.elim 0 f = f (o.getD blank) := by
  cases o with
  | none => exact hb.symm
  | some a => rfl

/-- A share is no more than the sum. -/
theorem elim_le_total {κ α : Type} [DecidableEq κ] (f : α → Nat) (d : Directory κ α) (k : κ) :
    (d.find? k).elim 0 f ≤ total (d.values.map f) := by
  unfold Directory.find? Directory.values
  rw [List.map_map]
  generalize d.entries = l
  induction l with
  | nil => exact Nat.le_refl _
  | cons p rest ih =>
    obtain ⟨k', v⟩ := p
    simp only [Directory.findIn, List.map_cons, total, Function.comp_apply] at ih ⊢
    split
    · exact Nat.le_add_right _ _
    · omega

/-! ### The work left -/

variable (s : System)

/-- Changing a client changes the work by what it weighs. -/
theorem work_updateClient (id : ClientId) (f : Client → Client) :
    (s.updateClient id f).work + (s.client id).weight = s.work + (f (s.client id)).weight := by
  have h := total_insert Client.weight s.clients id (f (s.client id))
  rw [elim_eq_getD Client.weight default rfl] at h
  unfold work
  show total ((s.clients.insert id (f (s.client id))).values.map Client.weight) + _ + _ + _ =
    total (s.clients.values.map Client.weight) + _ + _ + _
  rw [show ((s.clients.find? id).getD default).weight = (s.client id).weight from rfl] at h
  show _ + total (s.streams.values.map Stream.weight) + total (s.switches.values.map Switch.weight) +
    _ = _
  omega

/-- Changing a stream changes the work by what it weighs. -/
theorem work_updateStream (st : StreamId) (f : Stream → Stream) :
    (s.updateStream st f).work + Stream.weight (s.stream st) =
      s.work + Stream.weight (f (s.stream st)) := by
  have h := total_insert Stream.weight s.streams st (f (s.stream st))
  rw [elim_eq_getD Stream.weight .dead rfl] at h
  unfold work
  show _ + total ((s.streams.insert st (f (s.stream st))).values.map Stream.weight) + _ + _ = _
  rw [show Stream.weight ((s.streams.find? st).getD .dead) = Stream.weight (s.stream st) from rfl] at h
  show total (s.clients.values.map Client.weight) + _ + total (s.switches.values.map Switch.weight) +
    _ = total (s.clients.values.map Client.weight) + _ + _ + _
  omega

/-- Changing a switch changes the work by what it weighs. -/
theorem work_updateSwitch (n : SwitchName) (f : Switch → Switch) :
    (s.updateSwitch n f).work + Switch.weight (s.switch n) =
      s.work + Switch.weight (f (s.switch n)) := by
  have h := total_insert Switch.weight s.switches n (f (s.switch n))
  rw [elim_eq_getD Switch.weight {} rfl] at h
  unfold work
  show _ + _ + total ((s.switches.insert n (f (s.switch n))).values.map Switch.weight) + _ = _
  rw [show Switch.weight ((s.switches.find? n).getD {}) = Switch.weight (s.switch n) from rfl] at h
  show total (s.clients.values.map Client.weight) + total (s.streams.values.map Stream.weight) + _ +
    _ = total (s.clients.values.map Client.weight) + _ + _ + _
  omega

/-- A runnable task is not work that is left. -/
@[simp] theorem work_wake (task : Task) : (s.wake task).work = s.work := by
  rw [wake_eq]
  rfl

/-- Events are no work. -/
@[simp] theorem work_post (e : Event) : (s.post e).work = s.work := rfl

/-- The work left for the waiting calls of one client. -/
theorem weight_le_work (id : ClientId) : (s.client id).weight ≤ s.work := by
  have h := elim_le_total Client.weight s.clients id
  rw [elim_eq_getD Client.weight default rfl] at h
  unfold work
  show _ ≤ total (s.clients.values.map Client.weight) + _ + _
  exact Nat.le_trans h (by omega)

/-- Every call that waits weighs something. -/
theorem one_le_weight (wait : Wait) : 1 ≤ Wait.weight wait := by
  cases wait <;> simp [Wait.weight]

/-- There are no more pending calls than the client weighs. -/
theorem length_le_weight (c : Client) : c.calls.length ≤ c.weight := by
  unfold Client.weight
  induction c.calls with
  | nil => exact Nat.le_refl _
  | cons call rest ih =>
    have hone := one_le_weight call.wait
    rw [List.map_cons, total, List.length_cons]
    omega

/-- A call with much to set in motion counts for several. -/
theorem length_lt_weight {c : Client} {call : Call} (hm : call ∈ c.calls) :
    c.calls.length + Wait.weight call.wait ≤ c.weight + 1 := by
  unfold Client.weight
  generalize c.calls = calls at hm
  induction calls with
  | nil => cases hm
  | cons first rest ih =>
    rw [List.map_cons, total, List.length_cons]
    rcases List.mem_cons.mp hm with rfl | hm
    · have h := length_le_weight { (default : Client) with calls := rest }
      unfold Client.weight at h
      dsimp only at h
      omega
    · have h := ih hm
      have hone := one_le_weight first.wait
      omega

/-! ### Waking -/

/-- At most one task is woken. -/
theorem length_wake (task : Task) : (s.wake task).ready.length ≤ s.ready.length + 1 := by
  rw [ready_wake]
  split <;> simp

/-- At most as many tasks are woken as are told to. -/
theorem length_foldl_wake (tasks : List Task) :
    (tasks.foldl wake s).ready.length ≤ s.ready.length + tasks.length := by
  induction tasks generalizing s with
  | nil => exact Nat.le_refl _
  | cons task rest ih =>
    have h := ih (s.wake task)
    have hw := s.length_wake task
    rw [List.foldl_cons, List.length_cons]
    omega

/-- How many tasks the end of a client's scope would rouse. -/
def alarm (id : ClientId) : Nat := (s.roused id).length

/-- The end of a scope rouses the calls, the agent and the inbound loop. -/
theorem alarm_le (id : ClientId) : s.alarm id ≤ (s.client id).calls.length + 2 := by
  have hslot : (s.client id).scope.slot.toList.length ≤ 1 := by
    cases (s.client id).scope.slot <;> simp
  have hcalls : ∀ p : Call → Bool,
      ((s.client id).calls.filter p).length ≤ (s.client id).calls.length :=
    fun p => List.length_filter_le p _
  unfold alarm roused
  cases hc : (s.client id).scope.current with
  | none =>
    simp only [hc, List.nil_append, List.length_map]
    omega
  | some token =>
    simp only [hc, List.length_append, List.length_map]
    have h := hcalls fun call => decide (call.wait.token? = some token)
    omega

variable {s} in
/-- Nothing is left to rouse in a client without a scope. -/
theorem alarm_of_ended {id : ClientId} (hc : (s.client id).scope.current = none)
    (hs : (s.client id).scope.slot = none) : s.alarm id = 0 := by
  unfold alarm roused
  simp [hc, hs]

variable {s} in
/-- Whom it rouses is told by the scope and the calls. -/
theorem alarm_congr {t : System} {id : ClientId}
    (hs : (t.client id).scope = (s.client id).scope)
    (hc : (t.client id).calls = (s.client id).calls) : t.alarm id = s.alarm id := by
  simp only [alarm, roused, hs, hc]

/-- One client has something done that leaves no more work, gets `spent` of it done, and makes at most
`woken` tasks runnable, those included that the end of its scope still can rouse. -/
structure Costs (s t : System) (id : ClientId) (spent woken : Nat) : Prop where
  work : t.work + spent ≤ s.work
  ready : t.ready.length + t.alarm id ≤ s.ready.length + s.alarm id + woken

variable {s} {t u : System} {id : ClientId}

/-- No change costs nothing. -/
theorem Costs.refl (s : System) (id : ClientId) : Costs s s id 0 0 :=
  ⟨Nat.le_refl _, Nat.le_refl _⟩

/-- Costs add up. -/
theorem Costs.trans {k l m n : Nat} (h : Costs s t id k m) (h' : Costs t u id l n) :
    Costs s u id (k + l) (m + n) := by
  obtain ⟨hw, hr⟩ := h
  obtain ⟨hw', hr'⟩ := h'
  exact ⟨by omega, by omega⟩

/-! ### The ends of scopes and calls -/

/-- The end of a scope leaves as much work. -/
theorem work_endScope (s : System) (id : ClientId) (ended : Scope StreamId) :
    (s.endScope id ended).work = s.work := by
  have hc := s.work_updateClient id fun c => { c with scope := ended, arbiter := c.arbiter.reset }
  have hw : (s.updateClient id fun c =>
      { c with scope := ended, arbiter := c.arbiter.reset }).work = s.work :=
    Nat.add_right_cancel hc
  rw [endScope_eq]
  unfold work at hw ⊢
  cases hs : (s.client id).scope.slot with
  | none => exact hw
  | some st =>
    have hst := s.work_updateStream st fun t => { t with uplink := t.uplink.dropSender }
    have hu : (s.updateStream st fun t => { t with uplink := t.uplink.dropSender }).work = s.work :=
      Nat.add_right_cancel hst
    unfold work at hu
    dsimp only [updateClient, updateStream] at hw hu ⊢
    omega

/-- The end of a scope makes at most those runnable that it rouses. -/
theorem length_endScope (s : System) (id : ClientId) (ended : Scope StreamId) :
    (s.endScope id ended).ready.length ≤ s.ready.length + s.alarm id := by
  rw [endScope_eq]
  exact s.length_foldl_wake (s.roused id)

/-- The end of a scope rouses what it can rouse, and no more. -/
theorem costs_endScope {ended : Scope StreamId} (hc : ended.current = none)
    (hs : ended.slot = none) : Costs s (s.endScope id ended) id 0 0 := by
  have ha : (s.endScope id ended).alarm id = 0 := by
    refine alarm_of_ended ?_ ?_
    · rw [client_endScope, if_pos rfl]
      exact hc
    · rw [client_endScope, if_pos rfl]
      exact hs
  have hl := s.length_endScope id ended
  refine ⟨Nat.le_of_eq (work_endScope s id ended), ?_⟩
  omega

/-- No call ends with its scope: it is woken to find out. -/
theorem calls_endScope (s : System) (id : ClientId) (ended : Scope StreamId) :
    ((s.endScope id ended).client id).calls = (s.client id).calls := by
  rw [client_endScope, if_pos rfl]

/-- A close costs nothing beyond what it rouses. -/
theorem costs_closeSession (s : System) (id : ClientId) :
    Costs s (s.closeSession id) id 0 0 := by
  have he : Costs s (s.endScope id (s.client id).scope.close.2) id 0 0 :=
    costs_endScope (Scope.current_close _) (Scope.slot_close _)
  rw [closeSession_eq]
  split
  · exact ⟨he.work, he.ready⟩
  · exact he

/-- Nor does a failure, and the calls stay. -/
theorem costs_failSession (s : System) (id : ClientId) (token : Token) :
    Costs s (s.failSession id token) id 0 0 ∧
      ((s.failSession id token).client id).calls = (s.client id).calls := by
  by_cases ht : (s.client id).scope.current = some token
  · rw [failSession_eq ht]
    exact ⟨costs_endScope rfl rfl, calls_endScope s id _⟩
  · rw [failSession_eq_self ht]
    exact ⟨.refl s id, rfl⟩

/-- Nor does a report. -/
theorem costs_report (s : System) (id : ClientId) (operation : Operation) (failure : Failure) :
    Costs s (s.report id operation failure).1 id 0 0 ∧
      ((s.report id operation failure).1.client id).calls = (s.client id).calls := by
  have self : Costs s s id 0 0 ∧ (s.client id).calls = (s.client id).calls := ⟨.refl s id, rfl⟩
  cases failure with
  | notOpen => exact self
  | cancelled => exact self
  | timedOut limit => exact self
  | refused status token =>
    unfold report
    dsimp only
    split
    · exact ⟨⟨Nat.le_refl _, Nat.le_refl _⟩, rfl⟩
    · obtain ⟨h, hc⟩ := costs_failSession s id token
      exact ⟨⟨h.work, h.ready⟩, hc⟩
    · exact self

/-- Nor does letting go of a client. -/
theorem costs_release (s : System) (id : ClientId) : Costs s (s.release id) id 0 0 := by
  unfold release
  split
  · exact .refl s id
  · exact costs_closeSession s id

/-- Leaving the line wakes at most the next one in it. -/
theorem costs_leaveLine (s : System) (id : CallId) :
    Costs s (s.leaveLine id) id.client 0 1 ∧
      ((s.leaveLine id).client id.client).calls = (s.client id.client).calls := by
  have hc : ((s.updateClient id.client fun c =>
      { c with turns := (s.client id.client).turns.erase id.serial }).client id.client).calls =
        (s.client id.client).calls := by rw [client_updateClient_self]
  have ha : (s.updateClient id.client fun c =>
      { c with turns := (s.client id.client).turns.erase id.serial }).alarm id.client =
        s.alarm id.client := alarm_congr (by rw [client_updateClient_self]) hc
  have hu : Costs s (s.updateClient id.client fun c =>
      { c with turns := (s.client id.client).turns.erase id.serial }) id.client 0 0 := by
    have hw := s.work_updateClient id.client fun c =>
      { c with turns := (s.client id.client).turns.erase id.serial }
    refine ⟨Nat.le_of_eq (Nat.add_right_cancel hw), Nat.le_of_eq ?_⟩
    rw [ha]
    rfl
  unfold leaveLine
  dsimp only
  -- Whoever is first now is woken: this costs one runnable task and no work.
  generalize (s.updateClient id.client fun c =>
    { c with turns := (s.client id.client).turns.erase id.serial }) = u at hu hc
  have idle : Costs s u id.client 0 1 := ⟨hu.work, Nat.le_succ_of_le hu.ready⟩
  split
  · split
    · next next _ =>
      refine ⟨⟨?_, ?_⟩, ?_⟩
      · rw [work_wake]
        exact hu.work
      · have hl := u.length_wake (.resume ⟨id.client, next⟩)
        have hr := hu.ready
        have ha' : (u.wake (.resume ⟨id.client, next⟩)).alarm id.client = u.alarm id.client :=
          alarm_congr (by rw [client_wake]) (by rw [client_wake])
        omega
      · rw [client_wake]
        exact hc
    · exact ⟨idle, hc⟩
  · exact ⟨idle, hc⟩

/-- Some of the calls weigh no more than all of them. -/
theorem total_filter_le (calls : List Call) (p : Call → Bool) :
    total ((calls.filter p).map fun c => Wait.weight c.wait) ≤
      total (calls.map fun c => Wait.weight c.wait) := by
  induction calls with
  | nil => exact Nat.le_refl _
  | cons c rest ih =>
    rw [List.filter_cons]
    split <;> simp only [List.map_cons, total] <;> omega

/-- A call that is no longer pending takes its share of the work away. -/
theorem total_filter {call : Call} {calls : List Call} (hm : call ∈ calls) (p : Call → Bool)
    (hp : p call = false) :
    total ((calls.filter p).map fun c => Wait.weight c.wait) + Wait.weight call.wait ≤
      total (calls.map fun c => Wait.weight c.wait) := by
  induction calls with
  | nil => cases hm
  | cons c rest ih =>
    rw [List.filter_cons]
    rcases List.mem_cons.mp hm with rfl | hm
    · rw [if_neg (by simp [hp]), List.map_cons, total]
      have h := total_filter_le rest p
      omega
    · have h := ih hm
      split <;> simp only [List.map_cons, total] <;> omega

/-- A call that is no longer pending. -/
theorem costs_forget {id : CallId} {call : Call} (hm : call ∈ (s.client id.client).calls)
    (hs : call.serial = id.serial) :
    Costs s (s.updateClient id.client fun c =>
      { c with calls := c.calls.filter fun call => decide (call.serial ≠ id.serial) })
      id.client (Wait.weight call.wait) 0 := by
  have hw := s.work_updateClient id.client fun c =>
    { c with calls := c.calls.filter fun call => decide (call.serial ≠ id.serial) }
  have ht := total_filter hm (fun call => decide (call.serial ≠ id.serial)) (by simp [hs])
  refine ⟨?_, ?_⟩
  · unfold Client.weight at hw
    dsimp only at hw
    omega
  · have ha : (s.updateClient id.client fun c =>
        { c with calls := c.calls.filter fun call => decide (call.serial ≠ id.serial) }).alarm
          id.client ≤ s.alarm id.client := by
      simp only [alarm, roused, client_updateClient_self]
      cases (s.client id.client).scope.current with
      | none => exact Nat.le_refl _
      | some token =>
        simp only [List.length_append, List.length_map]
        -- the calls that are left are fewer, and so are those that would be roused
        have hsub : ((s.client id.client).calls.filter fun c =>
            decide (c.serial ≠ id.serial)).Sublist (s.client id.client).calls := List.filter_sublist
        have hle := (hsub.filter fun c => decide (c.wait.token? = some token)).length_le
        omega
    rw [ready_updateClient]
    omega

/-- A pending call ends. -/
theorem costs_retire {id : CallId} {call : Call} (hm : call ∈ (s.client id.client).calls)
    (hs : call.serial = id.serial) (kind : CallKind) :
    Costs s (s.retire id kind) id.client (Wait.weight call.wait) 1 := by
  obtain ⟨hl, hc⟩ := costs_leaveLine s id
  have hf : Costs (s.leaveLine id) _ id.client (Wait.weight call.wait) 0 :=
    costs_forget (hc ▸ hm) hs
  have ht : Costs s { ((s.leaveLine id).updateClient id.client fun c =>
      { c with calls := c.calls.filter fun call => decide (call.serial ≠ id.serial) }) with
      timers := (s.leaveLine id).timers.filter fun t => decide (t.call ≠ id) } id.client
        (Wait.weight call.wait) 1 := by
    have h := hl.trans hf
    rw [Nat.zero_add, Nat.add_zero] at h
    exact ⟨h.work, h.ready⟩
  cases kind with
  | request => exact ht.trans (costs_release _ id.client)
  | next => exact ht

/-- A call that ends takes its weight along, and wakes at most one other. -/
theorem costs_told {id : CallId} {call : Call} (hm : call ∈ (s.client id.client).calls)
    (hs : call.serial = id.serial) (f : Finished) (kind : CallKind) :
    Costs s ((s.record f).retire id kind) id.client (Wait.weight call.wait) 1 := by
  have h := costs_retire (s := s.record f) hm hs kind
  exact ⟨h.work, h.ready⟩

/-- A pending call fails. -/
theorem costs_failCall {id : CallId} {call : Call} (hm : call ∈ (s.client id.client).calls)
    (hs : call.serial = id.serial) (operation : Operation) (token : Token) (failure : Failure) :
    Costs s (s.failCall id operation token failure) id.client (Wait.weight call.wait) 1 := by
  obtain ⟨hr, hc⟩ := costs_report s id.client operation failure
  unfold failCall
  dsimp only
  generalize s.report id.client operation failure = r at hr hc
  rw [← hc] at hm
  split
  · obtain ⟨hf, hc'⟩ := costs_failSession r.1 id.client token
    rw [← hc'] at hm
    have h := (hr.trans hf).trans (costs_told hm hs ⟨id, .failed r.2, none⟩ .request)
    rwa [Nat.zero_add, Nat.zero_add] at h
  · have h := hr.trans (costs_told hm hs ⟨id, .failed r.2, none⟩ .request)
    rwa [Nat.zero_add, Nat.zero_add] at h

/-- No wait weighs less than the one that all calls with a number come to wait for. -/
theorem total_renew_le {wait : Wait} (hw : Wait.weight wait = 1) (n : Nat) (calls : List Call) :
    total ((calls.map fun c => if c.serial = n then { c with wait } else c).map
        fun c => Wait.weight c.wait) ≤ total (calls.map fun c => Wait.weight c.wait) := by
  induction calls with
  | nil => exact Nat.le_refl _
  | cons c rest ih =>
    have hone := one_le_weight c.wait
    simp only [List.map_cons, total]
    split
    · dsimp only
      omega
    · omega

/-- The share of one such call is traded for the new one. -/
theorem total_renew {wait : Wait} (hw : Wait.weight wait = 1) {call : Call} {calls : List Call}
    (hm : call ∈ calls) :
    total ((calls.map fun c => if c.serial = call.serial then { c with wait } else c).map
        fun c => Wait.weight c.wait) + Wait.weight call.wait ≤
      total (calls.map fun c => Wait.weight c.wait) + 1 := by
  induction calls with
  | nil => cases hm
  | cons c rest ih =>
    simp only [List.map_cons, total]
    rcases List.mem_cons.mp hm with rfl | hm
    · have h := total_renew_le hw call.serial rest
      rw [if_pos rfl]
      dsimp only
      omega
    · have h := ih hm
      have hone := one_le_weight c.wait
      split
      · dsimp only
        omega
      · omega

/-- A call that opened waits for an answer. -/
theorem work_suspend {id : CallId} {call : Call} (hm : call ∈ (s.client id.client).calls)
    (hs : call.serial = id.serial) (kind : CallKind) (wait : Wait) (hw : Wait.weight wait = 1) :
    (s.suspend id kind wait).work + Wait.weight call.wait ≤ s.work + 1 := by
  have h := total_renew hw hm
  rw [hs] at h
  unfold suspend
  have hu := s.work_updateClient id.client fun c =>
    if c.calls.any fun call => decide (call.serial = id.serial) then
      { c with calls := c.calls.map fun call =>
          if call.serial = id.serial then { call with wait } else call }
    else { c with calls := c.calls ++ [⟨id.serial, kind, wait⟩] }
  have hany : ((s.client id.client).calls.any fun call => decide (call.serial = id.serial)) = true :=
    List.any_eq_true.mpr ⟨call, hm, by simp [hs]⟩
  simp only [hany, if_true] at hu
  unfold Client.weight at hu
  dsimp only at hu
  omega

/-! ### Setting up a session -/

/-- A switch weighs by its scripted streams only. -/
theorem work_of_switch {n : SwitchName} {f : Switch → Switch}
    (hf : (f (s.switch n)).scriptedStreams = (s.switch n).scriptedStreams) :
    (s.updateSwitch n f).work = s.work := by
  have h := s.work_updateSwitch n f
  unfold Switch.weight at h
  rw [hf] at h
  exact Nat.add_right_cancel h

/-- A new stream adds what it weighs. -/
theorem work_addStream (s : System) (n : SwitchName) (stream : Stream) :
    (s.addStream n stream).1.work ≤ s.work + Stream.weight stream := by
  have hst := s.work_updateStream ⟨n, (s.switch n).streamCount⟩ fun _ => stream
  have hsw : (s.addStream n stream).1.work =
      (s.updateStream ⟨n, (s.switch n).streamCount⟩ fun _ => stream).work := work_of_switch rfl
  omega

/-- Letting go of a stream leaves as much work. -/
theorem work_detach (s : System) (n : SwitchName) : (s.detach n).work = s.work := by
  unfold detach
  split
  · rfl
  · next serial _ =>
    rw [work_wake, work_of_switch rfl]
    exact Nat.add_right_cancel (s.work_updateStream ⟨n, serial⟩ fun t =>
      { t with downlink := t.downlink.dropSender })

/-- At most the inbound loop of that stream is woken. -/
theorem length_detach (s : System) (n : SwitchName) :
    (s.detach n).ready.length ≤ s.ready.length + 1 := by
  unfold detach
  split
  · exact Nat.le_succ _
  · exact length_wake _ _

/-- A new stream is one more to read, and its reading and the end of the one before are runnable. -/
theorem connect_bounds (s : System) (n : SwitchName) (capacity : Option Nat) :
    (s.connect n capacity).1.work ≤ s.work + 1 ∧
      (s.connect n capacity).1.ready.length ≤ s.ready.length + 2 := by
  have hw := work_addStream (s.detach n) n ⟨{ capacity }, {}, true, none⟩
  rw [work_detach] at hw
  have hl := length_detach s n
  constructor
  · show (wake _ _).work ≤ _
    rw [work_wake, work_of_switch rfl]
    exact hw
  · show (wake _ _).ready.length ≤ _
    refine Nat.le_trans (length_wake _ _) ?_
    show (s.detach n).ready.length + 1 ≤ _
    omega

/-- A call for a stream leaves little to do and wakes two tasks at most. -/
theorem openStream_bounds (s : System) (n : SwitchName) (capacity : Option Nat) :
    (s.openStream n capacity).1.work ≤ s.work + 1 ∧
      (s.openStream n capacity).1.ready.length ≤ s.ready.length + 2 := by
  unfold openStream
  split
  · unfold attachStream
    dsimp only
    generalize ((s.switch n).agent.enter .streamChannel).1 = agent
    have hu : (s.updateSwitch n fun w => { w with agent }).work = s.work := work_of_switch rfl
    have same : (s.updateSwitch n fun w => { w with agent }).work ≤ s.work + 1 :=
      hu ▸ Nat.le_succ s.work
    split
    · exact ⟨same, Nat.le_add_right _ _⟩
    · exact ⟨same, Nat.le_add_right _ _⟩
    · have h := connect_bounds (s.updateSwitch n fun w => { w with agent }) n capacity
      rw [hu] at h
      exact h
  · next script rest hs =>
    -- what a script still has in it is then on the stream
    have hu := s.work_updateSwitch n fun w => { w with scriptedStreams := rest }
    have ha := work_addStream (s.updateSwitch n fun w => { w with scriptedStreams := rest }) n
      (scriptedStream capacity script)
    simp only [Switch.weight, hs, List.map_cons, total] at hu
    have hv : Stream.weight (scriptedStream capacity script) = 2 * script.frames.length := by
      simp [Stream.weight, scriptedStream]
    refine ⟨?_, Nat.le_add_right _ _⟩
    show ((s.updateSwitch n fun w => { w with scriptedStreams := rest }).addStream n
      (scriptedStream capacity script)).1.work ≤ _
    omega

/-- A session that opens leaves its inbound loop to be run, and wakes it. -/
theorem goLive_bounds (s : System) (id : ClientId) (token : Token) (afterFailure : Bool)
    (activated : Scope StreamId) (st : StreamId) :
    (s.goLive id token afterFailure activated st).work ≤ s.work + 1 ∧
      (s.goLive id token afterFailure activated st).ready.length ≤ s.ready.length + 1 := by
  have hc : (s.updateClient id fun c => { c with scope := activated }).work = s.work :=
    Nat.add_right_cancel (s.work_updateClient id fun c => { c with scope := activated })
  generalize hp : (s.updateClient id fun c => { c with scope := activated }).post
    (if afterFailure then .channelReconnected (s.client id).key.device
      else .channelOpen (s.client id).key.device) = u
  have hu : u.work = s.work := by
    rw [← hp, work_post, hc]
  have hr : u.ready = s.ready := by
    rw [← hp]
    rfl
  have hst := u.work_updateStream st fun t => { t with listener := some (id, token) }
  have he : s.goLive id token afterFailure activated st =
      (u.updateStream st fun t => { t with listener := some (id, token) }).wake (.listen st) := by
    rw [← hp]
    rfl
  have hl := length_wake (u.updateStream st fun t => { t with listener := some (id, token) })
    (.listen st)
  rw [ready_updateStream, hr] at hl
  rw [he]
  refine ⟨?_, hl⟩
  rw [work_wake]
  simp only [Stream.weight, Option.isSome_some, Bool.toNat_true] at hst
  omega

/-- An inbound loop that ends takes the frames along. -/
theorem work_dropListener (s : System) (st : StreamId) :
    (s.dropListener st).work + (s.stream st).listener.isSome.toNat ≤ s.work := by
  have h := s.work_updateStream st fun t =>
    { t with downlink := t.downlink.dropReceiver, listener := none }
  simp only [Stream.weight, Pipe.dropReceiver, List.length_nil, Option.isSome_none,
    Bool.toNat_false] at h
  show (s.updateStream st fun t =>
    { t with downlink := t.downlink.dropReceiver, listener := none }).work + _ ≤ s.work
  simp only [Pipe.dropReceiver]
  omega

/-- A call whose turn it is leaves less work, and makes few tasks runnable: those of the new stream,
the reader of the one before, the next in line, and what the end of its scope can rouse. -/
theorem setUp_bounds {id : CallId} {call : Call} (hm : call ∈ (s.client id.client).calls)
    (hs : call.serial = id.serial) (hw : Wait.weight call.wait = 4) :
    (s.setUp id).work + 1 ≤ s.work ∧
      (s.setUp id).ready.length ≤ s.ready.length + (s.client id.client).calls.length + 6 := by
  -- a call that ends in `u`, which has come from `s`
  have ends : ∀ {u v : System}, (u.client id.client).calls = (s.client id.client).calls →
      u.work ≤ s.work + 2 → u.ready.length ≤ s.ready.length + 3 →
      (∀ h : call ∈ (u.client id.client).calls, Costs u v id.client (Wait.weight call.wait) 1) →
      v.work + 1 ≤ s.work ∧
        v.ready.length ≤ s.ready.length + (s.client id.client).calls.length + 6 := by
    intro u v hc huw hur hcost
    obtain ⟨hvw, hvr⟩ := hcost (hc ▸ hm)
    have ha := u.alarm_le id.client
    rw [hc] at ha
    constructor <;> omega
  unfold setUp
  dsimp only
  split
  · exact ends rfl (Nat.le_add_right _ _) (Nat.le_add_right _ _)
      fun h => costs_told h hs ⟨id, .returned .done, none⟩ .request
  · next token afterFailure begun _ =>
    have hb : (s.beginScope id.client begun).work = s.work :=
      Nat.add_right_cancel (s.work_updateClient id.client fun c =>
        { c with scope := begun, arbiter := c.arbiter.forget })
    have hbc : ((s.beginScope id.client begun).client id.client).calls =
        (s.client id.client).calls := by rw [client_beginScope, if_pos rfl]
    have hbounds := openStream_bounds (s.beginScope id.client begun) (s.client id.client).switch
      (some (max (s.client id.client).config.queueCapacity 1))
    have hclients := sameClients_openStream (s.beginScope id.client begun) (s.client id.client).switch
      (some (max (s.client id.client).config.queueCapacity 1))
    have hready : (s.beginScope id.client begun).ready = s.ready := rfl
    rw [hb, hready] at hbounds
    generalize (s.beginScope id.client begun).openStream (s.client id.client).switch
      (some (max (s.client id.client).config.queueCapacity 1)) = r at hbounds hclients
    obtain ⟨u, answer⟩ := r
    obtain ⟨huw, hur⟩ := hbounds
    have huc : (u.client id.client).calls = (s.client id.client).calls := by
      rw [hclients.client, hbc]
    dsimp only at huw hur ⊢
    unfold await
    cases answer with
    | refused status =>
      exact ends huc (by omega) (by omega) fun h => costs_failCall h hs _ _ _
    | silence =>
      dsimp only
      split
      · exact ends huc (by omega) (by omega) fun h => costs_failCall h hs _ _ _
      · have hsus := work_suspend (huc ▸ hm) hs .request (.answer .openStream token
          (s.client id.client).config.shortTimeout
          ⟨u.now.nanoseconds + (s.client id.client).config.shortTimeout.nanoseconds⟩) rfl
        refine ⟨?_, ?_⟩
        · rw [hw] at hsus
          show (u.suspend id .request _).work + 1 ≤ s.work
          omega
        · show u.ready.length ≤ _
          omega
    | reply st =>
      dsimp only
      unfold activateSession
      dsimp only
      split
      · have hd : (u.dropUplink st).work = u.work := by
          unfold dropUplink
          rw [work_wake]
          exact Nat.add_right_cancel (u.work_updateStream st fun t =>
            { t with uplink := t.uplink.dropSender })
        have hl := work_dropListener (u.dropUplink st) st
        have hr : ((u.dropUplink st).dropListener st).ready.length ≤ u.ready.length + 1 :=
          length_wake _ _
        have hc : (((u.dropUplink st).dropListener st).client id.client).calls =
            (s.client id.client).calls := by
          rw [((sameClients_dropUplink u st).trans (sameClients_dropListener _ st)).client]
          exact huc
        exact ends hc (by omega) (by omega) fun h => costs_told h hs ⟨id, _, none⟩ .request
      · next activated _ =>
        obtain ⟨hgw, hgr⟩ := goLive_bounds u id.client token afterFailure activated st
        have hgc : ((u.goLive id.client token afterFailure activated st).client id.client).calls =
            (s.client id.client).calls := by
          rw [client_goLive, if_pos rfl]
          exact huc
        exact ends hgc (by omega) (by omega) fun h => costs_told h hs ⟨id, .returned .done, none⟩ .request

/-! ### One step -/

/-- A pending call that is found is among the calls of its client. -/
theorem mem_of_call? {id : CallId} {call : Call} (h : s.call? id = some call) :
    call ∈ (s.client id.client).calls ∧ call.serial = id.serial :=
  ⟨List.mem_of_find?_eq_some h, by simpa using List.find?_some h⟩

/-- A waiting call goes on waiting, or gets something done. -/
theorem resume_progress (s : System) (id : CallId) :
    s.resume id = s ∨
      (s.resume id).work + 1 ≤ s.work ∧ (s.resume id).ready.length ≤ s.ready.length + s.work + 5 := by
  -- what a call costs that ends
  have ends : ∀ {call : Call} {t : System}, call ∈ (s.client id.client).calls →
      Costs s t id.client (Wait.weight call.wait) 1 →
      t.work + 1 ≤ s.work ∧ t.ready.length ≤ s.ready.length + s.work + 5 := by
    intro call t hm hc
    obtain ⟨hw, hr⟩ := hc
    have hone := one_le_weight call.wait
    have ha := s.alarm_le id.client
    have hl := Nat.le_trans (length_le_weight (s.client id.client)) (s.weight_le_work id.client)
    constructor <;> omega
  unfold resume
  dsimp only
  split
  · exact .inl rfl
  · next call h =>
    obtain ⟨hm, hs⟩ := mem_of_call? h
    split
    · next hw =>
      split
      · have hb := setUp_bounds hm hs (by rw [hw]; rfl)
        have hl := length_lt_weight hm
        have hc := s.weight_le_work id.client
        rw [hw, show Wait.weight .turn = 4 from rfl] at hl
        refine .inr ⟨hb.1, ?_⟩
        omega
      · exact .inl rfl
    · next operation token limit deadline hw =>
      split
      · exact .inr (ends hm (costs_failCall hm hs _ _ _))
      · split
        · exact .inr (ends hm (costs_failCall hm hs _ _ _))
        · exact .inl rfl
    · next token hw =>
      split
      · unfold report
        dsimp only
        split
        · exact .inr (ends hm (costs_told hm hs ⟨id, _, none⟩ .request))
        · exact .inr (ends hm (costs_told hm hs ⟨id, _, some _⟩ .next))
      · exact .inl rfl

/-- A frame on its way down is work for its listener, who is woken. -/
theorem pushFrame_bounds (s : System) (n : SwitchName) (frame : Arrival StreamResponse) :
    (s.pushFrame n frame).1.work ≤ s.work + 2 ∧
      (s.pushFrame n frame).1.ready.length ≤ s.ready.length + 1 := by
  unfold pushFrame
  split
  · exact ⟨Nat.le_add_right _ _, Nat.le_succ _⟩
  · next serial _ =>
    split
    · exact ⟨Nat.le_add_right _ _, Nat.le_succ _⟩
    · next downlink hd =>
      obtain ⟨-, -, he⟩ := Pipe.send_eq_ok.mp hd
      have hw := s.work_updateStream ⟨n, serial⟩ fun t => { t with downlink }
      simp only [Stream.weight, he, List.length_append, List.length_singleton] at hw
      refine ⟨?_, length_wake _ _⟩
      rw [work_wake, he]
      omega

/-- The agent answers a frame with one frame at most. -/
theorem serveFrame_bounds (s : System) (n : SwitchName) (frame : StreamRequest) :
    (s.serveFrame n frame).work ≤ s.work + 2 ∧
      (s.serveFrame n frame).ready.length ≤ s.ready.length + 1 := by
  have agent : ∀ agent, (s.updateSwitch n fun w => { w with agent }).work = s.work :=
    fun _ => work_of_switch rfl
  cases frame with
  | packet packet =>
    refine ⟨?_, Nat.le_succ _⟩
    rw [serveFrame_packet, work_of_switch rfl]
    exact Nat.le_add_right _ _
  | arbitration claim =>
    rw [serveFrame_arbitration]
    split
    · exact ⟨by rw [agent]; exact Nat.le_add_right _ _, Nat.le_succ _⟩
    · next ack _ =>
      have h := pushFrame_bounds (s.updateSwitch n fun w =>
        { w with agent := ((s.switch n).agent.arbitrate claim).1 }) n (.item (.arbitration ack))
      rw [agent] at h
      exact h

/-- What one step of a task leaves: one runnable task less, or less work and not many more. -/
def Progress (s t : System) : Prop :=
  t.work = s.work ∧ t.ready.length + 1 ≤ s.ready.length ∨
    t.work + 1 ≤ s.work ∧ t.ready.length ≤ s.ready.length + s.work + 4

/-- Taking a task off the queue makes it shorter by one. -/
theorem length_dequeue (hr : s.ready ≠ []) : s.dequeue.ready.length + 1 = s.ready.length := by
  show s.ready.tail.length + 1 = _
  cases h : s.ready with
  | nil => exact absurd h hr
  | cons task rest => rfl

/-- A task that has nothing to do leaves the queue. -/
theorem progress_dequeue (hr : s.ready ≠ []) : Progress s s.dequeue :=
  .inl ⟨rfl, Nat.le_of_eq (length_dequeue hr)⟩

/-- A step of an agent makes progress. -/
theorem serveStep_progress (hr : s.ready ≠ []) (st : StreamId) : Progress s (s.serveStep st) := by
  unfold serveStep
  dsimp only
  split
  · next hv =>
    split
    · next frame uplink hu =>
      -- three for a frame of the client, and two for the answer
      obtain ⟨hf, he⟩ := Pipe.receive_eq_frame.mp hu
      have hw := s.work_updateStream st fun t => { t with uplink }
      simp only [Stream.weight, hf, List.length_cons] at hw
      obtain ⟨hsw, hsr⟩ := serveFrame_bounds (s.updateStream st fun t => { t with uplink }) st.switch
        frame
      rw [ready_updateStream] at hsr
      exact .inr ⟨by omega, by omega⟩
    · exact progress_dequeue hr
    · next hu =>
      obtain ⟨hf, -⟩ := Pipe.receive_eq_ended.mp hu
      have hw := s.dequeue.work_updateStream st fun t =>
        { t with uplink := t.uplink.dropReceiver, served := false }
      have hq : s.dequeue.stream st = s.stream st := rfl
      simp only [Stream.weight, Pipe.dropReceiver, hq, hf, hv, List.length_nil, Bool.toNat_true,
        Bool.toNat_false] at hw
      have hl := length_dequeue hr
      have hd : s.dequeue.work = s.work := rfl
      refine .inr ⟨?_, ?_⟩
      · simp only [Pipe.dropReceiver]
        omega
      · rw [ready_updateStream]
        omega
  · exact progress_dequeue hr

/-- A failure ends no inbound loop by itself. -/
theorem listener_failSession (s : System) (id : ClientId) (token : Token) (st : StreamId) :
    ((s.failSession id token).stream st).listener = (s.stream st).listener := by
  by_cases ht : (s.client id).scope.current = some token
  · rw [failSession_eq ht, stream_endScope]
    split <;> rfl
  · rw [failSession_eq_self ht]

/-- Nor does a report. -/
theorem listener_report (s : System) (id : ClientId) (operation : Operation) (failure : Failure)
    (st : StreamId) :
    ((s.report id operation failure).1.stream st).listener = (s.stream st).listener := by
  cases failure with
  | refused status token =>
    unfold report
    dsimp only
    split
    · rfl
    · exact listener_failSession s id token st
    · rfl
  | _ => rfl

/-- A stream that is lost takes its inbound loop along, and what runs in its session is roused. -/
theorem loseStream_bounds (s : System) (st : StreamId) (id : ClientId) (token : Token)
    (status : Status) (hl : (s.stream st).listener.isSome = true) :
    (s.loseStream st id token status).work + 1 ≤ s.work ∧
      (s.loseStream st id token status).ready.length ≤ s.ready.length + s.alarm id := by
  obtain ⟨hr, -⟩ := costs_report s id .streamChannel (.refused status token)
  have hlist := listener_report s id .streamChannel (.refused status token) st
  have he : s.loseStream st id token status =
      ((s.report id .streamChannel (.refused status token)).1.failSession id token).dropListener st :=
    rfl
  rw [he]
  generalize (s.report id .streamChannel (.refused status token)).1 = u at hr hlist
  obtain ⟨hf, -⟩ := costs_failSession u id token
  obtain ⟨hw, hready⟩ := hr.trans hf
  have hd := work_dropListener (u.failSession id token) st
  rw [listener_failSession, hlist, hl, Bool.toNat_true] at hd
  refine ⟨by omega, ?_⟩
  show (u.failSession id token).ready.length ≤ _
  omega

/-- An inbound loop that takes a frame leaves less on its stream. -/
theorem listenFrame_bounds (s : System) (id : ClientId) (frame : StreamResponse) :
    (s.listenFrame id frame).work = s.work ∧ (s.listenFrame id frame).ready = s.ready := by
  cases frame with
  | arbitration update =>
    exact ⟨Nat.add_right_cancel (s.work_updateClient id fun c =>
      { c with arbiter := c.arbiter.acknowledge c.key.number update }), rfl⟩
  | error e => exact ⟨rfl, rfl⟩
  | packet wire =>
    unfold listenFrame
    dsimp only
    split
    · exact ⟨rfl, rfl⟩
    · split <;> exact ⟨rfl, rfl⟩

/-- A step of an inbound loop makes progress. -/
theorem listenStep_progress (hr : s.ready ≠ []) (st : StreamId) : Progress s (s.listenStep st) := by
  have hl := length_dequeue hr
  have hd : s.dequeue.work = s.work := rfl
  unfold listenStep
  dsimp only
  split
  · exact progress_dequeue hr
  · next id token hlist =>
    have hsome : (s.dequeue.stream st).listener.isSome = true := by
      show (s.stream st).listener.isSome = true
      rw [hlist]
      rfl
    -- Losing the stream may rouse the calls that wait, but the end of a listener pays for them.
    have lost : ∀ status, Progress s (s.dequeue.loseStream st id token status) := by
      intro status
      obtain ⟨hw, hready⟩ := loseStream_bounds s.dequeue st id token status hsome
      have ha := s.dequeue.alarm_le id
      have hn := Nat.le_trans (length_le_weight (s.dequeue.client id)) (s.dequeue.weight_le_work id)
      exact .inr ⟨by omega, by omega⟩
    split
    · have hw := work_dropListener s.dequeue st
      rw [hsome, Bool.toNat_true] at hw
      refine .inr ⟨by omega, ?_⟩
      show s.dequeue.ready.length ≤ _
      omega
    · split
      · next frame downlink hf =>
        obtain ⟨hf, -⟩ := Pipe.receive_eq_frame.mp hf
        have hw := s.work_updateStream st fun t => { t with downlink }
        simp only [Stream.weight, hf, List.length_cons] at hw
        obtain ⟨hlw, hlr⟩ := listenFrame_bounds (s.updateStream st fun t => { t with downlink }) id frame
        rw [ready_updateStream] at hlr
        exact .inr ⟨by omega, by rw [hlr]; omega⟩
      · exact lost _
      · exact progress_dequeue hr
      · exact lost _

/-- A step of the first runnable task is progress. -/
theorem poll_progress (hr : s.ready ≠ []) : Progress s s.poll := by
  unfold poll
  split
  · next h => exact absurd h hr
  · exact serveStep_progress hr _
  · exact listenStep_progress hr _
  · next call rest _ =>
    have hl := length_dequeue hr
    have hd : s.dequeue.work = s.work := rfl
    rcases resume_progress s.dequeue call with he | ⟨hw, hready⟩
    · rw [he]
      exact progress_dequeue hr
    · exact .inr ⟨by omega, by omega⟩

/-! ### All steps -/

/-- Progress lowers the bound on the steps that are left. -/
theorem Progress.enough_lt (h : Progress s t) : t.enough + 1 ≤ s.enough := by
  unfold enough
  rcases h with ⟨hw, hl⟩ | ⟨hw, hl⟩
  · rw [hw]
    omega
  · have hmul : t.work * (t.work + 5) ≤ t.work * (s.work + 5) := Nat.mul_le_mul_left _ (by omega)
    have hsucc : (t.work + 1) * (s.work + 5) ≤ s.work * (s.work + 5) := Nat.mul_le_mul_right _ hw
    rw [Nat.succ_mul] at hsucc
    omega

/-- Enough steps bring all tasks to rest. -/
theorem pollFor_ready (n : Nat) (h : s.enough ≤ n) : (pollFor n s).ready = [] := by
  induction n generalizing s with
  | zero =>
    show s.ready = []
    have hlen : s.ready.length = 0 := by
      unfold enough at h
      omega
    exact List.length_eq_zero_iff.mp hlen
  | succ n ih =>
    unfold pollFor
    split
    · next he => exact List.isEmpty_iff.mp he
    · next he =>
      have hr : s.ready ≠ [] := fun h => he (List.isEmpty_iff.mpr h)
      have hp := (poll_progress hr).enough_lt
      exact ih (by omega)

/-- When the tasks have run, none can run any more. -/
theorem settle_ready (s : System) : s.settle.ready = [] := pollFor_ready s.enough (Nat.le_refl _)

end System

end P4Control
