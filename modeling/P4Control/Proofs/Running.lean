import P4Control.Proofs.Attendance

namespace P4Control

/-!
# The call that is running

A call is made, gets in line, begins a scope, waits and runs again, until it ends.  None of this
makes the system overlook a call that waits.

* `System.Astray` — the scopes without anyone who sets up their stream, but for the running call.
* `Attended.newCall`, `Attended.takeUp`, `Attended.dequeue` — a call starts to run.
* `Attended.enterLine`, `Attended.beginScope`, `Attended.setTimer` — what it does.
* `Attended.suspend`, `Attended.putBack` — it waits.
* `System.withdraw`, `Attended.withdraw` — it ends.
-/

namespace System

variable {s : System} {K : CallId} {stray : ClientId → Token → Prop} {own : Option Token}

/-! ### What a running call does -/

/-- The scopes without anyone who sets up their stream, if the running call is not counted: it may be
there to set up one of them. -/
def Astray (stray : ClientId → Token → Prop) (K : CallId) (own : Option Token) (id : ClientId)
    (token : Token) : Prop :=
  stray id token ∨ id = K.client ∧ own = some token

/-- Whoever is in line has been numbered. -/
theorem Attended.lt_made (h : s.Attended none stray) {id : ClientId} {n : Nat}
    (hn : n ∈ (s.client id).turns) : n < (s.client id).made := by
  obtain hb | ⟨call, hm, rfl, -⟩ := h.openers id n hn
  · cases hb
  · exact h.made id call hm

/-- A new call only takes a number of its client. -/
theorem client_newCall (s : System) (id id' : ClientId) :
    (s.newCall id).1.client id' =
      if id = id' then { s.client id with made := (s.client id).made + 1 } else s.client id' :=
  client_updateClient s id id' fun c => { c with made := c.made + 1 }

theorem client_newCall_self (s : System) (id : ClientId) :
    (s.newCall id).1.client id = { s.client id with made := (s.client id).made + 1 } :=
  (client_newCall s id id).trans (if_pos rfl)

/-- A new call is counted, and nothing else. -/
theorem newCall_parts (s : System) (id id' : ClientId) :
    ((s.newCall id).1.client id').calls = (s.client id').calls ∧
      ((s.newCall id).1.client id').turns = (s.client id').turns ∧
      ((s.newCall id).1.client id').scope = (s.client id').scope ∧
      ((s.newCall id).1.client id').config = (s.client id').config ∧
      ((s.newCall id).1.client id').switch = (s.client id').switch ∧
      (s.client id').made ≤ ((s.newCall id).1.client id').made := by
  rw [client_newCall]
  split
  · next he => exact he ▸ ⟨rfl, rfl, rfl, rfl, rfl, Nat.le_succ _⟩
  · exact ⟨rfl, rfl, rfl, rfl, rfl, Nat.le_refl _⟩

/-- A new call runs. -/
theorem Attended.newCall (h : s.Attended none stray) (id : ClientId) :
    (s.newCall id).1.Attended (some (s.newCall id).2) stray := by
  have parts := newCall_parts s id
  -- the new number is that of no pending call
  have other : ∀ id', ∀ call ∈ (s.client id').calls,
      some (s.newCall id).2 ≠ some (⟨id', call.serial⟩ : CallId) := by
    intro id' call hm he
    simp only [System.newCall, Option.some.injEq, CallId.mk.injEq] at he
    obtain ⟨rfl, he⟩ := he
    exact Nat.lt_irrefl _ (he ▸ h.made id call hm)
  refine ⟨fun id' => ?_, fun id' call hm => ?_, ?_, fun id' => ?_, fun id' n hn => ?_, h.sorted,
    fun timer hm => Nat.lt_of_lt_of_le (h.timers timer hm) (parts _).2.2.2.2.2, fun id' call hm _ => ?_,
    fun id' token hc ho => ?_⟩
  · rw [(parts id').1]
    exact h.serials id'
  · rw [(parts id').1] at hm
    exact Nat.lt_of_lt_of_le (h.made id' call hm) (parts id').2.2.2.2.2
  · rintro _ ⟨⟩
    rw [show (s.newCall id).2 = ⟨id, (s.client id).made⟩ from rfl, client_newCall_self]
    exact Nat.lt_succ_self _
  · rw [(parts id').2.1]
    exact h.queue id'
  · rw [(parts id').2.1] at hn
    obtain hb | hc := h.openers id' n hn
    · cases hb
    · rw [(parts id').1]
      exact .inr hc
  · rw [(parts id').1] at hm
    exact (h.tended id' call hm (by simp)).congr rfl (parts id').2.1
      (congrArg Scope.cancelled (parts id').2.2.1) (fun _ ht => ht) fun hr => hr
  · rw [(parts id').2.2.1] at hc ho
    rw [(parts id').1]
    obtain hst | ⟨call, hm, -, ht⟩ := h.settingUp id' token hc ho
    · exact .inl hst
    · exact .inr ⟨call, hm, other id' call hm, ht⟩

/-- The call gets in line to open the session. -/
def enterLine (s : System) (K : CallId) : System :=
  s.updateClient K.client fun c => { c with turns := c.turns ++ [K.serial] }

/-- A call that enters the line comes last. -/
theorem client_enterLine (s : System) (K : CallId) (id : ClientId) :
    (s.enterLine K).client id = if K.client = id then
      { s.client K.client with turns := (s.client K.client).turns ++ [K.serial] }
    else s.client id := client_updateClient s K.client id _

/-- The line is all that changes by that. -/
theorem enterLine_parts (s : System) (K : CallId) (id : ClientId) :
    ((s.enterLine K).client id).calls = (s.client id).calls ∧
      ((s.enterLine K).client id).made = (s.client id).made ∧
      ((s.enterLine K).client id).scope = (s.client id).scope := by
  rw [client_enterLine]
  split
  · next he => exact he ▸ ⟨rfl, rfl, rfl⟩
  · exact ⟨rfl, rfl, rfl⟩

/-- Getting in line makes nobody's turn pass. -/
theorem Attended.enterLine (h : s.Attended (some K) stray)
    (hn : K.serial ∉ (s.client K.client).turns) : (s.enterLine K).Attended (some K) stray := by
  have same := enterLine_parts s K
  refine ⟨fun id => ?_, fun id call hm => ?_, fun id hb => ?_, fun id => ?_, fun id n hm => ?_, h.sorted,
    fun timer hm => ?_, fun id call hm hb => ?_, fun id token hc ho => ?_⟩
  · rw [(same id).1]
    exact h.serials id
  · rw [(same id).1] at hm
    rw [(same id).2.1]
    exact h.made id call hm
  · rw [(same id.client).2.1]
    exact h.running id hb
  · rw [client_enterLine]
    split
    · exact List.nodup_append.mpr ⟨h.queue _, by simp, by
        intro n hm m hm' he
        rw [List.mem_singleton.mp hm'] at he
        exact hn (he ▸ hm)⟩
    · exact h.queue id
  · rw [(same id).1]
    rw [client_enterLine] at hm
    split at hm
    · next he =>
      subst he
      -- only the running call is new in line
      rcases List.mem_append.mp hm with hm | hm
      · exact h.openers _ n hm
      · exact .inl (by rw [List.mem_singleton.mp hm])
    · exact h.openers id n hm
  · rw [(same _).2.1]
    exact h.timers timer hm
  · rw [(same id).1] at hm
    refine (h.tended id call hm hb).mono rfl ?_ ?_ ?_ ?_ (fun _ ht => ht) fun hr => hr
    · dsimp only
      rw [client_enterLine]
      split
      · next he => exact fun hin => List.mem_append_left _ (he ▸ hin)
      · exact fun hin => hin
    · dsimp only
      rw [client_enterLine]
      split
      · next he =>
        intro hh
        rw [List.head?_append, he, hh]
        rfl
      · exact fun hh => hh
    · dsimp only
      rw [client_enterLine]
      split
      · next he =>
        intro hh
        rw [← he]
        cases ht : (s.client K.client).turns with
        | nil =>
          -- the line was empty, and the running call is not among those that wait
          rw [ht] at hh
          exact absurd (congrArg some (show K = ⟨id, call.serial⟩ by
            rw [← he, ← Option.some.inj hh])) hb
        | cons n rest =>
          rw [ht] at hh
          exact .inl hh
      · exact .inl
    · rw [(same id).2.2]
      exact fun _ _ => .inl
  · rw [(same id).2.2] at hc ho
    rw [(same id).1]
    exact h.settingUp id token hc ho

/-- The running call begins a scope and is there to set up its stream. -/
theorem Attended.beginScope (h : s.Attended (some K) stray) {token : Token} {afterFailure : Bool}
    {begun : Scope StreamId}
    (hb : (s.client K.client).scope.begin = some (token, afterFailure, begun)) :
    (s.beginScope K.client begun).Attended (some K) (Astray stray K (some token)) := by
  obtain ⟨-, htoken, -, hbegun⟩ := Scope.begin_eq_some hb
  have same : ∀ id,
      ((s.beginScope K.client begun).client id).calls = (s.client id).calls ∧
      ((s.beginScope K.client begun).client id).turns = (s.client id).turns ∧
      ((s.beginScope K.client begun).client id).made = (s.client id).made ∧
      ((s.beginScope K.client begun).client id).scope.cancelled = (s.client id).scope.cancelled := by
    intro id
    rw [client_beginScope]
    split
    · next he => exact he ▸ ⟨rfl, rfl, rfl, by rw [hbegun]⟩
    · exact ⟨rfl, rfl, rfl, rfl⟩
  refine ⟨fun id => ?_, fun id call hm => ?_, fun id hk => ?_, fun id => ?_, fun id n hm => ?_, h.sorted,
    fun timer hm => ?_, fun id call hm hk => ?_, fun id token' hc ho => ?_⟩
  · rw [(same id).1]
    exact h.serials id
  · rw [(same id).1] at hm
    rw [(same id).2.2.1]
    exact h.made id call hm
  · rw [(same id.client).2.2.1]
    exact h.running id hk
  · rw [(same id).2.1]
    exact h.queue id
  · rw [(same id).2.1] at hm
    rw [(same id).1]
    exact h.openers id n hm
  · rw [(same _).2.2.1]
    exact h.timers timer hm
  · rw [(same id).1] at hm
    exact (h.tended id call hm hk).congr rfl (same id).2.1 (same id).2.2.2 (fun _ ht => ht)
      fun hr => hr
  · rw [(same id).1]
    rw [client_beginScope] at hc ho
    split at hc
    · -- the scope that has just begun is the running call's own
      next he =>
      rw [show (_ : Client).scope.current = begun.current from rfl, hbegun] at hc
      exact .inl (.inr ⟨he.symm, by rw [htoken]; exact hc⟩)
    · next hne =>
      rw [if_neg hne] at ho
      exact (h.settingUp id token' hc ho).imp_left .inl

/-! ### Timers -/

/-- The timers after one is set are that one and the old ones. -/
theorem mem_insertTimer {timer other : Timer} {timers : List Timer} :
    other ∈ insertTimer timer timers ↔ other = timer ∨ other ∈ timers := by
  induction timers with
  | nil => simp [insertTimer]
  | cons t rest ih =>
    unfold insertTimer
    split
    · rw [List.mem_cons, ih, List.mem_cons]
      exact ⟨fun h => h.elim (.inr ∘ .inl) fun h => h.imp_right .inr,
        fun h => h.elim (.inr ∘ .inl) fun h => h.imp_right .inr⟩
    · simp

/-- Timers are kept soonest first. -/
theorem sorted_insertTimer {timers : List Timer} (timer : Timer)
    (h : timers.Pairwise fun t u => t.deadline.nanoseconds ≤ u.deadline.nanoseconds) :
    (insertTimer timer timers).Pairwise fun t u => t.deadline.nanoseconds ≤ u.deadline.nanoseconds := by
  induction timers with
  | nil => simp [insertTimer]
  | cons t rest ih =>
    obtain ⟨hfirst, hrest⟩ := List.pairwise_cons.mp h
    unfold insertTimer
    split
    · next hle =>
      refine List.pairwise_cons.mpr ⟨fun u hu => ?_, ih hrest⟩
      rcases mem_insertTimer.mp hu with rfl | hu
      · exact hle
      · exact hfirst u hu
    · next hgt =>
      refine List.pairwise_cons.mpr ⟨fun u hu => ?_, h⟩
      rcases List.mem_cons.mp hu with rfl | hu
      · omega
      · have := hfirst u hu
        omega

/-- A timer may be set for any call that has been made. -/
theorem Attended.setTimer {busy : Option CallId} (h : s.Attended busy stray) {timer : Timer}
    (hm : timer.call.serial < (s.client timer.call.client).made) :
    (s.setTimer timer).Attended busy stray :=
  { h with
    sorted := sorted_insertTimer timer h.sorted
    timers := by
      intro other ho
      rcases mem_insertTimer.mp ho with rfl | ho
      · exact hm
      · exact h.timers other ho
    tended := fun id call hc hb =>
      (h.tended id call hc hb).congr rfl rfl rfl (fun _ ht => mem_insertTimer.mpr (.inr ht))
        fun hr => hr }

/-! ### The running call waits -/

/-- Pending calls with the same number are the same. -/
theorem eq_of_serial {calls : List Call} (h : (calls.map (·.serial)).Nodup) {c d : Call}
    (hc : c ∈ calls) (hd : d ∈ calls) (he : c.serial = d.serial) : c = d := by
  induction calls with
  | nil => cases hc
  | cons first rest ih =>
    obtain ⟨hn, hrest⟩ := List.nodup_cons.mp h
    have absent : ∀ e ∈ rest, first.serial ≠ e.serial :=
      fun e hm he => hn (List.mem_map.mpr ⟨e, hm, he.symm⟩)
    rcases List.mem_cons.mp hc with rfl | hc'
    · rcases List.mem_cons.mp hd with rfl | hd'
      · rfl
      · exact absurd he (absent d hd')
    · rcases List.mem_cons.mp hd with rfl | hd'
      · exact absurd he.symm (absent c hc')
      · exact ih hrest hc' hd'

/-- Only calls that open the session are in line. -/
theorem Attended.opener (h : s.Attended none stray) {id : ClientId} {n : Nat}
    (hn : n ∈ (s.client id).turns) :
    ∃ call ∈ (s.client id).calls, call.serial = n ∧ call.wait.opens = true :=
  (h.openers id n hn).resolve_left (by simp)

/-- A pending call in line is one that opens the session. -/
theorem Attended.opens_of_mem_turns (h : s.Attended none stray) {id : ClientId} {call : Call}
    (hm : call ∈ (s.client id).calls) (hn : call.serial ∈ (s.client id).turns) :
    call.wait.opens = true := by
  obtain ⟨other, ho, hs, hopens⟩ := h.opener hn
  rwa [eq_of_serial (h.serials id) ho hm hs] at hopens

/-- The running call is one of those that wait, and is looked after like them. -/
theorem Attended.putBack (h : s.Attended (some K) (Astray stray K own)) {call : Call}
    (hm : call ∈ (s.client K.client).calls) (hs : call.serial = K.serial)
    (ha : s.Tends K call.wait)
    (hline : K.serial ∈ (s.client K.client).turns → call.wait.opens = true)
    (hown : ∀ token, own = some token → (s.client K.client).scope.current = some token →
      (s.client K.client).scope.isOpen = false → call.wait.settingUp? = some token) :
    s.Attended none stray := by
  refine ⟨h.serials, h.made, by simp, h.queue, fun id n hn => ?_, h.sorted, h.timers,
    fun id other ho _ => ?_, fun id token hc ho => ?_⟩
  · obtain hb | hc := h.openers id n hn
    · cases hb
      exact .inr ⟨call, hm, hs, hline hn⟩
    · exact .inr hc
  · by_cases hb : some K = some ⟨id, other.serial⟩
    · cases hb
      obtain rfl := eq_of_serial (h.serials id) ho hm hs.symm
      exact ha
    · exact h.tended id other ho hb
  · -- a scope that was the running call's own is now set up by a pending call
    obtain (hst | ⟨rfl, rfl⟩) | ⟨other, hother, -, ht⟩ := h.settingUp id token hc ho
    · exact .inl hst
    · exact .inr ⟨call, hm, by simp, hown token rfl hc ho⟩
    · exact .inr ⟨other, hother, by simp, ht⟩

/-- When a call is put aside, the others stay as they are. -/
theorem mem_calls_suspend {kind : CallKind} {wait : Wait} {id : ClientId} {call : Call}
    (hne : (⟨id, call.serial⟩ : CallId) ≠ K) :
    call ∈ ((s.suspend K kind wait).client id).calls ↔ call ∈ (s.client id).calls := by
  unfold suspend
  rw [client_updateClient]
  split
  · next he =>
    subst he
    have hs : call.serial ≠ K.serial := fun hs => hne (by rw [hs])
    split
    · simp only [List.mem_map]
      constructor
      · rintro ⟨old, ho, rfl⟩
        split at hs
        · next h => exact absurd h hs
        · next h => rwa [if_neg h]
      · exact fun hm => ⟨call, hm, if_neg hs⟩
    · rw [List.mem_append, List.mem_singleton]
      exact or_iff_left fun h => hs (by rw [h])
  · exact .rfl

/-- What the call waits for that has been put among the pending ones. -/
theorem wait_suspend (s : System) (K : CallId) (kind : CallKind) (wait : Wait) :
    (∃ call ∈ ((s.suspend K kind wait).client K.client).calls, call.serial = K.serial) ∧
      ∀ call ∈ ((s.suspend K kind wait).client K.client).calls, call.serial = K.serial →
        call.wait = wait := by
  unfold suspend
  rw [client_updateClient_self]
  split
  · next h =>
    obtain ⟨old, ho, hs⟩ := List.any_eq_true.mp h
    have hs' : old.serial = K.serial := by simpa using hs
    refine ⟨⟨{ old with wait }, List.mem_map.mpr ⟨old, ho, if_pos hs'⟩, hs'⟩, fun call hm hc => ?_⟩
    obtain ⟨other, -, rfl⟩ := List.mem_map.mp hm
    split at hc
    · next h => rw [if_pos h]
    · next h => exact absurd hc h
  · next h =>
    refine ⟨⟨⟨K.serial, kind, wait⟩, by simp, rfl⟩, fun call hm hc => ?_⟩
    rcases List.mem_append.mp hm with ho | hn
    · exact absurd (List.any_eq_true.mpr ⟨call, ho, by simpa using hc⟩) h
    · rw [List.mem_singleton.mp hn]

/-- It changes nothing about the line, the numbers and the scope. -/
theorem suspend_parts (kind : CallKind) (wait : Wait) (id : ClientId) :
    ((s.suspend K kind wait).client id).turns = (s.client id).turns ∧
      ((s.suspend K kind wait).client id).made = (s.client id).made ∧
      ((s.suspend K kind wait).client id).scope = (s.client id).scope := by
  unfold suspend
  rw [client_updateClient]
  split
  · next he =>
    subst he
    split <;> exact ⟨rfl, rfl, rfl⟩
  · exact ⟨rfl, rfl, rfl⟩

/-- It keeps the numbers of the pending calls distinct. -/
theorem serials_suspend {kind : CallKind} {wait : Wait} {id : ClientId}
    (h : ((s.client id).calls.map (·.serial)).Nodup) :
    (((s.suspend K kind wait).client id).calls.map (·.serial)).Nodup := by
  unfold suspend
  rw [client_updateClient]
  split
  · next he =>
    subst he
    split
    · have hs : ((fun call : Call => call.serial) ∘ fun call : Call =>
          if call.serial = K.serial then { call with wait } else call) = (·.serial) := by
        funext call
        simp only [Function.comp_apply]
        split <;> rfl
      rw [List.map_map, hs]
      exact h
    · next hn =>
      rw [List.map_append, List.nodup_append]
      refine ⟨h, by simp, fun n hm m hm' he => hn ?_⟩
      obtain ⟨call, hc, rfl⟩ := List.mem_map.mp hm
      rw [List.map_singleton, List.mem_singleton] at hm'
      exact List.any_eq_true.mpr ⟨call, hc, by simpa using he.trans hm'⟩
  · exact h

/-- The running call waits. -/
theorem Attended.suspend (h : s.Attended (some K) (Astray stray K own)) (kind : CallKind)
    {wait : Wait} (ha : s.Tends K wait)
    (hline : K.serial ∈ (s.client K.client).turns → wait.opens = true)
    (hown : ∀ token, own = some token → (s.client K.client).scope.current = some token →
      (s.client K.client).scope.isOpen = false → wait.settingUp? = some token) :
    (s.suspend K kind wait).Attended none stray := by
  obtain ⟨⟨call, hm, hs⟩, hw⟩ := wait_suspend s K kind wait
  have parts := suspend_parts (s := s) (K := K) kind wait
  have same : ∀ {id : ClientId} {other : Call}, some K ≠ some (⟨id, other.serial⟩ : CallId) →
      (other ∈ ((s.suspend K kind wait).client id).calls ↔ other ∈ (s.client id).calls) :=
    fun hne => mem_calls_suspend fun he => hne (congrArg some he.symm)
  have mono : ∀ {id : CallId} {w : Wait}, s.Tends id w → (s.suspend K kind wait).Tends id w :=
    fun ha => ha.congr rfl (parts _).1 (congrArg Scope.cancelled (parts _).2.2) (fun _ ht => ht)
      fun hr => hr
  -- among the pending calls, but still counted as running
  have running : (s.suspend K kind wait).Attended (some K) (Astray stray K own) := by
    refine ⟨fun id => serials_suspend (h.serials id), fun id other ho => ?_, fun id hb => ?_,
      fun id => ?_, fun id n hn => ?_, h.sorted, fun timer ht => ?_, fun id other ho hb => ?_,
      fun id token hc ho => ?_⟩
    · rw [(parts id).2.1]
      by_cases hb : some K = some ⟨id, other.serial⟩
      · cases hb
        exact h.running _ rfl
      · exact h.made id other ((same hb).mp ho)
    · rw [(parts _).2.1]
      exact h.running id hb
    · rw [(parts id).1]
      exact h.queue id
    · rw [(parts id).1] at hn
      obtain hb | ⟨other, ho, rfl, hopens⟩ := h.openers id n hn
      · exact .inl hb
      · by_cases hb : some K = some ⟨id, other.serial⟩
        · exact .inl hb
        · exact .inr ⟨other, (same hb).mpr ho, rfl, hopens⟩
    · rw [(parts _).2.1]
      exact h.timers timer ht
    · exact mono (h.tended id other ((same hb).mp ho) hb)
    · rw [(parts id).2.2] at hc ho
      obtain hst | ⟨other, hother, hb, ht⟩ := h.settingUp id token hc ho
      · exact .inl hst
      · exact .inr ⟨other, (same hb).mpr hother, hb, ht⟩
  refine running.putBack hm hs ?_ ?_ ?_
  · rw [hw call hm hs]
    exact mono ha
  · rw [(parts _).1, hw call hm hs]
    exact hline
  · rw [(parts _).2.2, hw call hm hs]
    exact hown

/-! ### The running call ends -/

/-- The call is taken out of the line, out of the pending calls and out of the timers. -/
def withdraw (s : System) (K : CallId) : System :=
  let s := (s.leaveLine K).updateClient K.client fun c =>
    { c with calls := c.calls.filter fun call => decide (call.serial ≠ K.serial) }
  { s with timers := s.timers.filter fun t => decide (t.call ≠ K) }

/-- A call that ends is withdrawn, and a request lets go of its client besides. -/
theorem retire_eq (s : System) (K : CallId) (kind : CallKind) :
    s.retire K kind = match kind with
      | .request => (s.withdraw K).release K.client
      | .next => s.withdraw K := rfl

/-- What a call lets go of when it ends overlooks no other call. -/
theorem heeds_retire (s : System) (K : CallId) (kind : CallKind) :
    Heeds (s.withdraw K) (s.retire K kind) := by
  rw [retire_eq]
  cases kind with
  | request => exact heeds_release K.client
  | next => exact .refl _

/-- Leaving the line changes the line only, and tells the next one. -/
theorem leaveLine_eq (s : System) (K : CallId) :
    s.leaveLine K =
      { s.updateClient K.client fun c => { c with turns := c.turns.erase K.serial } with
        ready := (s.leaveLine K).ready } := by
  unfold leaveLine
  dsimp only
  split
  · split
    · rw [wake_eq]
      rfl
    · rfl
  · rfl

/-- A call that leaves the front of the line wakes the next one. -/
theorem ready_leaveLine (s : System) (K : CallId) :
    (∀ task ∈ s.ready, task ∈ (s.leaveLine K).ready) ∧
      ∀ n, (s.client K.client).turns.head? = some K.serial →
        ((s.client K.client).turns.erase K.serial).head? = some n →
          .resume ⟨K.client, n⟩ ∈ (s.leaveLine K).ready := by
  unfold leaveLine
  dsimp only
  constructor
  · intro task hm
    split
    · split
      · exact (mem_ready_wake _).mpr (.inr hm)
      · exact hm
    · exact hm
  · intro n hh hn
    rw [if_pos hh, hn]
    exact (mem_ready_wake _).mpr (.inl rfl)

/-- A call that is withdrawn leaves the line and the pending calls of its client. -/
theorem client_withdraw (s : System) (K : CallId) (id : ClientId) :
    (s.withdraw K).client id =
      if K.client = id then
        { s.client K.client with
          turns := (s.client K.client).turns.erase K.serial
          calls := (s.client K.client).calls.filter fun call => decide (call.serial ≠ K.serial) }
      else s.client id := by
  have hl : ∀ id', (s.leaveLine K).client id' =
      (s.updateClient K.client fun c => { c with turns := c.turns.erase K.serial }).client id' := by
    intro id'
    rw [leaveLine_eq]
    rfl
  show ((s.leaveLine K).updateClient K.client fun c =>
    { c with calls := c.calls.filter fun call => decide (call.serial ≠ K.serial) }).client id = _
  rw [client_updateClient, hl, hl, client_updateClient_self, client_updateClient]
  split <;> rfl

/-- It changes nothing about the numbers and the scope, and nothing about other clients. -/
theorem withdraw_parts (s : System) (K : CallId) (id : ClientId) :
    ((s.withdraw K).client id).calls =
        (s.client id).calls.filter (fun call => decide ((⟨id, call.serial⟩ : CallId) ≠ K)) ∧
      ((s.withdraw K).client id).turns =
        (if K.client = id then (s.client id).turns.erase K.serial else (s.client id).turns) ∧
      ((s.withdraw K).client id).made = (s.client id).made ∧
      ((s.withdraw K).client id).scope = (s.client id).scope := by
  rw [client_withdraw]
  split
  · next he =>
    subst he
    refine ⟨List.filter_congr fun call _ => ?_, rfl, rfl, rfl⟩
    obtain ⟨client, serial⟩ := K
    simp
  · next hne =>
    refine ⟨(List.filter_eq_self.mpr fun call _ => ?_).symm, rfl, rfl, rfl⟩
    exact decide_eq_true fun he => hne (by rw [← he])

/-- A call that is not in line tells nobody when it leaves. -/
theorem ready_leaveLine_of_not_mem (h : K.serial ∉ (s.client K.client).turns) :
    (s.leaveLine K).ready = s.ready := by
  unfold leaveLine
  dsimp only
  rw [if_neg fun hh : (s.client K.client).turns.head? = some K.serial =>
    h (List.mem_of_mem_head? hh)]
  rfl

/-- What ends with a call: its place among those that wait, and its timers. -/
theorem withdraw_eq (s : System) (K : CallId) :
    s.withdraw K =
      { s with
        clients := (s.withdraw K).clients
        timers := s.timers.filter fun t => decide (t.call ≠ K)
        ready := (s.leaveLine K).ready } := by
  have h := leaveLine_eq s K
  generalize (s.leaveLine K).ready = ready at h ⊢
  unfold withdraw
  rw [h]
  rfl

/-- Its timers go with it. -/
theorem timers_withdraw (s : System) (K : CallId) :
    (s.withdraw K).timers = s.timers.filter fun t => decide (t.call ≠ K) := by
  rw [withdraw_eq]

/-- All other pending calls stay. -/
theorem mem_calls_withdraw {id : ClientId} {call : Call} :
    call ∈ ((s.withdraw K).client id).calls ↔
      call ∈ (s.client id).calls ∧ (⟨id, call.serial⟩ : CallId) ≠ K := by
  rw [(withdraw_parts s K id).1, List.mem_filter, decide_eq_true_eq]

/-- Whoever is first in line once a call has left it. -/
theorem head?_erase {turns : List Nat} {n m : Nat} (h : (turns.erase n).head? = some m) :
    turns.head? = some n ∨ turns.head? = some m := by
  cases turns with
  | nil => cases h
  | cons first rest =>
    by_cases he : first = n
    · exact .inl (by rw [he]; rfl)
    · rw [List.erase_cons_tail (by simpa using he)] at h
      exact .inr h

/-- The running call has ended. -/
theorem Attended.withdraw (h : s.Attended (some K) stray) : (s.withdraw K).Attended none stray := by
  have parts := withdraw_parts s K
  have turns : ∀ id n, n ∈ ((s.withdraw K).client id).turns ↔
      n ∈ (s.client id).turns ∧ (⟨id, n⟩ : CallId) ≠ K := by
    intro id n
    rw [(parts id).2.1]
    split
    · next he =>
      subst he
      rw [(h.queue _).mem_erase_iff]
      obtain ⟨client, serial⟩ := K
      simp [and_comm]
    · next hne =>
      exact (and_iff_left fun he => hne (by rw [← he])).symm
  refine ⟨fun id => ?_, fun id call hm => ?_, by simp, fun id => ?_, fun id n hn => ?_,
    timers_withdraw s K ▸ h.sorted.filter _, fun timer hm => ?_, fun id call hm _ => ?_,
    fun id token hc ho => ?_⟩
  · rw [(parts id).1]
    exact (h.serials id).sublist ((List.filter_sublist).map _)
  · rw [(parts id).2.2.1]
    exact h.made id call (mem_calls_withdraw.mp hm).1
  · rw [(parts id).2.1]
    split
    · exact (h.queue id).sublist List.erase_sublist
    · exact h.queue id
  · obtain ⟨hn, hne⟩ := (turns id n).mp hn
    obtain hb | ⟨call, hm, rfl, hopens⟩ := h.openers id n hn
    · exact absurd (Option.some.inj hb).symm hne
    · exact .inr ⟨call, mem_calls_withdraw.mpr ⟨hm, hne⟩, rfl, hopens⟩
  · rw [(parts _).2.2.1]
    rw [timers_withdraw] at hm
    exact h.timers timer (List.mem_filter.mp hm).1
  · obtain ⟨hm, hne⟩ := mem_calls_withdraw.mp hm
    refine (h.tended id call hm fun hb => hne (Option.some.inj hb).symm).mono ?_ ?_ ?_ ?_ ?_ ?_ ?_
    · rw [withdraw_eq]
    · exact fun hin => (turns _ _).mpr ⟨hin, hne⟩
    · dsimp only
      rw [(parts id).2.1]
      split
      · next he =>
        subst he
        intro hh
        cases ht : (s.client K.client).turns with
        | nil =>
          rw [ht] at hh
          cases hh
        | cons first rest =>
          rw [ht] at hh
          have hf : first = call.serial := Option.some.inj hh
          rw [List.erase_cons_tail (by
            rw [hf]
            simpa using fun he => hne (by rw [he]))]
          exact hh
      · exact fun hh => hh
    · dsimp only
      rw [(parts id).2.1]
      split
      · next he =>
        subst he
        intro hh
        -- whoever moves up to the front is told on the way
        rcases head?_erase hh with hfirst | hfirst
        · exact .inr (by rw [withdraw_eq]; exact (ready_leaveLine s K).2 _ hfirst hh)
        · exact .inl hfirst
      · exact .inl
    · dsimp only
      rw [(parts id).2.2.2]
      exact fun _ _ => .inl
    · intro deadline ht
      rw [timers_withdraw]
      exact List.mem_filter.mpr ⟨ht, decide_eq_true hne⟩
    · rw [withdraw_eq]
      exact (ready_leaveLine s K).1 _
  · rw [(parts id).2.2.2] at hc ho
    obtain hst | ⟨call, hm, hb, ht⟩ := h.settingUp id token hc ho
    · exact .inl hst
    · exact .inr ⟨call, mem_calls_withdraw.mpr ⟨hm, fun he => hb (congrArg some he.symm)⟩,
        by simp, ht⟩

/-! ### A waiting call runs again -/

/-- A waiting call runs again.  It is there to set up the stream it has been waiting for. -/
theorem Attended.takeUp (h : s.Attended none stray) {call : Call}
    (hm : call ∈ (s.client K.client).calls) (hs : call.serial = K.serial) :
    s.Attended (some K) (Astray stray K call.wait.settingUp?) := by
  refine ⟨h.serials, h.made, ?_, h.queue, fun id n hn => ?_, h.sorted, h.timers,
    fun id other ho _ => h.tended id other ho (by simp), fun id token hc ho => ?_⟩
  · rintro _ ⟨⟩
    exact hs ▸ h.made _ call hm
  · obtain hb | hc := h.openers id n hn
    · cases hb
    · exact .inr hc
  · obtain hst | ⟨other, hother, -, ht⟩ := h.settingUp id token hc ho
    · exact .inl (.inl hst)
    · by_cases hb : some K = some ⟨id, other.serial⟩
      · cases hb
        obtain rfl := eq_of_serial (h.serials id) hother hm hs.symm
        exact .inl (.inr ⟨rfl, ht⟩)
      · exact .inr ⟨other, hother, hb, ht⟩

/-- The first runnable task leaves the queue.  It was to resume no call that waits. -/
theorem Attended.dequeue {busy : Option CallId} (h : s.Attended busy stray)
    (hhead : ∀ id, ∀ call ∈ (s.client id).calls, busy ≠ some ⟨id, call.serial⟩ →
      s.ready.head? ≠ some (.resume ⟨id, call.serial⟩)) : s.dequeue.Attended busy stray :=
  { h with
    tended := fun id call hc hb => by
      refine (h.tended id call hc hb).congr rfl rfl rfl (fun _ ht => ht) fun hr => ?_
      have hne := hhead id call hc hb
      show _ ∈ s.ready.tail
      cases hready : s.ready with
      | nil =>
        rw [hready] at hr
        cases hr
      | cons task rest =>
        rw [hready] at hr hne
        exact (List.mem_cons.mp hr).resolve_left fun he => hne (congrArg some he.symm) }

end System

end P4Control
