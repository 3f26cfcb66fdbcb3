import P4Control.Session.Scope

namespace P4Control.Scope

/-!
# Order among the scopes of a client

At most one scope is in place, it is the one begun last, and all others have been
cancelled.  The slot is filled exactly while a session is open.

* `Scope.Valid` — the invariant.
* `Valid.begin`, `Valid.activate`, `Valid.close`, `Valid.failIfCurrent` — each transition keeps it.
* `Valid.current_eq_some` — a scope that has begun and has not been cancelled is the one in place.
-/

variable {α : Type} {s : Scope α}

/-- The scope of `token` has begun, and while it is in place a session is open. -/
def Opened (s : Scope α) (token : Token) : Prop :=
  token < s.begun ∧ (s.current = some token → s.slot.isSome = true)

/-- The scope in place is the one begun last; the others are cancelled; the slot is filled exactly
while a session is open. -/
structure Valid (s : Scope α) : Prop where
  current_last : ∀ token, s.current = some token → token + 1 = s.begun
  cancelled_iff : ∀ token, token ∈ s.cancelled ↔ token < s.begun ∧ s.current ≠ some token
  isOpen_iff : s.isOpen = true ↔ s.slot.isSome = true
  current_of_open : s.isOpen = true → s.current.isSome = true

/-- Before the first scope. -/
theorem valid_default : (default : Scope α).Valid where
  current_last := by intro token h; cases h
  cancelled_iff := by
    intro token
    show token ∈ [] ↔ token < 0 ∧ _
    simp
  isOpen_iff := by
    show false = true ↔ false = true
    rfl
  current_of_open := by intro h; cases h

/-! ### What the tokens say -/

/-- A scope in place has begun. -/
theorem Valid.lt_begun (h : s.Valid) {token : Token} (ht : s.current = some token) :
    token < s.begun := by
  rw [← h.current_last token ht]
  exact Nat.lt_succ_self token

/-- A scope that has begun and has not been cancelled is in place. -/
theorem Valid.current_eq_some (h : s.Valid) {token : Token} (ht : token < s.begun)
    (hc : s.isCancelled token = false) : s.current = some token := by
  by_cases hne : s.current = some token
  · exact hne
  · have hm : token ∈ s.cancelled := (h.cancelled_iff token).mpr ⟨ht, hne⟩
    rw [isCancelled, List.contains_iff_mem.mpr hm] at hc
    cases hc

/-- The scope in place has not been cancelled. -/
theorem Valid.isCancelled_current (h : s.Valid) {token : Token} (ht : s.current = some token) :
    s.isCancelled token = false := by
  rw [isCancelled, Bool.eq_false_iff]
  intro hm
  exact ((h.cancelled_iff token).mp (List.contains_iff_mem.mp hm)).2 ht

/-- A cancelled scope is not in place. -/
theorem Valid.current_ne (h : s.Valid) {token : Token} (hc : s.isCancelled token = true) :
    s.current ≠ some token := by
  intro ht
  rw [h.isCancelled_current ht] at hc
  cases hc

/-- No session is open without a scope in place. -/
theorem Valid.slot_eq_none (h : s.Valid) (hc : s.current = none) : s.slot = none := by
  rw [← Option.not_isSome_iff_eq_none]
  intro hs
  have hi := h.current_of_open (h.isOpen_iff.mpr hs)
  rw [hc] at hi
  cases hi

/-- No session is open while the slot is empty. -/
theorem Valid.isOpen_eq_false (h : s.Valid) (hc : s.slot = none) : s.isOpen = false := by
  rw [Bool.eq_false_iff]
  intro ho
  have hi := h.isOpen_iff.mp ho
  rw [hc] at hi
  cases hi

/-- The token of an open session is the one in place. -/
theorem current_of_openToken? {token : Token} (h : s.openToken? = some token) :
    s.current = some token := by
  unfold openToken? at h
  split at h
  · exact h
  · cases h

theorem isOpen_of_openToken? {token : Token} (h : s.openToken? = some token) : s.isOpen = true := by
  unfold openToken? at h
  split at h
  · assumption
  · cases h

/-- An open session has a token. -/
theorem Valid.openToken?_of_isOpen (h : s.Valid) (ho : s.isOpen = true) :
    ∃ token, s.openToken? = some token := by
  unfold openToken?
  rw [if_pos ho]
  exact Option.isSome_iff_exists.mp (h.current_of_open ho)

/-! ### The transitions -/

/-- What a begun scope is like. -/
theorem begin_eq_some {token : Token} {afterFailure : Bool} {t : Scope α}
    (h : s.begin = some (token, afterFailure, t)) :
    s.current = none ∧ token = s.begun ∧ afterFailure = s.failed ∧
      t = { s with begun := s.begun + 1, current := some s.begun, failed := false } := by
  unfold begin at h
  split at h
  · cases h
  · next hc =>
    simp only [Option.some.injEq, Prod.mk.injEq] at h
    exact ⟨hc, h.1.symm, h.2.1.symm, h.2.2.symm⟩

/-- What an activated scope is like. -/
theorem activate_eq_some {token : Token} {a : α} {t : Scope α}
    (h : s.activate token a = some t) :
    s.current = some token ∧
      t = { s with connection := s.connection.send .open, slot := some a } := by
  unfold activate at h
  split at h
  · next hc => exact ⟨by simpa [isCurrent] using hc, (Option.some.inj h).symm⟩
  · cases h

/-- A close ends the scope in place. -/
theorem close_of_current {token : Token} (h : s.current = some token) :
    s.close = (s.isOpen,
      { s with current := none, cancelled := token :: s.cancelled,
               connection := s.connection.send .closed, slot := none }) := by
  unfold close
  simp only [h]

/-- A close without a scope in place only empties the slot. -/
theorem close_of_none (h : s.current = none) : s.close = (false, { s with slot := none }) := by
  unfold close
  simp only [h]

/-- What a scope that ended in failure is like. -/
theorem failIfCurrent_eq (token : Token) :
    s.failIfCurrent token =
      if s.current = some token then
        some { s with current := none, cancelled := token :: s.cancelled, failed := true,
                      connection := s.connection.send .closed, slot := none }
      else none := by
  unfold failIfCurrent isCurrent
  simp

/-! ### What an end leaves -/

theorem slot_close (s : Scope α) : s.close.2.slot = none := by
  unfold close
  split <;> rfl

theorem current_close (s : Scope α) : s.close.2.current = none := by
  unfold close
  split
  · rfl
  · next hc => exact hc

theorem begun_close (s : Scope α) : s.close.2.begun = s.begun := by
  unfold close
  split <;> rfl

/-- Once the scope in place has ended, it is cancelled like those before it. -/
theorem isCancelled_ended {ended : Scope α} {token : Token} (hcur : s.current = some token)
    (hcan : ended.cancelled = token :: s.cancelled) (token' : Token) :
    ended.isCancelled token' = true ↔ s.isCancelled token' = true ∨ s.current = some token' := by
  simp only [isCancelled, hcan, hcur, List.contains_cons, Bool.or_eq_true, beq_iff_eq,
    Option.some.injEq]
  exact ⟨fun h => h.symm.imp_right Eq.symm, fun h => h.symm.imp_left Eq.symm⟩

theorem isCancelled_close (s : Scope α) (token : Token) :
    s.close.2.isCancelled token = true ↔
      s.isCancelled token = true ∨ s.current = some token := by
  cases hc : s.current with
  | none =>
    rw [close_of_none hc]
    simp [isCancelled]
  | some token' =>
    rw [← hc]
    refine isCancelled_ended hc ?_ token
    rw [close_of_current hc]

/-! ### Each transition keeps the order -/

/-- A scope that has begun has not been activated. -/
theorem Valid.begin (h : s.Valid) {token : Token} {afterFailure : Bool} {t : Scope α}
    (hb : s.begin = some (token, afterFailure, t)) : t.Valid := by
  obtain ⟨hc, -, -, rfl⟩ := begin_eq_some hb
  refine ⟨?_, ?_, h.isOpen_iff, ?_⟩
  · intro token ht
    cases ht
    rfl
  · intro token
    have hm := h.cancelled_iff token
    rw [hc] at hm
    show token ∈ s.cancelled ↔ token < s.begun + 1 ∧ some s.begun ≠ some token
    rw [hm]
    grind
  · intro _
    rfl

theorem Valid.activate (h : s.Valid) {token : Token} {a : α} {t : Scope α}
    (ha : s.activate token a = some t) : t.Valid := by
  obtain ⟨hc, rfl⟩ := activate_eq_some ha
  refine ⟨h.current_last, h.cancelled_iff, ?_, ?_⟩
  · show decide (ConnectionState.open = .open) = true ↔ true = true
    simp
  · intro _
    show s.current.isSome = true
    rw [hc]
    rfl

/-- The end of the scope in place, however it ends. -/
theorem Valid.terminate (h : s.Valid) {token : Token} (ht : s.current = some token)
    (failed : Bool) :
    ({ s with current := none, cancelled := token :: s.cancelled, failed := failed,
              connection := s.connection.send .closed, slot := none } : Scope α).Valid := by
  refine ⟨?_, ?_, ?_, ?_⟩
  · intro token' h'
    cases h'
  · intro token'
    have hm := h.cancelled_iff token'
    have hl := h.lt_begun ht
    rw [ht] at hm
    show token' ∈ token :: s.cancelled ↔ token' < s.begun ∧ none ≠ some token'
    rw [List.mem_cons, hm]
    grind
  · show decide (ConnectionState.closed = .open) = true ↔ false = true
    simp
  · intro ho
    cases ho

theorem Valid.close (h : s.Valid) : s.close.2.Valid := by
  unfold Scope.close
  split
  · next token ht => exact h.terminate ht s.failed
  · next hc =>
    have hs := h.slot_eq_none hc
    refine ⟨h.current_last, h.cancelled_iff, ?_, h.current_of_open⟩
    show s.isOpen = true ↔ false = true
    rw [h.isOpen_eq_false hs]

theorem Valid.failIfCurrent (h : s.Valid) {token : Token} {t : Scope α}
    (hf : s.failIfCurrent token = some t) : t.Valid := by
  rw [failIfCurrent_eq] at hf
  split at hf
  · next ht =>
    cases hf
    exact h.terminate ht true
  · cases hf

end P4Control.Scope
