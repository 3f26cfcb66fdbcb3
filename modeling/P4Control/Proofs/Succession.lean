import P4Control.Proofs.Scope

namespace P4Control

/-!
# The succession of scopes

Whoever has begun a scope keeps its token, and may come back with it when the scope has long ended.  The
scopes of a client are told here by their history: what has been asked of them, in any order and with any
tokens, and what came of it.

* `ScopeCall`, `ScopeReply`, `Scope.answer` — what is asked, and what comes of it.
* `ScopeHistory` — the calls so far with their replies.
* `Scope.Answers` — all that can come of a call, case by case.
* `Scope.Tells` — what the history says about the scope in place.
* `Tells.answer` — one call keeps it true, and `tells_after` — so do any calls.
* `scope_succession` — tokens that have been given back change nothing.
-/

/-- What is asked of the scopes of a client. -/
inductive ScopeCall (α : Type) where
  | begin
  | activate (token : Token) (a : α)
  | close
  | fail (token : Token)
deriving DecidableEq, Repr

/-- What comes of a call. -/
inductive ScopeReply where
  /-- The scope that has begun, and whether the one before it ended in failure; none has begun if one is in
  place. -/
  | begun (scope : Option (Token × Bool))
  | flag (b : Bool)
deriving DecidableEq, Repr

/-- The calls so far with their replies, oldest first. -/
abbrev ScopeHistory (α : Type) := List (ScopeCall α × ScopeReply)

namespace ScopeHistory

variable {α : Type} {token : Token}

/-- The tokens that have been given out, oldest first. -/
def issued (h : ScopeHistory α) : List Token :=
  h.filterMap fun
    | (.begin, .begun (some (token, _))) => some token
    | _ => none

/-- The scope of the token has been activated, and something was installed. -/
def Activated (h : ScopeHistory α) (token : Token) : Prop := ∃ a, (.activate token a, .flag true) ∈ h

/-- The scope of the token has ended in failure. -/
def Failed (h : ScopeHistory α) (token : Token) : Prop := (.fail token, .flag true) ∈ h

variable {h : ScopeHistory α} {call : ScopeCall α} {reply : ScopeReply}

theorem issued_append (h g : ScopeHistory α) : issued (h ++ g) = h.issued ++ issued g := by
  unfold issued
  rw [List.filterMap_append]

theorem activated_concat : Activated (h ++ [(call, reply)]) token ↔
    h.Activated token ∨ ∃ a, call = .activate token a ∧ reply = .flag true := by
  simp only [Activated, List.mem_append, List.mem_singleton, Prod.mk.injEq, exists_or]
  simp only [eq_comm]

theorem failed_concat : Failed (h ++ [(call, reply)]) token ↔
    h.Failed token ∨ call = .fail token ∧ reply = .flag true := by
  simp only [Failed, List.mem_append, List.mem_singleton, Prod.mk.injEq]
  simp only [eq_comm]

end ScopeHistory

namespace Scope

variable {α : Type} {s t : Scope α} {h : ScopeHistory α} {token : Token} {call : ScopeCall α}
  {reply : ScopeReply}

/-- What comes of a call, and the scopes after it. -/
def answer (s : Scope α) : ScopeCall α → ScopeReply × Scope α
  | .begin =>
    match s.begin with
    | some (token, afterFailure, t) => (.begun (some (token, afterFailure)), t)
    | none => (.begun none, s)
  | .activate token a =>
    match s.activate token a with
    | some t => (.flag true, t)
    | none => (.flag false, s)
  | .close => (.flag s.close.1, s.close.2)
  | .fail token =>
    match s.failIfCurrent token with
    | some t => (.flag true, t)
    | none => (.flag false, s)

/-- The scopes after a call, with their history. -/
def record (x : Scope α × ScopeHistory α) (call : ScopeCall α) : Scope α × ScopeHistory α :=
  ((x.1.answer call).2, x.2 ++ [(call, (x.1.answer call).1)])

/-- The scopes after some calls, with their history. -/
def after (calls : List (ScopeCall α)) : Scope α × ScopeHistory α :=
  calls.foldl record ({}, [])

/-! ### One call -/

/-- The scopes when the one of `token` has ended. -/
def ended (s : Scope α) (token : Token) (failed : Bool) : Scope α :=
  { s with current := none, cancelled := token :: s.cancelled, failed := failed,
           connection := s.connection.send .closed, slot := none }

/-- All that can come of a call. -/
inductive Answers (s : Scope α) : ScopeCall α → ScopeReply → Scope α → Prop
  | begins (hc : s.current = none) :
      Answers s .begin (.begun (some (s.begun, s.failed)))
        { s with begun := s.begun + 1, current := some s.begun, failed := false }
  | occupied (token : Token) (hc : s.current = some token) : Answers s .begin (.begun none) s
  | activates (token : Token) (a : α) (hc : s.current = some token) :
      Answers s (.activate token a) (.flag true)
        { s with connection := s.connection.send .open, slot := some a }
  | misses (token : Token) (a : α) (hc : s.current ≠ some token) :
      Answers s (.activate token a) (.flag false) s
  | closes (token : Token) (hc : s.current = some token) :
      Answers s .close (.flag s.isOpen) (s.ended token s.failed)
  | rests (hc : s.current = none) : Answers s .close (.flag false) { s with slot := none }
  | fails (token : Token) (hc : s.current = some token) :
      Answers s (.fail token) (.flag true) (s.ended token true)
  | spares (token : Token) (hc : s.current ≠ some token) : Answers s (.fail token) (.flag false) s

/-- Every call is answered in one of these ways. -/
theorem answers_answer (s : Scope α) (call : ScopeCall α) :
    s.Answers call (s.answer call).1 (s.answer call).2 := by
  cases call with
  | begin =>
    cases hc : s.current with
    | none =>
      have he : s.begin = some (s.begun, s.failed,
          { s with begun := s.begun + 1, current := some s.begun, failed := false }) := by
        simp [Scope.begin, hc]
      simp only [answer, he]
      exact .begins hc
    | some token =>
      have he : s.begin = none := by simp [Scope.begin, hc]
      simp only [answer, he]
      -- a scope is in place, so none begins
      exact .occupied token hc
  | activate token a =>
    by_cases hc : s.current = some token
    · have he : s.activate token a =
          some { s with connection := s.connection.send .open, slot := some a } := by
        simp [Scope.activate, isCurrent, hc]
      simp only [answer, he]
      exact .activates token a hc
    · have he : s.activate token a = none := by simp [Scope.activate, isCurrent, hc]
      simp only [answer, he]
      -- the token is out of date
      exact .misses token a hc
  | close =>
    cases hc : s.current with
    | none =>
      simp only [answer, close_of_none hc]
      exact .rests hc
    | some token =>
      simp only [answer, close_of_current hc]
      exact .closes token hc
  | fail token =>
    by_cases hc : s.current = some token
    · simp only [answer, failIfCurrent_eq, if_pos hc]
      exact .fails token hc
    · simp only [answer, failIfCurrent_eq, if_neg hc]
      exact .spares token hc

/-! ### What the history says -/

/-- What the history of the scopes says about the one in place. -/
structure Tells (h : ScopeHistory α) (s : Scope α) : Prop where
  valid : s.Valid
  /-- The scopes are numbered in the order in which they begin. -/
  issued : h.issued = List.range s.begun
  activated : ∀ token, h.Activated token → token < s.begun
  isOpen_iff : ∀ token, s.current = some token → (s.isOpen = true ↔ h.Activated token)
  slot : ∀ token a, s.current = some token → s.slot = some a → (.activate token a, .flag true) ∈ h
  ended : ∀ token, h.Failed token → token < s.begun ∧ s.current ≠ some token
  /-- The scope that began last has failed, and no other one has begun since. -/
  failed_iff : s.failed = true ↔ s.current = none ∧ ∃ token, token + 1 = s.begun ∧ h.Failed token

theorem tells_default : Tells [] (default : Scope α) where
  valid := valid_default
  issued := rfl
  activated := by rintro token ⟨a, hm⟩; cases hm
  isOpen_iff := by intro token hc; cases hc
  slot := by intro token a hc; cases hc
  ended := by intro token hm; cases hm
  failed_iff := by
    constructor
    · intro hf; cases hf
    · rintro ⟨-, token, -, hm⟩; cases hm

/-- A call that comes to nothing says nothing about the scopes. -/
theorem Tells.quiet (ht : Tells h s) (hi : ScopeHistory.issued [(call, reply)] = [])
    (hr : reply = .flag true → call = .close) : Tells (h ++ [(call, reply)]) s := by
  have ha : ∀ token, ScopeHistory.Activated (h ++ [(call, reply)]) token ↔ h.Activated token := by
    intro token
    rw [ScopeHistory.activated_concat, or_iff_left]
    rintro ⟨a, rfl, hf⟩
    cases hr hf
  have hf : ∀ token, ScopeHistory.Failed (h ++ [(call, reply)]) token ↔ h.Failed token := by
    intro token
    rw [ScopeHistory.failed_concat, or_iff_left]
    rintro ⟨rfl, hf⟩
    cases hr hf
  refine ⟨ht.valid, ?_, ?_, ?_, ?_, ?_, ?_⟩
  · rw [ScopeHistory.issued_append, hi, List.append_nil, ht.issued]
  · simpa only [ha] using ht.activated
  · simpa only [ha] using ht.isOpen_iff
  · intro token a hc hs
    exact List.mem_append_left _ (ht.slot token a hc hs)
  · simpa only [hf] using ht.ended
  · simpa only [hf] using ht.failed_iff

/-- A scope that begins is the newest one, and it has neither been activated nor failed. -/
theorem Tells.begins (ht : Tells h s) (hc : s.current = none) :
    Tells (h ++ [(.begin, .begun (some (s.begun, s.failed)))])
      { s with begun := s.begun + 1, current := some s.begun, failed := false } := by
  have hb : s.begin = some (s.begun, s.failed,
      { s with begun := s.begun + 1, current := some s.begun, failed := false }) := by
    simp [Scope.begin, hc]
  have hs := ht.valid.slot_eq_none hc
  have ha : ∀ token, ScopeHistory.Activated
      (h ++ [(.begin, .begun (some (s.begun, s.failed)))]) token ↔ h.Activated token := by
    simp [ScopeHistory.activated_concat]
  have hf : ∀ token, ScopeHistory.Failed
      (h ++ [(.begin, .begun (some (s.begun, s.failed)))]) token ↔ h.Failed token := by
    simp [ScopeHistory.failed_concat]
  refine ⟨ht.valid.begin hb, ?_, ?_, ?_, ?_, ?_, ?_⟩
  · rw [ScopeHistory.issued_append, ht.issued]
    exact List.range_succ.symm
  · intro token hm
    exact Nat.lt_succ_of_lt (ht.activated token ((ha token).mp hm))
  · -- The session was closed when the scope began, and no earlier call can have named its token.
    intro token hb
    have hn : s.isOpen = false := ht.valid.isOpen_eq_false hs
    have hl := ht.activated s.begun
    obtain rfl : s.begun = token := Option.some.inj hb
    rw [ha]
    show s.isOpen = true ↔ _
    simp only [hn, Bool.false_eq_true, false_iff]
    intro hm
    exact Nat.lt_irrefl _ (hl hm)
  · intro token a _ hm
    rw [show s.slot = some a from hm] at hs
    cases hs
  · intro token hm
    have hl := (ht.ended token ((hf token).mp hm)).1
    refine ⟨Nat.lt_succ_of_lt hl, fun he => ?_⟩
    exact Nat.ne_of_gt hl (Option.some.inj he)
  · simp

/-- A scope in place is open once it has been activated. -/
theorem Tells.activates (ht : Tells h s) (a : α) (hc : s.current = some token) :
    Tells (h ++ [(.activate token a, .flag true)])
      { s with connection := s.connection.send .open, slot := some a } := by
  have he : s.activate token a =
      some { s with connection := s.connection.send .open, slot := some a } := by
    simp [Scope.activate, isCurrent, hc]
  have hf : ∀ token', ScopeHistory.Failed (h ++ [(.activate token a, .flag true)]) token' ↔
      h.Failed token' := by
    simp [ScopeHistory.failed_concat]
  have hm : (.activate token a, .flag true) ∈ h ++ [(.activate token a, .flag true)] := by simp
  refine ⟨ht.valid.activate he, ?_, ?_, ?_, ?_, ?_, ?_⟩
  · rw [ScopeHistory.issued_append, ht.issued]
    exact List.append_nil _
  · intro token' hm
    rcases ScopeHistory.activated_concat.mp hm with hm | ⟨a', he, -⟩
    · exact ht.activated token' hm
    · cases he
      exact ht.valid.lt_begun hc
  · intro token' hc'
    obtain rfl : token = token' := Option.some.inj (hc.symm.trans hc')
    exact iff_of_true rfl ⟨a, hm⟩
  · intro token' a' hc' hs
    obtain rfl : token = token' := Option.some.inj (hc.symm.trans hc')
    cases hs
    exact hm
  · simpa only [hf] using ht.ended
  · simpa only [hf] using ht.failed_iff

/-- When the scope in place ends, none is in place, and its token is a cancelled one. -/
theorem Tells.ends (ht : Tells h s) (hc : s.current = some token) (failed : Bool)
    (hi : ScopeHistory.issued [(call, reply)] = [])
    (ha : ∀ token' a, call ≠ .activate token' a)
    (hf : ∀ token', call = .fail token' ∧ reply = .flag true ↔ failed = true ∧ token' = token) :
    Tells (h ++ [(call, reply)]) (s.ended token failed) := by
  have hl := ht.valid.current_last token hc
  refine ⟨ht.valid.terminate hc failed, ?_, ?_, ?_, ?_, ?_, ?_⟩
  · rw [ScopeHistory.issued_append, hi, List.append_nil, ht.issued]
    rfl
  · intro token' hm
    rcases ScopeHistory.activated_concat.mp hm with hm | ⟨a, he, -⟩
    · exact ht.activated token' hm
    · exact absurd he (ha token' a)
  · intro token' hc'
    cases hc'
  · intro token' a hc'
    cases hc'
  · intro token' hm
    refine ⟨?_, nofun⟩
    rcases ScopeHistory.failed_concat.mp hm with hm | he
    · exact (ht.ended token' hm).1
    · rw [((hf token').mp he).2]
      exact ht.valid.lt_begun hc
  · -- The scope that began last is the one that ends now, and it had not failed before.
    have hn : ¬h.Failed token := fun hm => (ht.ended token hm).2 hc
    show failed = true ↔ none = none ∧ ∃ token', token' + 1 = s.begun ∧ _
    simp only [ScopeHistory.failed_concat, hf, true_and]
    constructor
    · intro hb
      exact ⟨token, hl, .inr ⟨hb, rfl⟩⟩
    · rintro ⟨token', he, hm⟩
      obtain rfl : token' = token := Nat.succ.inj (he.trans hl.symm)
      rcases hm with hm | ⟨hb, -⟩
      · exact absurd hm hn
      · exact hb

/-- One call, whatever it is. -/
theorem Tells.answer (ht : Tells h s) (call : ScopeCall α) :
    Tells (h ++ [(call, (s.answer call).1)]) (s.answer call).2 := by
  have hx := s.answers_answer call
  generalize (s.answer call).1 = reply at hx ⊢
  generalize (s.answer call).2 = t at hx ⊢
  cases hx with
  | begins hc => exact ht.begins hc
  | occupied token hc => exact ht.quiet rfl (by simp)
  | activates token a hc => exact ht.activates a hc
  | misses token a hc => exact ht.quiet rfl (by simp)
  | closes token hc =>
    -- A scope in place has not failed, so the flag of the close is that of the scope before.
    have hn : s.failed = false := by
      rw [Bool.eq_false_iff]
      intro hf
      have hn := (ht.failed_iff.mp hf).1
      rw [hc] at hn
      cases hn
    rw [hn]
    exact ht.ends hc false rfl (by simp) (by simp)
  | rests hc =>
    rw [← ht.valid.slot_eq_none hc]
    exact ht.quiet rfl (by simp)
  | fails token hc => exact ht.ends hc true rfl (by simp) (by simp [eq_comm])
  | spares token hc => exact ht.quiet rfl (by simp)

/-- Any calls, in any order. -/
theorem tells_after (calls : List (ScopeCall α)) : Tells (after calls).2 (after calls).1 := by
  -- The induction is on the calls to come; each adds to the history.
  have hgen : ∀ (x : Scope α × ScopeHistory α), Tells x.2 x.1 →
      Tells (calls.foldl record x).2 (calls.foldl record x).1 := by
    induction calls with
    | nil =>
      intro x hx
      exact hx
    | cons call calls ih =>
      intro x hx
      exact ih (record x call) (hx.answer call)
  exact hgen ({}, []) tells_default

/-! ### What the tokens are good for -/

theorem Tells.mem_issued (ht : Tells h s) : token ∈ h.issued ↔ token < s.begun := by
  rw [ht.issued, List.mem_range]

/-- The scope in place is the one whose token was given out last. -/
theorem Tells.getLast?_issued (ht : Tells h s) (hc : s.current = some token) :
    h.issued.getLast? = some token := by
  rw [ht.issued, ← ht.valid.current_last token hc, List.range_succ, List.getLast?_concat]

/-- A scope that has begun is cancelled just when it is no longer in place. -/
theorem Tells.isCancelled_iff (ht : Tells h s) (hm : token ∈ h.issued) :
    s.isCancelled token = true ↔ s.isCurrent token = false := by
  rw [isCancelled, List.contains_iff_mem, ht.valid.cancelled_iff, isCurrent, decide_eq_false_iff_not]
  exact and_iff_right (ht.mem_issued.mp hm)

/-- A session is open just when there is a scope in place that has been activated. -/
theorem Tells.isOpen_eq_true_iff (ht : Tells h s) :
    s.isOpen = true ↔ ∃ token, s.current = some token ∧ h.Activated token := by
  constructor
  · intro ho
    obtain ⟨token, hc⟩ := Option.isSome_iff_exists.mp (ht.valid.current_of_open ho)
    exact ⟨token, hc, (ht.isOpen_iff token hc).mp ho⟩
  · rintro ⟨token, hc, ha⟩
    exact (ht.isOpen_iff token hc).mpr ha

theorem Tells.openToken?_eq_some_iff (ht : Tells h s) :
    s.openToken? = some token ↔ s.current = some token ∧ h.Activated token := by
  constructor
  · intro ho
    have hc := current_of_openToken? ho
    exact ⟨hc, (ht.isOpen_iff token hc).mp (isOpen_of_openToken? ho)⟩
  · rintro ⟨hc, ha⟩
    rw [openToken?, if_pos ((ht.isOpen_iff token hc).mpr ha)]
    exact hc

/-- The scope before the next one is the one whose token was given out last. -/
theorem Tells.failed_eq_true_iff (ht : Tells h s) (hc : s.current = none) :
    s.failed = true ↔ ∃ token, h.issued.getLast? = some token ∧ h.Failed token := by
  have hl : ∀ token, h.issued.getLast? = some token ↔ token + 1 = s.begun := by
    intro token
    rw [ht.issued]
    cases s.begun with
    | zero => simp
    | succ n => rw [List.range_succ, List.getLast?_concat, Option.some.injEq, Nat.succ_inj, eq_comm]
  simp only [ht.failed_iff, hc, hl, true_and]

/-- No session is open unless it has a token. -/
theorem Valid.isSome_openToken? (hv : s.Valid) : s.openToken?.isSome = s.isOpen := by
  cases ho : s.isOpen with
  | false => simp [openToken?, ho]
  | true =>
    obtain ⟨token, hs⟩ := hv.openToken?_of_isOpen ho
    rw [hs, Option.isSome_some]

/-! ### What a call comes to -/

/-- A token that has been given back opens nothing and ends nothing. -/
theorem answer_of_isCurrent_eq_false (hc : s.isCurrent token = false) :
    (∀ a, s.answer (.activate token a) = (.flag false, s)) ∧
      s.answer (.fail token) = (.flag false, s) := by
  simp [answer, activate, failIfCurrent, hc]

/-- The token of the scope in place opens it and ends it. -/
theorem answer_of_current (hc : s.current = some token) :
    (∀ a, (s.answer (.activate token a)).1 = .flag true ∧
      (s.answer (.activate token a)).2.slot = some a) ∧
    (s.answer (.fail token)).1 = .flag true ∧ (s.answer (.fail token)).2.current = none := by
  simp [answer, activate, failIfCurrent_eq, isCurrent, hc]

/-- A close ends an open session, and another one has nothing to end. -/
theorem Valid.answer_close (hv : s.Valid) :
    (s.answer .close).1 = .flag s.isOpen ∧ (s.answer .close).2.current = none ∧
      (s.answer .close).2.answer .close = (.flag false, (s.answer .close).2) := by
  have hx := s.answers_answer .close
  generalize (s.answer .close).1 = reply at hx
  generalize (s.answer .close).2 = t at hx
  cases hx with
  | closes token hc => exact ⟨rfl, rfl, rfl⟩
  | rests hc =>
    rw [hv.isOpen_eq_false (hv.slot_eq_none hc)]
    refine ⟨rfl, hc, ?_⟩
    rw [answer, close_of_none (s := { s with slot := none }) hc]

/-- The next scope has a token of its own, and knows how the one before it ended. -/
theorem Tells.answer_begin (ht : Tells h s) (hc : s.current = none) :
    ∃ token afterFailure, (s.answer .begin).1 = .begun (some (token, afterFailure)) ∧
      (s.answer .begin).2.current = some token ∧ token ∉ h.issued ∧
      (afterFailure = true ↔ ∃ last, h.issued.getLast? = some last ∧ h.Failed last) := by
  have hx := s.answers_answer .begin
  generalize (s.answer .begin).1 = reply at hx
  generalize (s.answer .begin).2 = t at hx
  cases hx with
  | begins _ =>
    refine ⟨s.begun, s.failed, rfl, rfl, ?_, ht.failed_eq_true_iff hc⟩
    rw [ht.mem_issued]
    exact Nat.lt_irrefl s.begun
  | occupied token ho =>
    rw [hc] at ho
    cases ho

/-- Whatever is asked of the scopes, in any order and with any tokens: at most one scope is in place, the one
that began last, and the others are cancelled; a session is open, and something installed, just while the
scope in place has been activated, which its token does; a token that has been given back changes nothing; a
close tells whether it has ended a session, and another one changes nothing; the next scope knows whether the
one before it ended in failure. -/
theorem scope_succession (calls : List (ScopeCall α)) :
    let s := (after calls).1
    let h := (after calls).2
    (h.issued.Nodup ∧ ∀ token, s.current = some token → h.issued.getLast? = some token) ∧
    (∀ token ∈ h.issued, s.isCancelled token = true ↔ s.isCurrent token = false) ∧
    (s.isOpen = true ↔ ∃ token, s.current = some token ∧ h.Activated token) ∧
    (s.openToken?.isSome = s.isOpen ∧
      ∀ token, s.openToken? = some token ↔ s.current = some token ∧ h.Activated token) ∧
    (∀ token, s.current = some token →
      (∀ a, (s.answer (.activate token a)).1 = .flag true ∧
        (s.answer (.activate token a)).2.slot = some a) ∧
      (s.answer (.fail token)).1 = .flag true ∧ (s.answer (.fail token)).2.current = none) ∧
    (∀ token, s.isCurrent token = false →
      (∀ a, s.answer (.activate token a) = (.flag false, s)) ∧
        s.answer (.fail token) = (.flag false, s)) ∧
    ((s.current = none → s.slot = none) ∧ s.slot.isSome = s.isOpen ∧
      ∀ token a, s.current = some token → s.slot = some a → (.activate token a, .flag true) ∈ h) ∧
    ((s.answer .close).1 = .flag s.isOpen ∧ (s.answer .close).2.current = none ∧
      (s.answer .close).2.answer .close = (.flag false, (s.answer .close).2)) ∧
    (∀ token, s.current = some token → s.answer .begin = (.begun none, s)) ∧
    (s.current = none → ∃ token afterFailure,
      (s.answer .begin).1 = .begun (some (token, afterFailure)) ∧
        (s.answer .begin).2.current = some token ∧ token ∉ h.issued ∧
        (afterFailure = true ↔ ∃ last, h.issued.getLast? = some last ∧ h.Failed last)) := by
  intro s h
  have ht : Tells h s := tells_after calls
  have hs : s.slot.isSome = s.isOpen := Bool.eq_iff_iff.mpr ht.valid.isOpen_iff.symm
  -- each part is one lemma about what the history tells
  refine ⟨⟨?_, fun token hc => ht.getLast?_issued hc⟩, fun token hm => ht.isCancelled_iff hm,
    ht.isOpen_eq_true_iff, ⟨ht.valid.isSome_openToken?, fun token => ht.openToken?_eq_some_iff⟩,
    fun token hc => answer_of_current hc, fun token hc => answer_of_isCurrent_eq_false hc,
    ⟨ht.valid.slot_eq_none, hs, ht.slot⟩, ht.valid.answer_close, ?_, ht.answer_begin⟩
  · rw [ht.issued]
    exact List.nodup_range
  · intro token hc
    simp [answer, Scope.begin, hc]

end Scope

end P4Control
