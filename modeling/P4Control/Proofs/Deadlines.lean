import P4Control.Proofs.Pending

namespace P4Control

/-!
# What calls are still pending for

When no task can run, every call that is still pending has a reason: another call is setting up the
stream, or the switch has not answered and the deadline has not passed, or the switch holds a read
stream open.

* `Scenario.Since` — where along a run a call began to wait as it does.
* `Scenario.Asks`, `Scenario.Drains` — how calls come to wait for an answer, and for a read stream.
* `Scenario.Warranted` — the reasons.
* `pending_warranted` — no call outlives its scope or its deadline.
-/

namespace System

variable {s : System} {K : CallId} {stray : ClientId → Token → Prop}

/-- Whoever waits is attended to. -/
theorem Attended.of_waitsFor (h : s.Attended none stray) {wait : Wait} (hw : s.WaitsFor K wait) :
    s.Tends K wait := by
  obtain ⟨call, hm, hs, rfl⟩ := hw
  have ha := h.tended K.client call hm (by simp)
  rwa [hs] at ha

/-- Where someone waits for its turn, the first in line is about to run, or has asked for a stream. -/
theorem Attended.first_in_line (h : s.Attended none stray) (hw : s.WaitsFor K .turn) :
    ∃ n, (s.client K.client).turns.head? = some n ∧
      (.resume ⟨K.client, n⟩ ∈ s.ready ∨
        ∃ token limit deadline, s.WaitsFor ⟨K.client, n⟩ (.answer .openStream token limit deadline)) := by
  obtain ⟨n, rest, hturns⟩ := List.exists_cons_of_ne_nil (List.ne_nil_of_mem (h.of_waitsFor hw).1)
  have hfirst : (s.client K.client).turns.head? = some n := by rw [hturns]; rfl
  refine ⟨n, hfirst, ?_⟩
  obtain ⟨call, hm, rfl, hopens⟩ := h.opener (List.mem_of_mem_head? hfirst)
  have htend := h.tended K.client call hm (by simp)
  cases hwait : call.wait with
  | turn =>
    rw [hwait] at htend
    exact .inl (htend.2 hfirst)
  | answer operation token limit deadline =>
    rw [hwait] at hopens
    obtain rfl : operation = .openStream := by simpa [Wait.opens] using hopens
    exact .inr ⟨token, limit, deadline, call, hm, rfl, hwait⟩
  | chunk token =>
    rw [hwait] at hopens
    cases hopens

/-- Whoever waits for its turn while nothing can run waits for another call that sets up the
stream. -/
theorem Attended.turn_of_settled (h : s.Attended none stray) (hr : s.ready = [])
    (hw : s.WaitsFor K .turn) :
    ∃ n token limit deadline, n ≠ K.serial ∧
      s.WaitsFor ⟨K.client, n⟩ (.answer .openStream token limit deadline) := by
  have idle : ∀ {task : Task}, task ∉ s.ready := by simp [hr]
  obtain ⟨n, hfirst, hruns | ⟨token, limit, deadline, hother⟩⟩ := h.first_in_line hw
  · exact absurd hruns idle
  · refine ⟨n, token, limit, deadline, ?_, hother⟩
    rintro rfl
    exact idle ((h.of_waitsFor hw).2 hfirst)

/-- A scope in which a call waits while nothing can run has not been cancelled. -/
theorem Attended.current_of_settled (h : s.Attended none stray) (hv : s.Valid) (hr : s.ready = [])
    {wait : Wait} (hw : s.WaitsFor K wait) {token : Token} (ht : wait.token? = some token) :
    (s.client K.client).scope.current = some token ∧
      (s.client K.client).scope.isCancelled token = false := by
  have idle : ∀ {task : Task}, task ∉ s.ready := by simp [hr]
  have ha := h.of_waitsFor hw
  have hc : (s.client K.client).scope.isCancelled token = false := by
    rw [Bool.eq_false_iff]
    intro hc
    cases wait with
    | turn => cases ht
    | answer operation token' limit deadline =>
      cases ht
      exact idle (ha.1 hc)
    | chunk token' =>
      cases ht
      exact idle (ha hc)
  obtain ⟨call, hm, -, rfl⟩ := hw
  exact ⟨(hv.scopes K.client).current_eq_some (hv.waits K.client call hm token ht) hc, hc⟩

end System

namespace Scenario

variable {x : Scenario} {m : Move} {stray : ClientId → Token → Prop}

/-! ### Since when -/

/-- Along a run, the call has come to wait for `wait` in a move of which `P` holds. -/
def Since (x : Scenario) (ms : List Move) (K : CallId) (wait : Wait) (P : Scenario → Move → Prop) :
    Prop :=
  ∃ ms₁ m ms₂, ms = ms₁ ++ m :: ms₂ ∧ ¬ (x.after ms₁).system.WaitsFor K wait ∧
    ((x.after ms₁).make m).system.WaitsFor K wait ∧ P (x.after ms₁) m

/-- What has been so since a later move has been so in the run. -/
theorem Since.cons {ms : List Move} {K : CallId} {wait : Wait} {P : Scenario → Move → Prop}
    (h : (x.make m).Since ms K wait P) : x.Since (m :: ms) K wait P := by
  obtain ⟨ms₁, m', ms₂, rfl, h⟩ := h
  exact ⟨m :: ms₁, m', ms₂, rfl, h⟩

/-- What has been so for a reason has been so for a weaker one. -/
theorem Since.mono {ms : List Move} {K : CallId} {wait : Wait} {P Q : Scenario → Move → Prop}
    (h : x.Since ms K wait P) (hpq : ∀ y n, P y n → Q y n) : x.Since ms K wait Q := by
  obtain ⟨ms₁, m', ms₂, he, hb, ha, hp⟩ := h
  exact ⟨ms₁, m', ms₂, he, hb, ha, hpq _ _ hp⟩

/-- Whoever waits after a move has waited for the same before, or has begun to in this move. -/
theorem waitsFor_make (hv : x.Valid) (ha : x.system.Attended none stray) {K : CallId} {wait : Wait}
    (hw : (x.make m).system.WaitsFor K wait) : x.system.WaitsFor K wait ∨ x.Began m K wait := by
  obtain ⟨call, hm, hs, rfl⟩ := hw
  have same : (⟨K.client, call.serial⟩ : CallId) = K := by rw [hs]
  cases sways_make hv ha m with
  | spares h =>
    rw [h.calls] at hm
    exact .inl ⟨call, hm, hs, rfl⟩
  | starts id h =>
    -- the call that the move starts, or another one
    by_cases hK : K = (x.system.newCall id).2
    · subst hK
      exact .inr (h.waits call hm hs)
    · rw [h.others K.client call (by rwa [same]), (System.newCall_parts x.system id _).1] at hm
      exact .inl ⟨call, hm, hs, rfl⟩
  | resumes K' old hm' hr hc hs' h =>
    by_cases hK : K = K'
    · subst hK
      rcases h.waits call hm hs with he | ⟨hturn, hb⟩
      · exact .inl ⟨old, hc, hs', he.symm⟩
      -- a call whose turn has not come goes on waiting
      · by_cases hne : call.wait = .turn
        · exact .inl ⟨old, hc, hs', hturn.trans hne.symm⟩
        · exact .inr (hm' ▸ .resumes K call.wait ⟨old, hc, hs', hturn⟩ hne hb)
    · rw [h.others K.client call (by rwa [same])] at hm
      exact .inl ⟨call, hm, hs, rfl⟩
  | drops task name K' reading old hm' hf hc ht =>
    rw [ht, (System.heeds_retire x.system K' old.kind).calls] at hm
    exact .inl ⟨call, (System.mem_calls_withdraw.mp hm).1, hs, rfl⟩

/-- A call that waits has waited from the start of the run, or since a move in which it began to. -/
theorem since_began (hv : x.Valid) (ha : x.system.Attended none stray) (ms : List Move) {K : CallId}
    {wait : Wait} (hw : (x.after ms).system.WaitsFor K wait) :
    x.system.WaitsFor K wait ∨ x.Since ms K wait fun y n => y.Began n K wait := by
  -- on the moves: it is the first one, unless the rest of the run has a later one
  induction ms generalizing x stray with
  | nil => exact .inl hw
  | cons m rest ih =>
    rcases ih (hv.make m) (attended_make hv ha m) hw with h | h
    · by_cases hold : x.system.WaitsFor K wait
      · exact .inl hold
      · exact .inr ⟨[], m, rest, rfl, hold, h, (waitsFor_make hv ha h).resolve_left hold⟩
    · exact .inr h.cons

/-! ### The reasons -/

/-- A call asks its switch, when it is started or when it gets its turn to open the session, and the
switch gives no answer.  What the call waits for is due after the time that the settings of its client
allow for the operation. -/
def Asks (x : Scenario) (m : Move) (K : CallId) (operation : Operation)
    (limit deadline : Duration) : Prop :=
  let c := x.system.client K.client
  ((∃ name request, m = .start name request ∧ request.operation? = some operation) ∨
    m = .poll ∧ operation = .openStream ∧ x.system.WaitsFor K .turn) ∧
  limit = c.config.limit operation ∧
  deadline.nanoseconds = x.system.now.nanoseconds + limit.nanoseconds ∧
  (x.system.switch c.switch).Ignores operation

/-- A call comes to the end of what it can take from a read stream that its switch holds open: of a
reply that it has just got, or of a stream that has been read from before. -/
def Drains (x : Scenario) (m : Move) (K : CallId) (token : Token) : Prop :=
  (∃ name request query reply, m = .start name request ∧ request.operation? = some .read ∧
    ((x.system.switch (x.system.client K.client).switch).read query).2 = .reply reply ∧
      reply.held = true) ∨
  ∃ name stream cursor, m = .start name (.readNext stream) ∧ x.reads.find? stream = some cursor ∧
    cursor.token = token ∧ cursor.stream.held = true

/-- Why a call is still pending after a run when nothing can run. -/
def Warranted (x : Scenario) (ms : List Move) (K : CallId) (wait : Wait) : Prop :=
  let s := (x.after ms).system
  match wait with
  | .turn =>
      (x.Since ms K wait fun _ m => ∃ name client, m = .start name (.openSession client)) ∧
      ∃ n token limit deadline, n ≠ K.serial ∧
        s.WaitsFor ⟨K.client, n⟩ (.answer .openStream token limit deadline)
  | .answer operation token limit deadline =>
      (s.client K.client).scope.current = some token ∧
      (s.client K.client).scope.isCancelled token = false ∧
      s.now.nanoseconds < deadline.nanoseconds ∧
      x.Since ms K wait fun y m => y.Asks m K operation limit deadline
  | .chunk token =>
      (s.client K.client).scope.current = some token ∧
      x.Since ms K wait fun y m => y.Drains m K token

/-- Only a request to open the session begins to wait in line. -/
theorem Began.opens {K : CallId} (h : x.Began m K .turn) :
    (∃ name client, m = .start name (.openSession client)) ∧
      K = (x.system.newCall K.client).2 := by
  cases h with
  | starts name request _ _ _ hK ho hb =>
    cases hb with
    | turn =>
      cases request with
      | openSession client => exact ⟨⟨name, client, rfl⟩, hK⟩
      | _ => cases ho
  | resumes _ _ hw hne hb => exact absurd rfl hne

/-- A call begins to wait for an answer in the move in which it asks, with the time limit of its
kind. -/
theorem Began.asks {K : CallId} {operation : Operation} {token : Token} {limit deadline : Duration}
    (h : x.Began m K (.answer operation token limit deadline)) :
    x.Asks m K operation limit deadline := by
  cases h with
  | starts name request _ _ _ hK ho hb =>
    cases hb with
    | asked _ _ hi => exact ⟨.inl ⟨name, request, rfl, ho⟩, rfl, rfl, hi⟩
  | resumes _ _ hw hne hb =>
    cases hb with
    | asked _ _ hi => exact ⟨.inr ⟨rfl, rfl, hw⟩, rfl, rfl, hi⟩

/-- A call begins to wait for a chunk in the move in which it runs out of chunks. -/
theorem Began.drains {K : CallId} {token : Token} (h : x.Began m K (.chunk token)) :
    x.Drains m K token := by
  cases h with
  | starts name request _ _ _ hK ho hb =>
    cases hb with
    | reads _ query reply hr hh => exact .inl ⟨name, request, query, reply, rfl, ho, hr, hh⟩
  | reads name stream cursor _ hr hh => exact .inr ⟨name, stream, cursor, rfl, hr, rfl, hh⟩
  | resumes _ _ hw hne hb => cases hb

/-- After every run, when no task can run, each call that is still pending waits for its turn while
another call of the same client sets up the stream, or for an answer that the switch has not given, in
the scope in place and before the deadline, or for a read stream that the switch holds open, in the
scope in place. -/
theorem pending_warranted (devices : List String) (confs : List Pipeconf)
    (bindings : List (String × PipeconfId)) (config : ConfigChange) (capacity : Nat)
    (ms : List Move)
    (hr : ((initial devices confs bindings config capacity).after ms).system.ready = []) :
    ∀ K wait, ((initial devices confs bindings config capacity).after ms).system.WaitsFor K wait →
      (initial devices confs bindings config capacity).Warranted ms K wait := by
  intro K wait hw
  have hx := valid_initial devices confs bindings config capacity
  have hv := (hx.after ms).system
  have ha := attended_after devices confs bindings config capacity ms
  have since : (initial devices confs bindings config capacity).Since ms K wait
      fun y n => y.Began n K wait := by
    refine (since_began hx (attended_blank rfl rfl) ms hw).resolve_left ?_
    rintro ⟨call, hm, -⟩
    cases hm
  cases wait with
  | turn => exact ⟨since.mono fun y n h => h.opens.1, ha.turn_of_settled hr hw⟩
  | answer operation token limit deadline =>
    obtain ⟨hcur, hcan⟩ := ha.current_of_settled hv hr hw rfl
    refine ⟨hcur, hcan, ?_, since.mono fun y n h => h.asks⟩
    -- a call whose deadline has passed would be runnable
    refine Nat.lt_of_not_le fun hd => ?_
    have := (ha.of_waitsFor hw).2.1 hd
    rw [hr] at this
    cases this
  | chunk token =>
    exact ⟨(ha.current_of_settled hv hr hw rfl).1, since.mono fun y n h => h.drains⟩

/-- One client sets up a stream while another call of it is in line; another client of the switch pushes
a program that is not answered, and reads from a stream that is held open.  Some time passes. -/
def vigil : List Move :=
  [.act (.new ⟨⟨"leaf"⟩, 1⟩ "first" none), .act (.new ⟨⟨"leaf"⟩, 1⟩ "second" none),
   .start "t0" (.openSession "second"), .poll, .poll, .poll,
   .act (.steer "leaf" (.queueFault .streamChannel .stall)),
   .act (.steer "leaf" (.queueFault .setPipeline .stall)), .act (.steer "leaf" (.holdReads true)),
   .start "t1" (.openSession "first"), .start "t2" (.openSession "first"),
   .advance (.ofSeconds 3), .start "t3" (.setPipeline "second" ⟨"basic"⟩ []),
   .start "t4" (.read "second" ⟨"basic"⟩ [.all .tableEntry]), .advance (.ofSeconds 4)]

/-- At the end of the vigil all four calls are pending, each with its reason. -/
theorem pending_warranted_vigil :
    let x := initial ["leaf"] [{ id := ⟨"basic"⟩, fingerprint := 1, description := [1] }] [] {} 16
    (x.after vigil).system.ready = [] ∧
      x.Warranted vigil ⟨⟨⟨"leaf"⟩, 0⟩, 1⟩ .turn ∧
      x.Warranted vigil ⟨⟨⟨"leaf"⟩, 0⟩, 0⟩
        (.answer .openStream 0 (.ofSeconds 10) (.ofSeconds 10)) ∧
      x.Warranted vigil ⟨⟨⟨"leaf"⟩, 1⟩, 1⟩
        (.answer .setPipeline 0 (.ofSeconds 60) (.ofSeconds 63)) ∧
      x.Warranted vigil ⟨⟨⟨"leaf"⟩, 1⟩, 2⟩ (.chunk 0) := by
  intro x
  have hr : (x.after vigil).system.ready = [] := by decide +kernel
  have warranted := pending_warranted ["leaf"]
    [{ id := ⟨"basic"⟩, fingerprint := 1, description := [1] }] [] {} 16 vigil hr
  exact ⟨hr, warranted _ _ (by decide +kernel), warranted _ _ (by decide +kernel),
    warranted _ _ (by decide +kernel), warranted _ _ (by decide +kernel)⟩

end Scenario

end P4Control
