import P4Control.Proofs.Aftermath

namespace P4Control

/-!
# How calls end

A call ends once.  One that is made in an open session and has to wait can only fail, so if it returns it
has done so when it was started.

* `System.Over` — a call that has been made and is no longer pending.
* `Scenario.callOf?` — the call that a request starts.
* `stroke_start` — what a started request leaves behind is what its call does.
* `Scenario.Ends` — how a call ends in a move, and `finished_make` — nothing else ends.
* `over_after` — a call that is over does not end again.
* `ClientError.isLapse`, `fails_after` — a call that waits in a session ends only by being cancelled or by
  running out of time.
* `returned_at_once` — a call that returns has ended in the move that started it.
* `Orderly` — what holds after every run of moves.
-/

/-- Whether a call that has waited fails so: its scope has ended, or its time is up. -/
def ClientError.isLapse : ClientError → Bool
  | .cancelled _ _ | .timeout _ _ _ => true
  | _ => false

namespace System

variable {s t : System} {K : CallId}

/-- The call has been made, and is not pending any more. -/
def Over (s : System) (K : CallId) : Prop :=
  K.serial < (s.client K.client).made ∧ ∀ wait, ¬ s.WaitsFor K wait

/-- The calls that have ended are over. -/
def Spent (s : System) : Prop := ∀ f ∈ s.finished, s.Over f.call

theorem not_over_newCall (id : ClientId) : ¬ s.Over (s.newCall id).2 :=
  fun h => Nat.lt_irrefl _ h.1

theorem Spent.not_mem (h : s.Spent) {wait : Wait} (hw : s.WaitsFor K wait) {f : Finished}
    (hf : f ∈ s.finished) : f.call ≠ K := by
  rintro rfl
  exact (h f hf).2 wait hw

/-- A call that has run from its start or from its place among the waiting ones, and has ended, is
over. -/
theorem Stroke.over {own : Option Token} {P : Wait → Prop} (h : s.Stroke K own P t)
    (hm : K.serial < (s.client K.client).made)
    (hn : ∀ call ∈ (t.client K.client).calls, call.serial ≠ K.serial) : t.Over K := by
  refine ⟨Nat.lt_of_lt_of_le hm (h.made K.client), ?_⟩
  rintro wait ⟨call, hc, hs, -⟩
  exact hn call hc hs

end System

namespace Scenario

variable {x : Scenario} {m : Move} {K : CallId} {wait : Wait} {token : Token}
  {operation : Operation} {stray : ClientId → Token → Prop}

/-! ### The call of a request -/

/-- The call that a request starts. -/
def callOf? (x : Scenario) : Request → Option CallId
  | .openSession client => (x.system.handles.find? client).map fun id => (x.system.newCall id).2
  | .setPipeline client conf _ | .isPipelineSet client conf _ | .read client conf _
  | .openRead client conf _ | .write client conf _ _ => do
    let id ← x.system.handles.find? client
    let _ ← x.system.catalog.pipeconf? conf
    some (x.system.newCall id).2
  | .readNext stream =>
    (x.reads.find? stream).map fun cursor => (x.system.newCall cursor.client).2
  | _ => none

/-- What a request leaves behind that starts a call. -/
theorem stroke_start (hv : x.Valid) (ha : x.system.Attended none stray) {request : Request}
    (hK : x.callOf? request = some K) (name : String) :
    K = (x.system.newCall K.client).2 ∧
      (x.system.newCall K.client).1.Stroke K none (x.Began (.start name request) K)
        (x.make (.start name request)).system := by
  have starts : ∀ {operation id t}, request.operation? = some operation →
      (x.system.newCall id).1.Stroke (x.system.newCall id).2 none
        (x.system.Began (x.system.newCall id).2 operation) t →
      (x.system.newCall id).1.Stroke (x.system.newCall id).2 none
        (x.Began (.start name request) (x.system.newCall id).2) t :=
    fun ho h => h.mono fun wait => .starts name request _ _ wait rfl ho
  -- A request starts a call when its client and its configuration are known; this is what `callOf?` has
  -- looked up.
  cases request with
  | openSession client =>
    obtain ⟨id, hh, rfl⟩ := Option.map_eq_some_iff.mp hK
    simp only [make, start, onClient, hh, started]
    exact ⟨rfl, starts rfl (System.stroke_openSession hv.system ha id)⟩
  | setPipeline client conf data =>
    simp only [callOf?, Option.bind_eq_bind, Option.bind_eq_some_iff, Option.some.injEq] at hK
    obtain ⟨id, hh, conf', hf, rfl⟩ := hK
    simp only [make, start, onClient, onPipeconf, hh, hf, started]
    exact ⟨rfl, starts rfl (System.stroke_setPipelineConfig hv.system ha id _ data)⟩
  | isPipelineSet client conf data =>
    simp only [callOf?, Option.bind_eq_bind, Option.bind_eq_some_iff, Option.some.injEq] at hK
    obtain ⟨id, hh, conf', hf, rfl⟩ := hK
    simp only [make, start, onClient, onPipeconf, hh, hf, started]
    exact ⟨rfl, starts rfl (System.stroke_isPipelineConfigSet hv.system ha id _ data)⟩
  | read client conf query =>
    simp only [callOf?, Option.bind_eq_bind, Option.bind_eq_some_iff, Option.some.injEq] at hK
    obtain ⟨id, hh, conf', hf, rfl⟩ := hK
    simp only [make, start, onClient, onPipeconf, hh, hf, started]
    exact ⟨rfl, starts rfl (System.stroke_read hv.system ha id _)⟩
  | openRead client conf query =>
    simp only [callOf?, Option.bind_eq_bind, Option.bind_eq_some_iff, Option.some.injEq] at hK
    obtain ⟨id, hh, conf', hf, rfl⟩ := hK
    simp only [make, start, onClient, onPipeconf, hh, hf, started]
    exact ⟨rfl, starts rfl (System.stroke_openRead hv.system ha id _)⟩
  | write client conf updates atomicity =>
    simp only [callOf?, Option.bind_eq_bind, Option.bind_eq_some_iff, Option.some.injEq] at hK
    obtain ⟨id, hh, conf', hf, rfl⟩ := hK
    simp only [make, start, onClient, onPipeconf, hh, hf, started]
    exact ⟨rfl, starts rfl (System.stroke_write hv.system ha id _)⟩
  | readNext stream =>
    obtain ⟨cursor, hr, rfl⟩ := Option.map_eq_some_iff.mp hK
    simp only [make, start, hr, started]
    refine ⟨rfl, (System.stroke_readNext hv.system ha cursor).mono ?_⟩
    rintro wait ⟨rfl, hh⟩
    exact .reads name stream cursor _ hr hh
  | _ => cases hK

/-- The call that a request starts ends at once, or it begins to wait. -/
theorem start_outcome (hv : x.Valid) (ha : x.system.Attended none stray) {request : Request}
    (hK : x.callOf? request = some K) (name : String) :
    (∃ f, (x.make (.start name request)).system.finished = x.system.finished ++ [f] ∧
      f.call = K ∧ (x.make (.start name request)).system.Over K) ∨
    (x.make (.start name request)).system.finished = x.system.finished ∧
      ∃ wait, (x.make (.start name request)).system.WaitsFor K wait ∧
        x.Began (.start name request) K wait := by
  obtain ⟨hnew, hs⟩ := stroke_start hv ha hK name
  have hmade : K.serial < ((x.system.newCall K.client).1.client K.client).made := by
    rw [System.client_newCall_self, hnew]
    exact Nat.lt_succ_self _
  obtain ⟨f, hf, hcall, hn⟩ | ⟨hsame, call, hm, hser⟩ := hs.outcome
  · exact .inl ⟨f, hf, hcall, hs.over hmade hn⟩
  · exact .inr ⟨hsame, call.wait, ⟨call, hm, hser, rfl⟩, hs.waits call hm hser⟩

/-- A call that has not been made before is not over. -/
theorem not_over_of_callOf? (hv : x.Valid) (ha : x.system.Attended none stray) {request : Request}
    (hK : x.callOf? request = some K) : ¬ x.system.Over K := by
  rw [(stroke_start hv ha hK "").1]
  exact System.not_over_newCall _

/-- A request that starts no call ends none. -/
theorem finished_start_of_none {request : Request} (hK : x.callOf? request = none) (name : String) :
    (x.make (.start name request)).system.finished = x.system.finished := by
  cases request with
  | openSession client =>
    have hh : x.system.handles.find? client = none := by simpa [callOf?] using hK
    simp only [make, start, onClient, hh]
  | readNext stream =>
    have hr : x.reads.find? stream = none := by simpa [callOf?] using hK
    simp only [make, start, hr]
  | rawOpen switch => exact (x.heeds_rawOpen name switch).finished
  | rawRead switch request =>
    simp only [make, start, onSwitch]
    split
    · rfl
    · split <;> rfl
  | rawSet | rawGet | rawWrite =>
    simp only [make, start, onSwitch]
    split
    · rfl
    · rw [system_answered]
      rfl
  | _ =>
    simp only [make, start, onClient, onPipeconf]
    split
    · rfl
    · next id hh =>
      split
      · rfl
      -- there is no client or no program, so nothing was started
      · next conf hf => simp [callOf?, hh, hf] at hK

/-! ### How a call ends in a move -/

/-- A call ends in a move. -/
inductive Ends (x : Scenario) (K : CallId) : Move → Prop
  /-- It has been started in the move. -/
  | starts (name : String) (request : Request) (hK : x.callOf? request = some K) :
      Ends x K (.start name request)
  /-- It has waited. -/
  | resumes (wait : Wait) (hr : x.system.ready.head? = some (.resume K))
      (hw : x.system.WaitsFor K wait) : Ends x K .poll

theorem finished_act (hv : x.Valid) (action : Action) :
    (x.make (.act action)).system.finished = x.system.finished := by
  obtain ⟨front, id, rest, hf, hg, hl⟩ := leads_act hv.system action
  have hfront : front.flatMap Incident.results = [] := by
    refine List.flatMap_eq_nil_iff.mpr fun i hi => ?_
    have hc := hf i hi
    cases i with
    | told f => exact hc.elim
    | _ => rfl
  have hrest : rest.flatMap Incident.results = [] := by
    cases hg with
    | parts hn hp => cases hp <;> rfl
    | closes wasOpen hc hp => cases hp <;> rfl
  have hfin := hl.finished
  rw [List.flatMap_append, hfront, hrest, List.append_nil, List.append_nil] at hfin
  exact hfin

/-- In a move, one call ends at most: one that has been started, or one that has waited and runs
again. -/
theorem finished_make (hv : x.Valid) (ha : x.system.Attended none stray) (m : Move) :
    (∃ posted outcome, m = .observe posted outcome) ∨
    (x.make m).system.finished = x.system.finished ∨
    ∃ f, (x.make m).system.finished = x.system.finished ++ [f] ∧ x.Ends f.call m ∧
      (x.make m).system.Over f.call := by
  cases m with
  | act action => exact .inr (.inl (finished_act hv action))
  | observe posted outcome => exact .inl ⟨posted, outcome, rfl⟩
  | advance span =>
    refine .inr (.inl ?_)
    show (x.system.advance span).finished = _
    unfold System.advance
    dsimp only
    rw [System.foldl_resume_eq]
  | start name request =>
    refine .inr ?_
    cases hK : x.callOf? request with
    | none => exact .inl (finished_start_of_none hK name)
    | some K =>
      obtain ⟨f, hf, rfl, hover⟩ | ⟨hsame, -⟩ := start_outcome hv ha hK name
      · exact .inr ⟨f, hf, .starts name request hK, hover⟩
      · exact .inl hsame
  -- Only a task that lets a call run again can end one.
  | poll =>
    refine .inr ?_
    show x.system.poll.finished = _ ∨ ∃ f, x.system.poll.finished = _ ∧ _ ∧ x.system.poll.Over _
    unfold System.poll
    split
    · exact .inl rfl
    · next st rest hr => exact .inl (System.heeds_serveStep (by rw [hr]; rfl)).finished
    · next st rest hr => exact .inl (System.heeds_listenStep (by rw [hr]; rfl)).finished
    · next K rest hr =>
      cases hcall : x.system.dequeue.call? K with
      | none =>
        refine .inl ?_
        unfold System.resume
        simp only [hcall]
        rfl
      | some call =>
        obtain ⟨hm, hs⟩ := System.mem_of_call? hcall
        have hstroke := System.stroke_resume hv.system ha hm hs
        obtain ⟨f, hf, rfl, hn⟩ | ⟨hsame, -⟩ := hstroke.outcome
        · exact .inr ⟨f, hf, .resumes call.wait (by rw [hr]; rfl) ⟨call, hm, hs, rfl⟩,
            hstroke.over (hs ▸ ha.made _ call hm) hn⟩
        · exact .inl hsame

/-! ### Calls that are over -/

/-- A call that ends in a move has not been over before. -/
theorem Ends.not_over (hv : x.Valid) (ha : x.system.Attended none stray) (h : x.Ends K m) :
    ¬ x.system.Over K := by
  cases h with
  | starts name request hK => exact not_over_of_callOf? hv ha hK
  | resumes wait hr hw => exact fun ho => ho.2 wait hw

theorem over_make (hv : x.Valid) (ha : x.system.Attended none stray) (h : x.system.Over K)
    (m : Move) : (x.make m).system.Over K := by
  have hsways := sways_make hv ha m
  refine ⟨Nat.lt_of_lt_of_le h.1 (hsways.made_le K.client), ?_⟩
  rintro wait ⟨call, hm, hs, -⟩
  have same : (⟨K.client, call.serial⟩ : CallId) = K := by rw [hs]
  -- a call that is over is not pending, so it cannot be one that was before
  have not_old : call ∉ (x.system.client K.client).calls := fun hold =>
    h.2 call.wait ⟨call, hold, hs, rfl⟩
  cases hsways with
  | spares hspares => exact not_old (hspares.calls K.client ▸ hm)
  | starts id hstroke =>
    have hne : K ≠ (x.system.newCall id).2 := by
      rintro rfl
      exact System.not_over_newCall id h
    rw [hstroke.others K.client call (by rwa [same]), (System.newCall_parts x.system id _).1] at hm
    exact not_old hm
  | resumes K' old hm' hr hc hs' hstroke =>
    have hne : K ≠ K' := by
      rintro rfl
      exact h.2 old.wait ⟨old, hc, hs', rfl⟩
    exact not_old ((hstroke.others K.client call (by rwa [same])).mp hm)
  | drops task name K' reading old hm' hf hc ht =>
    rw [ht, (System.heeds_retire x.system K' old.kind).calls] at hm
    exact not_old (System.mem_calls_withdraw.mp hm).1

/-- Whatever has ended after a move and is over before it has ended before it. -/
theorem mem_finished_of_over (hv : x.Valid) (ha : x.system.Attended none stray)
    (h : x.system.Over K) {m : Move} {f : Finished} (hf : f ∈ (x.make m).system.finished)
    (hK : f.call = K) : f ∈ x.system.finished := by
  obtain ⟨posted, outcome, rfl⟩ | hsame | ⟨g, hg, hends, -⟩ := finished_make hv ha m
  · cases hf
  · rwa [hsame] at hf
  · rw [hg] at hf
    rcases List.mem_append.mp hf with hf | hf
    · exact hf
    · rw [← List.mem_singleton.mp hf, hK] at hends
      exact absurd h (hends.not_over hv ha)

theorem spent_make (hv : x.Valid) (ha : x.system.Attended none stray) (h : x.system.Spent)
    (m : Move) : (x.make m).system.Spent := by
  intro f hf
  obtain ⟨posted, outcome, rfl⟩ | hsame | ⟨g, hg, -, hover⟩ := finished_make hv ha m
  · cases hf
  · rw [hsame] at hf
    exact over_make hv ha (h f hf) m
  · rw [hg] at hf
    rcases List.mem_append.mp hf with hf | hf
    · exact over_make hv ha (h f hf) m
    · rw [List.mem_singleton.mp hf]
      exact hover

/-- A call that is over does not end again. -/
theorem over_after (hv : x.Valid) (ha : x.system.Attended none stray) (h : x.system.Over K)
    (ms : List Move) :
    (x.after ms).system.Over K ∧
      ∀ f ∈ (x.after ms).system.finished, f.call = K → f ∈ x.system.finished := by
  induction ms generalizing x stray with
  | nil => exact ⟨h, fun f hf _ => hf⟩
  | cons m rest ih =>
    obtain ⟨hover, hold⟩ := ih (hv.make m) (attended_make hv ha m) (over_make hv ha h m)
    exact ⟨hover, fun f hf hK => mem_finished_of_over hv ha h (hold f hf hK) hK⟩

/-! ### Calls that wait -/

/-- A call that does not wait for its turn goes on waiting for the same thing, if it does. -/
theorem wait_make (hv : x.Valid) (ha : x.system.Attended none stray)
    (hw : x.system.WaitsFor K wait) (hne : wait ≠ .turn) {m : Move} {wait' : Wait}
    (hw' : (x.make m).system.WaitsFor K wait') : wait' = wait := by
  obtain ⟨call, hm, hs, rfl⟩ := hw'
  have same : (⟨K.client, call.serial⟩ : CallId) = K := by rw [hs]
  -- a call that was pending before waits for what it waited for
  have of_old : call ∈ (x.system.client K.client).calls → call.wait = wait := fun hold =>
    wait_unique ha hw ⟨call, hold, hs, rfl⟩
  cases sways_make hv ha m with
  | spares h => exact of_old (h.calls K.client ▸ hm)
  | starts id h =>
    have hnew : K ≠ (x.system.newCall id).2 := by
      rintro rfl
      exact not_waitsFor_newCall ha rfl hw
    rw [h.others K.client call (by rwa [same]), (System.newCall_parts x.system id _).1] at hm
    exact of_old hm
  | resumes K' old hm' hr hc hs' h =>
    by_cases hK : K = K'
    · subst hK
      have hold : old.wait = wait := wait_unique ha hw ⟨old, hc, hs', rfl⟩
      rcases h.waits call hm hs with he | ⟨hturn, -⟩
      · exact he.trans hold
      · exact absurd (hold.symm.trans hturn) hne
    · exact of_old ((h.others K.client call (by rwa [same])).mp hm)
  | drops task name K' reading old hm' hf hc ht =>
    rw [ht, (System.heeds_retire x.system K' old.kind).calls] at hm
    exact of_old (System.mem_calls_withdraw.mp hm).1

/-- A call that waits in a session has failed, or goes on waiting, after a move; or it has been
dropped. -/
theorem fails_make (hv : x.Valid) (ha : x.system.Attended none stray) (hs : x.system.Spent)
    (hw : x.system.WaitsFor K wait) (hc : wait.cancels? = some (token, operation))
    (hop : operation ≠ .openStream) (m : Move) :
    (x.make m).system.WaitsFor K wait ∨ (x.make m).system.Over K ∧
      ∀ f ∈ (x.make m).system.finished, f.call = K →
        ∃ error, f.result = .failed error ∧ error.isLapse = true := by
  by_cases hstill : (x.make m).system.WaitsFor K wait
  · exact .inl hstill
  have hmade : K.serial < (x.system.client K.client).made := by
    obtain ⟨call, hm, hser, -⟩ := hw
    exact hser ▸ ha.made K.client call hm
  refine .inr ⟨⟨Nat.lt_of_lt_of_le hmade ((sways_make hv ha m).made_le K.client),
    fun wait' hw' => ?_⟩, fun f hf hK => ?_⟩
  -- A call may come to wait for something else only after it has waited in line.
  · have hne : wait ≠ .turn := by
      rintro rfl
      cases hc
    exact hstill (wait_make hv ha hw hne hw' ▸ hw')
  · obtain ⟨posted, outcome, rfl⟩ | hsame | ⟨g, hg, hends, -⟩ := finished_make hv ha m
    · cases hf
    · rw [hsame] at hf
      exact absurd hK (hs.not_mem hw hf)
    · rw [hg] at hf
      rcases List.mem_append.mp hf with hf | hf
      · exact absurd hK (hs.not_mem hw hf)
      · obtain rfl := List.mem_singleton.mp hf
        rw [hK] at hends
        cases hends with
        | starts name request hcall =>
          rw [(stroke_start hv ha hcall name).1] at hmade
          exact absurd hmade (Nat.lt_irrefl _)
        | resumes wait' hr hw' =>
          have he : (x.make .poll).system = x.system.dequeue.resume K := poll_of_resume hr
          rw [he] at hg hstill
          obtain ⟨hsame, -⟩ | ⟨error, u, hlapses, hu, ht⟩ := System.resume_lapses ha hw hc hop
          · exact absurd (by rw [hsame]; exact hw) hstill
          · obtain ⟨cursor, hfin⟩ := hu.finished
            have hfin' : (x.system.dequeue.resume K).finished =
                x.system.finished ++ [⟨K, .failed error, cursor⟩] := by
              obtain ht | ⟨-, ht⟩ := ht
              · rw [ht, hfin]
              · rw [ht, System.finished_closeSession, hfin]
            rw [hg, List.append_cancel_left_eq] at hfin'
            obtain rfl := List.singleton_inj.mp hfin'
            exact ⟨error, rfl, by cases hlapses <;> rfl⟩

/-- A call that waits in a session ends only by being cancelled or by running out of time. -/
theorem fails_after (hv : x.Valid) (ha : x.system.Attended none stray) (hs : x.system.Spent)
    (hw : x.system.WaitsFor K wait) (hc : wait.cancels? = some (token, operation))
    (hop : operation ≠ .openStream) (ms : List Move) :
    ∀ f ∈ (x.after ms).system.finished, f.call = K →
      ∃ error, f.result = .failed error ∧ error.isLapse = true := by
  induction ms generalizing x stray with
  | nil => exact fun f hf hK => absurd hK (hs.not_mem hw hf)
  | cons m rest ih =>
    have hv' := hv.make m
    have ha' := attended_make hv ha m
    obtain hw' | ⟨hover, hfails⟩ := fails_make hv ha hs hw hc hop m
    · exact ih hv' ha' (spent_make hv ha hs m) hw'
    · intro f hf hK
      exact hfails f ((over_after hv' ha' hover rest).2 f hf hK) hK

/-- What a call waits for that does not open the session. -/
theorem Began.cancels {name : String} {request : Request}
    (h : x.Began (.start name request) K wait) (ho : request.opens = false) :
    ∃ token operation, wait.cancels? = some (token, operation) ∧ operation ≠ .openStream := by
  cases h with
  | starts _ _ operation _ _ hK hop hb =>
    have hne : operation ≠ .openStream := by
      rintro rfl
      cases request with
      | openSession client => cases ho
      | _ => cases hop
    cases hb with
    | turn => exact absurd rfl hne
    | asked _ token hi => exact ⟨token, operation, rfl, hne⟩
    | reads token query reply hr hh => exact ⟨token, .read, rfl, by simp⟩
  | reads _ stream cursor _ hr hh => exact ⟨cursor.token, .read, rfl, by simp⟩

/-- A call that has ended in the move that started it does not end otherwise. -/
theorem eq_of_ended_at_once (hv : x.Valid) (ha : x.system.Attended none stray) (hs : x.system.Spent)
    {request : Request} (hK : x.callOf? request = some K) {name : String} {g : Finished}
    (hg : (x.make (.start name request)).system.finished = x.system.finished ++ [g]) (ms : List Move)
    {f : Finished} (hf : f ∈ ((x.make (.start name request)).after ms).system.finished)
    (hcall : f.call = K) : f = g := by
  obtain ⟨g', hg', -, hover⟩ | ⟨hsame, -⟩ := start_outcome hv ha hK name
  · have hin := (over_after (hv.make _) (attended_make hv ha _) hover ms).2 f hf hcall
    rw [hg] at hin
    rcases List.mem_append.mp hin with hin | hin
    · exact absurd (hcall ▸ hs f hin) (not_over_of_callOf? hv ha hK)
    · exact List.mem_singleton.mp hin
  · rw [hg] at hsame
    exact absurd (List.append_right_eq_self.mp hsame) (List.cons_ne_nil _ _)

/-- A call that does not open the session and returns has ended in the move that started it. -/
theorem returned_at_once (hv : x.Valid) (ha : x.system.Attended none stray) (hs : x.system.Spent)
    {request : Request} (hK : x.callOf? request = some K) (ho : request.opens = false)
    (name : String) (ms : List Move) {f : Finished} {value : CallValue}
    (hf : f ∈ ((x.make (.start name request)).after ms).system.finished) (hcall : f.call = K)
    (hr : f.result = .returned value) :
    (x.make (.start name request)).system.finished = x.system.finished ++ [f] := by
  obtain ⟨g, hg, -, -⟩ | ⟨-, wait, hw, hb⟩ := start_outcome hv ha hK name
  · rw [eq_of_ended_at_once hv ha hs hK hg ms hf hcall, hg]
  · -- the call waits, and so it can only fail
    obtain ⟨token, operation, hc, hop⟩ := hb.cancels ho
    obtain ⟨error, he, -⟩ := fails_after (hv.make _) (attended_make hv ha _) (spent_make hv ha hs _) hw hc
      hop ms f hf hcall
    rw [he] at hr
    cases hr

/-! ### What holds after every run -/

/-- The parts fit together, no pending call is overlooked, and whatever has ended is over. -/
structure Orderly (x : Scenario) : Prop where
  valid : x.Valid
  attended : ∃ stray, x.system.Attended none stray
  spent : x.system.Spent

theorem Orderly.make (h : x.Orderly) (m : Move) : (x.make m).Orderly := by
  obtain ⟨stray, ha⟩ := h.attended
  exact ⟨h.valid.make m, ⟨_, attended_make h.valid ha m⟩, spent_make h.valid ha h.spent m⟩

theorem Orderly.after (h : x.Orderly) (ms : List Move) : (x.after ms).Orderly := by
  induction ms generalizing x with
  | nil => exact h
  | cons m rest ih => exact ih (h.make m)

theorem orderly_after (devices : List String) (confs : List Pipeconf)
    (bindings : List (String × PipeconfId)) (config : ConfigChange) (capacity : Nat)
    (ms : List Move) : ((initial devices confs bindings config capacity).after ms).Orderly :=
  Orderly.after ⟨valid_initial devices confs bindings config capacity, ⟨_, attended_blank rfl rfl⟩,
    fun _ hf => by cases hf⟩ ms

/-! ### What stays along a run -/

/-- A client that is there keeps its key. -/
theorem key_make (hv : x.Valid) {id : ClientId} (hk : x.system.Knows id) (m : Move) :
    (x.make m).system.Knows id ∧ ((x.make m).system.client id).key = (x.system.client id).key := by
  by_cases hm : ∃ posted outcome, m = .observe posted outcome
  · obtain ⟨posted, outcome, rfl⟩ := hm
    exact ⟨hk, rfl⟩
  · obtain ⟨is, -, hl⟩ := leads_make hv (m := m) fun posted outcome he => hm ⟨posted, outcome, he⟩
    exact ⟨hl.knows hv.system hk, hl.key hv.system hk⟩

theorem key_after (ho : x.Orderly) {id : ClientId} (hk : x.system.Knows id) (ms : List Move) :
    (x.after ms).system.Knows id ∧ ((x.after ms).system.client id).key = (x.system.client id).key := by
  induction ms generalizing x with
  | nil => exact ⟨hk, rfl⟩
  | cons m rest ih =>
    obtain ⟨hk', hkey⟩ := key_make ho.valid hk m
    obtain ⟨hk'', hkey'⟩ := ih (ho.make m) hk'
    exact ⟨hk'', hkey'.trans hkey⟩

/-- A scope that has ended does not come back. -/
theorem cancelled_after (ho : x.Orderly) {id : ClientId} {token : Token}
    (h : (x.system.client id).scope.isCancelled token = true) (ms : List Move) :
    ((x.after ms).system.client id).scope.isCancelled token = true := by
  induction ms generalizing x with
  | nil => exact h
  | cons m rest ih =>
    obtain ⟨stray, ha⟩ := ho.attended
    exact ih (ho.make m) ((sways_make ho.valid ha m).cancelled id token h)

end Scenario

end P4Control
