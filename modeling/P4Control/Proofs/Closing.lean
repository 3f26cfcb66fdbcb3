import P4Control.Proofs.Opening

namespace P4Control

/-!
# What a close does to the calls in flight

A close cancels the scope in place.  The calls that wait in it are told so as soon as the tasks run.
A call that is in line to open the session waits in no scope: it goes on, and the session may open again
on its behalf.

* `Wait.cancels?` — the scope in which a call waits, and the operation it is about.
* `System.Doomed` — a call that waits in a scope that has been cancelled.
* `settle_cancels` — it is told so once all tasks have run.
* `opened_by`, `reopened_by` — a session opens only on behalf of a call that opens it.
* `close_cancels` — what a close does.
* `close_overtaken` — a call in line may open the session after the close.
-/

/-- The scope in which a call waits, and the operation that it reports as cancelled when the scope
ends.  The turn to open the session is waited for in no scope. -/
def Wait.cancels? : Wait → Option (Token × Operation)
  | .turn => none
  | .answer operation token _ _ => some (token, operation)
  | .chunk token => some (token, .read)

theorem Wait.token?_of_cancels? {wait : Wait} {token : Token} {operation : Operation}
    (h : wait.cancels? = some (token, operation)) : wait.token? = some token := by
  cases wait <;> cases h <;> rfl

theorem Wait.opens_of_cancels? {wait : Wait} {token : Token} {operation : Operation}
    (h : wait.cancels? = some (token, operation)) (hop : operation ≠ .openStream) :
    wait.opens = false := by
  cases wait with
  | turn => cases h
  | answer operation' token' limit deadline =>
    cases h
    exact decide_eq_false hop
  | chunk token' => rfl

/-- A call that does not open the session waits in an open one. -/
theorem Wait.cancels?_of_opens {wait : Wait} (h : wait.opens = false) :
    ∃ token operation, wait.cancels? = some (token, operation) ∧ operation ≠ .openStream := by
  cases wait with
  | turn => cases h
  | answer operation token limit deadline =>
    exact ⟨token, operation, rfl, by simpa [Wait.opens] using h⟩
  | chunk token => exact ⟨token, .read, rfl, by decide⟩

namespace System

variable {s t : System} {K : CallId} {error : ClientError} {stray : ClientId → Token → Prop}

/-- The call waits in a scope that has been cancelled, and will be told so by `error`. -/
def Doomed (s : System) (K : CallId) (error : ClientError) : Prop :=
  ∃ wait token operation, s.WaitsFor K wait ∧ wait.cancels? = some (token, operation) ∧
    (s.client K.client).scope.isCancelled token = true ∧
    error = .cancelled (s.client K.client).key.device operation.text

/-- Among what has ended from `s` to `t`, there is the call, with the given error. -/
def Fails (s : System) (K : CallId) (error : ClientError) (t : System) : Prop :=
  ∃ fs, t.finished = s.finished ++ fs ∧ ∃ f ∈ fs, f.call = K ∧ f.result = .failed error

/-- A call in a cancelled scope fails as soon as it runs. -/
theorem resume_doomed (hs : ((s.client K.client).calls.map (·.serial)).Nodup)
    (h : s.Doomed K error) : s.Fails K error (s.resume K) := by
  obtain ⟨wait, token, operation, ⟨call, hm, hser, rfl⟩, hw, hc, rfl⟩ := h
  unfold resume
  simp only [call?_eq_some hs hm hser]
  -- whoever waits in a scope is told first of all that it has ended
  cases hwait : call.wait with
  | turn =>
    rw [hwait] at hw
    cases hw
  | answer operation token limit deadline =>
    rw [hwait] at hw
    cases hw
    dsimp only
    rw [if_pos hc]
    exact ⟨_, finished_failCall s K operation token .cancelled, _, List.mem_singleton_self _, rfl, rfl⟩
  | chunk token =>
    rw [hwait] at hw
    cases hw
    dsimp only
    rw [if_pos hc]
    cases call.kind with
    | request =>
      exact ⟨_, finished_complete s K _, _, List.mem_singleton_self _, rfl, rfl⟩
    | next =>
      exact ⟨_, finished_retire _ K .next, _, List.mem_singleton_self _, rfl, rfl⟩

/-- Nothing but its own turn to run changes what such a call waits for. -/
theorem Doomed.mono (h : s.Doomed K error)
    (hw : ∀ wait, s.WaitsFor K wait → t.WaitsFor K wait)
    (hc : ∀ id token, (s.client id).scope.isCancelled token = true →
      (t.client id).scope.isCancelled token = true)
    (hk : (t.client K.client).key = (s.client K.client).key) : t.Doomed K error := by
  obtain ⟨wait, token, operation, hwait, hcan, hcancelled, rfl⟩ := h
  exact ⟨wait, token, operation, hw wait hwait, hcan, hc _ _ hcancelled, by rw [hk]⟩

/-- The client of a pending call has been created. -/
theorem knows_of_waitsFor {wait : Wait} (h : s.WaitsFor K wait) : s.Knows K.client := by
  obtain ⟨call, hm, -⟩ := h
  by_cases hk : s.Knows K.client
  · exact hk
  · rw [client_eq_default hk] at hm
    cases hm

theorem scope_closeSession (s : System) (id : ClientId) :
    ((s.closeSession id).client id).scope = (s.client id).scope.close.2 := by
  have h := congrArg Standing.scope (standing_closeSession (s := s) id id)
  rwa [if_pos rfl] at h

/-- When all tasks wait, no pending call is left in a scope that has been cancelled. -/
theorem Attended.not_doomed (h : s.Attended none stray) (hr : s.ready = []) : ¬ s.Doomed K error := by
  rintro ⟨wait, token, operation, hw, hcan, hc, -⟩
  have ha := h.of_waitsFor hw
  have hin : .resume K ∈ s.ready := by
    cases wait with
    | turn => cases hcan
    | answer operation' token' limit deadline =>
      cases hcan
      exact ha.1 hc
    | chunk token' =>
      cases hcan
      exact ha hc
  rw [hr] at hin
  cases hin

end System

namespace Scenario

variable {x : Scenario} {m : Move} {K : CallId} {error : ClientError}
  {stray : ClientId → Token → Prop}

/-! ### What a move does to a waiting call -/

theorem Sways.cancelled {t : System} (h : x.Sways m t) (id : ClientId) (token : Token)
    (hc : (x.system.client id).scope.isCancelled token = true) :
    (t.client id).scope.isCancelled token = true := by
  cases h with
  | spares h => exact h.cancelled id token hc
  | starts id' h =>
    refine h.cancelled id token ?_
    rw [(System.newCall_parts x.system id' id).2.2.1]
    exact hc
  | resumes K call hm hr hcall hs h => exact h.cancelled id token hc
  | drops task name K reading call hm hf hcall ht =>
    have hw : ((x.system.withdraw K).client id).scope.isCancelled token = true := by
      rw [(System.withdraw_parts x.system K id).2.2.2]
      exact hc
    rw [ht]
    exact (System.heeds_retire x.system K call.kind).cancelled id token hw

/-- The calls of a client are numbered on. -/
theorem Sways.made_le {t : System} (h : x.Sways m t) (id : ClientId) :
    (x.system.client id).made ≤ (t.client id).made := by
  cases h with
  | spares h => exact Nat.le_of_eq (h.made id).symm
  | starts id' h => exact Nat.le_trans (System.newCall_parts x.system id' id).2.2.2.2.2 (h.made id)
  | resumes K call hm hr hcall hs h => exact h.made id
  | drops task name K reading call hm hf hcall ht =>
    have hw := (System.withdraw_parts x.system K id).2.2.1
    exact Nat.le_of_eq (by rw [ht, (System.heeds_retire x.system K call.kind).made, hw])

/-- A call that is neither run nor dropped goes on waiting. -/
theorem Sways.waits {t : System} (h : x.Sways m t) (ha : x.system.Attended none stray) {wait : Wait}
    (hw : x.system.WaitsFor K wait) (hd : ∀ task, m ≠ .act (.abort task))
    (hr : x.system.ready.head? ≠ some (.resume K)) : t.WaitsFor K wait := by
  obtain ⟨call, hm, hs, hwait⟩ := hw
  have same : (⟨K.client, call.serial⟩ : CallId) = K := by rw [hs]
  cases h with
  | spares h => exact ⟨call, by rwa [h.calls], hs, hwait⟩
  | starts id h =>
    -- a pending call has a number already, and the one that starts gets the next
    have hne : (⟨K.client, call.serial⟩ : CallId) ≠ (x.system.newCall id).2 := by
      intro he
      have hlt := ha.made K.client call hm
      rw [show K.client = id from congrArg CallId.client he,
        show call.serial = (x.system.client id).made from congrArg CallId.serial he] at hlt
      exact Nat.lt_irrefl _ hlt
    refine ⟨call, (h.others K.client call hne).mpr ?_, hs, hwait⟩
    rw [(System.newCall_parts x.system id K.client).1]
    exact hm
  | resumes K' old hpoll hready hcall hs' h =>
    refine ⟨call, (h.others K.client call ?_).mpr hm, hs, hwait⟩
    rw [same]
    rintro rfl
    exact hr hready
  | drops task name K' reading old hact hf hcall ht => exact absurd hact (hd task)

/-- Whoever comes into line in a move is a new call. -/
theorem Began.made_le (h : x.Began m K .turn) : (x.system.client K.client).made ≤ K.serial :=
  Nat.le_of_eq (congrArg CallId.serial h.opens.2).symm

/-! ### Until all tasks wait -/

/-- A step of a task tells a call in a cancelled scope, or leaves it waiting. -/
theorem doomed_poll (hv : x.Valid) (ha : x.system.Attended none stray)
    (h : x.system.Doomed K error) :
    x.system.Fails K error x.system.poll ∨ x.system.poll.Doomed K error := by
  by_cases hr : x.system.ready.head? = some (.resume K)
  · rw [poll_of_resume hr]
    exact .inl (System.resume_doomed (s := x.system.dequeue) (ha.serials K.client) h)
  · have hsways := sways_poll hv ha
    obtain ⟨wait, -, -, hw, -⟩ := id h
    obtain ⟨is, -, hl⟩ := System.leads_poll hv.system
    exact .inr (h.mono (fun wait hw => hsways.waits ha hw (by simp) hr) hsways.cancelled
      (hl.key hv.system (System.knows_of_waitsFor hw)))

theorem finished_pollFor (hv : x.Valid) (n : Nat) :
    ∃ fs, (System.pollFor n x.system).finished = x.system.finished ++ fs := by
  induction n generalizing x with
  | zero => exact ⟨[], (List.append_nil _).symm⟩
  | succ n ih =>
    unfold System.pollFor
    split
    · exact ⟨[], (List.append_nil _).symm⟩
    · obtain ⟨is, -, hl⟩ := System.leads_poll hv.system
      obtain ⟨fs, hf⟩ := ih (x := x.make .poll) (hv.make .poll)
      refine ⟨is.flatMap Incident.results ++ fs, ?_⟩
      rw [← List.append_assoc, ← hl.finished]
      exact hf

theorem doomed_pollFor (hv : x.Valid) (ha : x.system.Attended none stray)
    (h : x.system.Doomed K error) (n : Nat) :
    x.system.Fails K error (System.pollFor n x.system) ∨
      (System.pollFor n x.system).Doomed K error := by
  induction n generalizing x stray with
  | zero => exact .inr h
  | succ n ih =>
    unfold System.pollFor
    split
    · exact .inr h
    · obtain ⟨is, -, hl⟩ := System.leads_poll hv.system
      have hvp := hv.make .poll
      -- what has ended in a step stays among what has ended
      rcases doomed_poll hv ha h with ⟨fs, hf, f, hm, hK⟩ | hd
      · obtain ⟨gs, hg⟩ := finished_pollFor (x := x.make .poll) hvp n
        refine .inl ⟨fs ++ gs, ?_, f, List.mem_append_left _ hm, hK⟩
        rw [← List.append_assoc, ← hf]
        exact hg
      · refine (ih (x := x.make .poll) hvp (attended_make hv ha .poll) hd).imp_left ?_
        rintro ⟨gs, hg, f, hm, hK⟩
        refine ⟨is.flatMap Incident.results ++ gs, ?_, f, List.mem_append_right _ hm, hK⟩
        rw [← List.append_assoc, ← hl.finished]
        exact hg

/-- Once all tasks wait, a call in a cancelled scope has been told. -/
theorem settle_cancels (hv : x.Valid) (ha : x.system.Attended none stray)
    (h : x.system.Doomed K error) : x.system.Fails K error x.system.settle := by
  refine (doomed_pollFor hv ha h x.system.enough).resolve_right fun hd => ?_
  obtain ⟨ms, hms⟩ := x.pollFor_eq_after x.system.enough
  have hsettled := attended_from hv ha ms
  rw [← hms] at hsettled
  exact hsettled.not_doomed (System.settle_ready x.system) hd

/-! ### The close -/

/-- A close tells everyone, and leaves no scope in place. -/
theorem make_closes {action : Action} {id : ClientId} (hc : x.closes action id = true) :
    System.Heeds x.system (x.make (.act action)).system ∧
      ((x.make (.act action)).system.client id).scope.current = none ∧
      ∀ token, (x.system.client id).scope.current = some token →
        ((x.make (.act action)).system.client id).scope.isCancelled token = true := by
  -- a close, and then perhaps another one because nobody holds the client any more
  have closed : ∀ s : System, (s.client id).scope = (x.system.client id).scope →
      ((s.closeSession id).client id).scope.current = none ∧
        ∀ token, (x.system.client id).scope.current = some token →
          ((s.closeSession id).client id).scope.isCancelled token = true := by
    intro s hs
    have he : ((s.closeSession id).client id).scope = (s.client id).scope.close.2 :=
      System.scope_closeSession s id
    rw [he, hs]
    exact ⟨Scope.current_close _, fun token ht => (Scope.isCancelled_close _ token).mpr (.inr ht)⟩
  cases action with
  | close client =>
    have hf : x.system.handles.find? client = some id := by simpa [closes] using hc
    have he : (x.make (.act (.close client))).system = x.system.closeSession id := by
      simp only [make, act, onClient, hf]
      rfl
    rw [he]
    exact ⟨System.heeds_closeSession id, closed x.system rfl⟩
  | remove device =>
    have hf : x.system.registered? device = some id := by
      show x.system.registry.find? device = some id
      simpa [closes] using hc
    have he : (x.make (.act (.remove device))).system =
        (({ x.system with
          registry := x.system.registry.erase device }).closeSession id).release id := by
      simp only [make, act, System.removeClient, hf]
      rfl
    have hh : System.Heeds x.system (x.make (.act (.remove device))).system :=
      System.heeds_removeClient device
    refine ⟨hh, ?_⟩
    rw [he]
    have hclosed := closed { x.system with registry := x.system.registry.erase device } rfl
    generalize ({ x.system with registry := x.system.registry.erase device } : System).closeSession
      id = t at hclosed
    refine ⟨?_, fun token ht => (System.heeds_release id).cancelled id token (hclosed.2 token ht)⟩
    unfold System.release
    split
    · exact hclosed.1
    · rw [System.scope_closeSession]
      exact Scope.current_close _
  | _ => cases hc

/-- The calls that wait in the scope in place are in a cancelled scope then. -/
theorem doomed_close (hv : x.Valid) {action : Action} (hc : x.closes action K.client = true)
    {wait : Wait} (hw : x.system.WaitsFor K wait) {token : Token} {operation : Operation}
    (hcan : wait.cancels? = some (token, operation)) :
    (x.make (.act action)).system.Doomed K
      (.cancelled (x.system.client K.client).key.device operation.text) := by
  obtain ⟨hh, -, hcancelled⟩ := make_closes hc
  obtain ⟨is, -, hl⟩ := leads_make hv (m := .act action) (by simp)
  have hkey := hl.key hv.system (System.knows_of_waitsFor hw)
  obtain ⟨call, hm, hs, rfl⟩ := hw
  refine ⟨call.wait, token, operation, ⟨call, by rwa [hh.calls], hs, rfl⟩, hcan, ?_, by rw [hkey]⟩
  cases hold : (x.system.client K.client).scope.isCancelled token with
  | true => exact hh.cancelled _ _ hold
  | false =>
    have hbegun := hv.system.waits K.client call hm token (Wait.token?_of_cancels? hcan)
    exact hcancelled token ((hv.system.scopes K.client).current_eq_some hbegun hold)

/-! ### The next session -/

/-- Only the opening of a session makes it open. -/
theorem opened_of_affect {i : Incident} {id : ClientId} {c : Standing}
    (hc : c.scope.isOpen = false) (ho : (i.affect id c).scope.isOpen = true) :
    ∃ token afterFailure st, i = .opened id token afterFailure st := by
  have close : c.scope.close.2.isOpen = false := by
    unfold Scope.close
    split
    · rfl
    · exact hc
  have shut : (i.affect id c).scope.isOpen = false →
      ∃ token afterFailure st, i = .opened id token afterFailure st :=
    fun h => by rw [h] at ho; cases ho
  -- Every other incident leaves the scope or puts one in its place that is not open.
  cases i with
  | opened id' token afterFailure st =>
    by_cases he : id' = id
    · exact ⟨token, afterFailure, st, by rw [he]⟩
    · exact shut (by rwa [Incident.affect, if_neg he])
  | closed id' wasOpen | released id' wasOpen =>
    refine shut ?_
    rw [Incident.affect]
    split
    · exact close
    · exact hc
  | heard id' st frame =>
    refine shut ?_
    cases frame with
    | arbitration update =>
      rw [Incident.affect]
      split <;> exact hc
    | error e => exact hc
    | packet wire => exact hc
  | created | began | lost | claimed =>
    refine shut ?_
    rw [Incident.affect]
    split <;> first | exact hc | rfl
  | _ => exact shut hc

theorem opened_of_foldl {is : List Incident} {id : ClientId} {c : Standing}
    (hc : c.scope.isOpen = false)
    (ho : (is.foldl (Incident.affect id) c).scope.isOpen = true) :
    ∃ token afterFailure st, .opened id token afterFailure st ∈ is := by
  induction is generalizing c with
  | nil =>
    rw [List.foldl_nil, hc] at ho
    cases ho
  | cons i rest ih =>
    cases hi : (i.affect id c).scope.isOpen with
    | true =>
      obtain ⟨token, afterFailure, st, rfl⟩ := opened_of_affect hc hi
      exact ⟨token, afterFailure, st, List.mem_cons_self⟩
    | false =>
      obtain ⟨token, afterFailure, st, hm⟩ := ih hi ho
      exact ⟨token, afterFailure, st, List.mem_cons_of_mem _ hm⟩

/-- A call that opens the session of its client in one go returns. -/
theorem opened_of_course {id id' : ClientId} {opening : Bool} {is rest : List Incident}
    {t : System} {token : Token} {afterFailure : Bool} {st : StreamId}
    (hc : Course id' opening is) (hp : System.Parting id' t rest)
    (hm : .opened id token afterFailure st ∈ is ++ rest) :
    opening = true ∧ ∃ f, (is ++ rest).flatMap Incident.results = [f] ∧ f.call.client = id ∧
      f.result = .returned .done := by
  have hrest : rest.flatMap Incident.results = [] ∧ .opened id token afterFailure st ∉ rest := by
    cases hp <;> exact ⟨rfl, by simp⟩
  replace hm := (List.mem_append.mp hm).resolve_right hrest.2
  cases hc with
  | opens token' afterFailure' st' f ho hf hr =>
    refine ⟨ho, f, ?_, ?_, hr⟩
    · rw [List.flatMap_append, hrest.1, List.append_nil]
      rfl
    · simp only [List.mem_cons, Incident.opened.injEq, reduceCtorEq, List.not_mem_nil, or_false] at hm
      rw [hf, hm.1]
  | ends token' f hf =>
    cases hloss : f.result.loss opening <;> simp [hloss, lostBy] at hm
  | _ => simp at hm

/-- A session opens on behalf of a call that opens it and returns: a new call, or one that has been in
line. -/
theorem opened_by (hv : x.Valid) (ha : x.system.Attended none stray) {id : ClientId}
    (hc : (x.system.client id).scope.isOpen = false)
    (ho : ((x.make m).system.client id).scope.isOpen = true) :
    ∃ K, K.client = id ∧ x.Opens m K ∧
      ((x.system.client id).made ≤ K.serial ∨ x.system.WaitsFor K .turn) := by
  have hm : ∀ posted outcome, m ≠ .observe posted outcome := by
    rintro posted outcome rfl
    rw [show ((x.make (.observe posted outcome)).system.client id).scope =
      (x.system.client id).scope from rfl, hc] at ho
    cases ho
  -- one of the incidents of the move opens the session, and only the course of a call has such
  obtain ⟨is, hmake, hl⟩ := leads_make hv hm
  have hs : ((x.make m).system.client id).standing =
    is.foldl (Incident.affect id) (x.system.client id).standing := hl.standing hv.system id
  obtain ⟨token, afterFailure, st, hin⟩ := opened_of_foldl (c := (x.system.client id).standing) hc
    (by rw [← hs]; exact ho)
  cases hmake with
  | acts action front id' rest hf hg =>
    rcases List.mem_append.mp hin with hin | hin
    · exact (hf _ hin).elim
    · cases hg with
      | parts hn hp => cases hp <;> simp at hin
      | closes wasOpen hclose hp => cases hp <;> simp at hin
  | plays name request id' is rest hcourse hp =>
    obtain ⟨hopens, f, hf, hid, hr⟩ := opened_of_course hcourse hp hin
    have hfin := hl.finished
    rw [hf] at hfin
    cases request with
    | openSession client =>
      cases hclient : x.system.handles.find? client with
      | none =>
        have he : (x.make (.start name (.openSession client))).system = x.system := by
          simp only [make, start, onClient, hclient]
        exact (System.Returns.not_same ⟨f, hfin, rfl, hr⟩ (congrArg System.finished he)).elim
      | some id'' =>
        have he : (x.make (.start name (.openSession client))).system =
            (x.system.openSession id'').1 := by
          simp only [make, start, onClient, hclient, started]
        have hstroke := System.stroke_openSession hv.system ha id''
        rw [← he] at hstroke
        have hK : f.call = (x.system.newCall id'').2 := hstroke.call_of_finished hfin
        obtain rfl : id'' = id := by rw [← hid, hK]; rfl
        refine ⟨f.call, hid, ⟨.starts name client ?_ ?_, f, hfin, rfl, hr⟩, .inl ?_⟩
        · rw [hid]
          exact hclient
        · rw [hid]
          exact hK
        · rw [hK]
          exact Nat.le_refl _
    | _ => cases hopens
  | foreign name request hf => simp at hin
  | advances span => simp at hin
  | polls is hpolls =>
    cases hpolls with
    | resumes K is rest hready hcourse hp =>
      obtain ⟨hopens, f, hf, hid, hr⟩ := opened_of_course hcourse hp (by simpa using hin)
      have hfin := hl.finished
      rw [List.flatMap_cons, hf, show (Incident.idled (.resume K)).results = [] from rfl,
        List.nil_append] at hfin
      obtain ⟨call, hcall, -⟩ := System.call?_of_opens hopens
      obtain ⟨hmem, hser⟩ := System.mem_of_call? hcall
      have he := poll_of_resume hready
      have hstroke := System.stroke_resume hv.system ha hmem hser
      rw [← he] at hstroke
      obtain rfl : f.call = K := hstroke.call_of_finished hfin
      have hret : x.system.Returns f.call .done (x.make .poll).system := ⟨f, hfin, rfl, hr⟩
      refine ⟨f.call, hid, ⟨.resumes hready hopens, hret⟩, .inr ?_⟩
      rw [show (x.make .poll).system = x.system.dequeue.resume f.call from he] at hret
      exact (System.resume_returns hready hopens hret).1
    | _ => simp at hin

/-- Along a run, a session that is not open opens on behalf of a call that is made on the way, or is in
line before. -/
theorem reopened_by (hv : x.Valid) (ha : x.system.Attended none stray) {id : ClientId}
    (hc : (x.system.client id).scope.isOpen = false) (ns : List Move)
    (ho : ((x.after ns).system.client id).scope.isOpen = true) :
    ∃ ns₁ n ns₂ K, ns = ns₁ ++ n :: ns₂ ∧ K.client = id ∧ (x.after ns₁).Opens n K ∧
      ((x.system.client id).made ≤ K.serial ∨ x.system.WaitsFor K .turn) := by
  -- on the moves, up to the first one after which the session is open
  induction ns generalizing x stray with
  | nil =>
    rw [after_nil, hc] at ho
    cases ho
  | cons n rest ih =>
    cases hn : ((x.make n).system.client id).scope.isOpen with
    | true =>
      obtain ⟨K, hK, hopens, hnew⟩ := opened_by hv ha hc hn
      exact ⟨[], n, rest, K, rfl, hK, hopens, hnew⟩
    | false =>
      obtain ⟨ns₁, n', ns₂, K, rfl, hK, hopens, hnew⟩ :=
        ih (hv.make n) (attended_make hv ha n) hn ho
      have hsways := sways_make hv ha n
      refine ⟨n :: ns₁, n', ns₂, K, rfl, hK, hopens, ?_⟩
      rcases hnew with hmade | hturn
      · exact .inl (Nat.le_trans (hsways.made_le id) hmade)
      · rcases waitsFor_make hv ha hturn with hturn | hbegan
        · exact .inr hturn
        · exact .inl (hK ▸ hbegan.made_le)

/-- After a close, once all tasks wait, every call has been told that was pending in a scope.  The session
is not open, and does not open until a call returns that opens it: one that is made after the close, or
one that was in line to open the session then. -/
theorem close_cancels (devices : List String) (confs : List Pipeconf)
    (bindings : List (String × PipeconfId)) (config : ConfigChange) (capacity : Nat)
    (ms : List Move) (action : Action) (id : ClientId)
    (hc : ((initial devices confs bindings config capacity).after ms).closes action id = true) :
    let x := (initial devices confs bindings config capacity).after ms
    let y := x.make (.act action)
    (∀ K wait, K.client = id → x.system.WaitsFor K wait → wait ≠ .turn →
      ∃ token operation, wait.cancels? = some (token, operation) ∧
        y.system.Fails K (.cancelled (x.system.client id).key.device operation.text)
          y.system.settle) ∧
    (y.system.client id).scope.isOpen = false ∧
    ∀ ns, ((y.after ns).system.client id).scope.isOpen = true →
      ∃ ns₁ n ns₂ K, ns = ns₁ ++ n :: ns₂ ∧ K.client = id ∧ (y.after ns₁).Opens n K ∧
        ((x.system.client id).made ≤ K.serial ∨ x.system.WaitsFor K .turn) := by
  intro x y
  have hv : x.Valid := (valid_initial devices confs bindings config capacity).after ms
  have ha := attended_after devices confs bindings config capacity ms
  have hvy : y.Valid := hv.make (.act action)
  have hay := attended_make hv ha (.act action)
  obtain ⟨hh, hcur, -⟩ := make_closes hc
  have hclosed : (y.system.client id).scope.isOpen = false :=
    (hvy.system.scopes id).isOpen_eq_false ((hvy.system.scopes id).slot_eq_none hcur)
  refine ⟨?_, hclosed, fun ns ho => ?_⟩
  · rintro K wait rfl hw hne
    -- Only calls in line wait for something that no scope can cancel.
    obtain ⟨token, operation, hcan⟩ : ∃ token operation, wait.cancels? = some (token, operation) := by
      cases wait with
      | turn => exact absurd rfl hne
      | answer operation token limit deadline => exact ⟨token, operation, rfl⟩
      | chunk token => exact ⟨token, .read, rfl⟩
    exact ⟨token, operation, hcan, settle_cancels hvy hay (doomed_close hv hc hw hcan)⟩
  · obtain ⟨ns₁, n, ns₂, K, hns, hK, hopens, hnew⟩ := reopened_by hvy hay hclosed ns ho
    refine ⟨ns₁, n, ns₂, K, hns, hK, hopens, ?_⟩
    rw [hh.made] at hnew
    refine hnew.imp_right ?_
    rintro ⟨call, hm, hs, hw⟩
    exact ⟨call, by rwa [hh.calls] at hm, hs, hw⟩

/-- A client sets up a stream, and another call of it is in line to open the session. -/
def queueing : List Move :=
  [.act (.new ⟨⟨"leaf"⟩, 1⟩ "leaf" none),
   .act (.steer "leaf" (.queueFault .streamChannel .stall)),
   .start "first" (.openSession "leaf"), .start "second" (.openSession "leaf")]

/-- After a close, the call that sets up the stream is told. -/
theorem close_cancels_queueing :
    let x := (initial ["leaf"] [] [] {} 16).after queueing
    let y := x.make (.act (.close "leaf"))
    x.closes (.close "leaf") ⟨⟨"leaf"⟩, 0⟩ = true ∧
      y.system.Fails ⟨⟨⟨"leaf"⟩, 0⟩, 0⟩
        (.cancelled (x.system.client ⟨⟨"leaf"⟩, 0⟩).key.device Operation.openStream.text)
        y.system.settle := by
  intro x y
  have hc : x.closes (.close "leaf") ⟨⟨"leaf"⟩, 0⟩ = true := by decide +kernel
  have hw : x.system.WaitsFor ⟨⟨⟨"leaf"⟩, 0⟩, 0⟩
      (.answer .openStream 0 (.ofSeconds 10) (.ofSeconds 10)) := by decide +kernel
  obtain ⟨token, operation, hcan, hfails⟩ :=
    (close_cancels ["leaf"] [] [] {} 16 queueing _ _ hc).1 _ _ rfl hw (by simp)
  cases hcan
  exact ⟨hc, hfails⟩

/-- The call in line is not: it returns, and the session is open in the end. -/
theorem close_overtaken :
    let x := (initial ["leaf"] [] [] {} 16).after queueing
    let y := x.make (.act (.close "leaf"))
    x.closes (.close "leaf") ⟨⟨"leaf"⟩, 0⟩ = true ∧
      x.system.WaitsFor ⟨⟨⟨"leaf"⟩, 0⟩, 1⟩ .turn ∧
      (⟨⟨⟨⟨"leaf"⟩, 0⟩, 1⟩, .returned .done, none⟩ : Finished) ∈ y.system.settle.finished ∧
      (y.system.settle.client ⟨⟨"leaf"⟩, 0⟩).scope.isOpen = true := by
  decide +kernel

end Scenario

end P4Control
