import P4Control.Proofs.Chunks
import P4Control.Proofs.Outcomes

namespace P4Control

/-!
# Read streams in a run

A caller takes from a read stream now and then, and anything may happen in between.  Whatever is taken
depends on the stream itself, and on whether the session of the read has ended by then.

* `ReadStep.result?` — how a call ends that takes from a stream.
* `System.Awaits` — a call that takes from a stream and waits for its next chunk.
* `awaits_after` — it ends only with the session.
* `Scenario.Draws` — what a caller gets out of a stream in a run.
* `take_cases` — what one call gets.
-/

/-- How a call ends that takes from a read stream, unless it waits or the stream has failed; `cancelled`
is for the end of the session. -/
def ReadStep.result? (cancelled : CallResult) : ReadStep → Option CallResult
  | .entity e => some (.returned (.entity e))
  | .ended => some (.returned .noMore)
  | .cancelled => some cancelled
  | .failed _ | .waiting => none

namespace System

variable {s : System} {K : CallId} {token : Token} {stray : ClientId → Token → Prop}

/-- How a read of a client ends when the session has ended. -/
def readCancelled (s : System) (id : ClientId) : CallResult :=
  .failed (.cancelled (s.client id).key.device Operation.read.text)

/-- The call takes from a read stream of the scope of `token`, and waits for its next chunk. -/
def Awaits (s : System) (K : CallId) (token : Token) : Prop :=
  ∃ call ∈ (s.client K.client).calls,
    call.serial = K.serial ∧ call.kind = .next ∧ call.wait = .chunk token

theorem Awaits.waitsFor (h : s.Awaits K token) : s.WaitsFor K (.chunk token) := by
  obtain ⟨call, hm, hs, -, hw⟩ := h
  exact ⟨call, hm, hs, hw⟩

/-- A call that takes from a read stream ends at once, and hands back what is left of the stream. -/
theorem readNext_returns {cursor : ReadCursor} {step : ReadStep} {left : ReadStream}
    {result : CallResult}
    (h : cursor.stream.next ((s.client cursor.client).scope.isCancelled cursor.token) = (step, left))
    (hr : step.result? (s.readCancelled cursor.client) = some result) :
    (s.readNext cursor).1.finished = s.finished ++
      [⟨(s.newCall cursor.client).2, result, some { cursor with stream := left }⟩] := by
  have hscope := (newCall_parts s cursor.client cursor.client).2.2.1
  have hkey : ((s.newCall cursor.client).1.client cursor.client).key =
      (s.client cursor.client).key := by
    rw [client_newCall_self]
  unfold readNext
  dsimp only
  rw [hscope, h]
  cases step with
  | waiting => cases hr
  | failed status => cases hr
  | cancelled =>
    cases hr
    unfold readCancelled
    rw [← hkey]
    exact finished_retire _ _ .next
  | _ =>
    cases hr
    exact finished_retire _ _ .next

/-- A call that takes from a read stream waits. -/
theorem readNext_waits (ha : s.Attended none stray) {cursor : ReadCursor} {left : ReadStream}
    (h : cursor.stream.next ((s.client cursor.client).scope.isCancelled cursor.token) =
      (.waiting, left)) :
    (s.readNext cursor).1.finished = s.finished ∧
      (s.readNext cursor).1.Awaits (s.newCall cursor.client).2 cursor.token := by
  have hparts := newCall_parts s cursor.client cursor.client
  unfold readNext
  dsimp only
  rw [hparts.2.2.1, h]
  refine ⟨rfl, ⟨(s.client cursor.client).made, .next, .chunk cursor.token⟩, ?_, rfl, rfl, rfl⟩
  have hnew : ((s.newCall cursor.client).1.client cursor.client).calls.any
      (fun call => decide (call.serial = (s.client cursor.client).made)) = false := by
    rw [hparts.1, List.any_eq_false]
    intro call hm
    simpa using Nat.ne_of_lt (ha.made cursor.client call hm)
  dsimp only [suspend]
  rw [show (s.newCall cursor.client).2.client = cursor.client from rfl, client_updateClient_self,
    show (s.newCall cursor.client).2.serial = (s.client cursor.client).made from rfl, hnew]
  exact List.mem_append_right _ (List.mem_singleton_self _)

/-- When the call runs again, it goes on waiting, or hands back a broken stream because the session has
ended. -/
theorem resume_awaits (hs : ((s.client K.client).calls.map (·.serial)).Nodup)
    (h : s.Awaits K token) :
    s.resume K = s ∨ (s.client K.client).scope.isCancelled token = true ∧
      (s.resume K).finished =
        s.finished ++ [⟨K, s.readCancelled K.client, some ⟨K.client, token, .broken⟩⟩] := by
  obtain ⟨call, hm, hser, hkind, hwait⟩ := h
  unfold resume
  simp only [call?_eq_some hs hm hser, hwait, hkind]
  split
  · next hc => exact .inr ⟨hc, finished_retire _ _ .next⟩
  · exact .inl rfl

end System

namespace Scenario

variable {x y : Scenario} {K : CallId} {token : Token} {id : ClientId}

/-! ### Calls that wait for a chunk -/

/-- In a move, such a call goes on waiting, or it is dropped, or it hands back a broken stream because the
session has ended. -/
theorem awaits_make (ho : x.Orderly) (h : x.system.Awaits K token) (m : Move) :
    (x.make m).system.Awaits K token ∨
      (x.make m).system.Over K ∧ ∀ f ∈ (x.make m).system.finished, f.call = K →
        f.result = x.system.readCancelled K.client ∧ f.cursor = some ⟨K.client, token, .broken⟩ ∧
          (x.system.client K.client).scope.isCancelled token = true := by
  obtain ⟨stray, ha⟩ := ho.attended
  have not_old : ∀ f ∈ x.system.finished, f.call ≠ K := fun f hf => ho.spent.not_mem h.waitsFor hf
  obtain ⟨call, hm, hs, hrest⟩ := id h
  have same : (⟨K.client, call.serial⟩ : CallId) = K := by rw [hs]
  have kept : call ∈ ((x.make m).system.client K.client).calls → (x.make m).system.Awaits K token :=
    fun hm' => ⟨call, hm', hs, hrest⟩
  have hsways := sways_make ho.valid ha m
  have hmade : K.serial < ((x.make m).system.client K.client).made :=
    Nat.lt_of_lt_of_le (hs ▸ ha.made K.client call hm) (hsways.made_le K.client)
  -- the call is touched only where it is the one that runs, or the one that is dropped
  cases hsways with
  | spares hsame => exact .inl (kept (by rwa [hsame.calls]))
  | starts id' hstroke =>
    have hne : K ≠ (x.system.newCall id').2 := by
      rintro rfl
      exact not_waitsFor_newCall ha rfl h.waitsFor
    refine .inl (kept ((hstroke.others K.client call (by rwa [same])).mpr ?_))
    rwa [(System.newCall_parts x.system id' _).1]
  | resumes K' old hpoll hr hold hs' hstroke =>
    by_cases hK : K = K'
    · subst hK hpoll
      have he : (x.make .poll).system = x.system.dequeue.resume K := poll_of_resume hr
      obtain hsame | ⟨hc, hfin⟩ :=
        System.resume_awaits (s := x.system.dequeue) (ha.serials K.client) h
      · refine .inl ?_
        rw [he, hsame]
        exact h
      · refine .inr ⟨?_, fun f hf hcall => ?_⟩
        · obtain ⟨posted, outcome, hobs⟩ | hsame | ⟨g, hg, -, hover⟩ := finished_make ho.valid ha .poll
          · cases hobs
          · rw [he, hfin] at hsame
            exact absurd (List.append_right_eq_self.mp hsame) (List.cons_ne_nil _ _)
          · rw [he, hfin] at hg
            obtain rfl := List.singleton_inj.mp (List.append_cancel_left hg)
            exact hover
        · rw [he, hfin] at hf
          rcases List.mem_append.mp hf with hf | hf
          · exact absurd hcall (not_old f hf)
          · rw [List.mem_singleton.mp hf]
            exact ⟨rfl, rfl, hc⟩
    · exact .inl (kept ((hstroke.others K.client call (by rwa [same])).mpr hm))
  | drops task name K' reading old hact hf hcall ht =>
    have hcalls : ∀ other, other ∈ ((x.make m).system.client K.client).calls ↔
        other ∈ (x.system.client K.client).calls ∧ (⟨K.client, other.serial⟩ : CallId) ≠ K' := by
      intro other
      rw [ht, (System.heeds_retire x.system K' old.kind).calls, System.mem_calls_withdraw]
    by_cases hK : K = K'
    · refine .inr ⟨⟨hmade, ?_⟩, fun f hf' hcall' => ?_⟩
      · rintro wait ⟨other, hother, hser, -⟩
        exact ((hcalls other).mp hother).2 (by rw [hser, ← hK])
      · rw [ht, System.finished_retire] at hf'
        exact absurd hcall' (not_old f hf')
    · exact .inl (kept ((hcalls call).mpr ⟨hm, by rwa [same]⟩))

/-- The call ends only by handing back a broken stream because the session has ended. -/
theorem awaits_after (ho : x.Orderly) (h : x.system.Awaits K token) (ms : List Move) :
    ∀ f ∈ (x.after ms).system.finished, f.call = K →
      f.result = x.system.readCancelled K.client ∧ f.cursor = some ⟨K.client, token, .broken⟩ ∧
        ((x.after ms).system.client K.client).scope.isCancelled token = true := by
  -- by induction on the run: the call waits on, or is over and stays so
  induction ms generalizing x with
  | nil => exact fun f hf hcall => absurd hcall (ho.spent.not_mem h.waitsFor hf)
  | cons m rest ih =>
    intro f hf hcall
    have ho' := ho.make m
    obtain ⟨stray, ha'⟩ := ho'.attended
    have hkey := (key_make ho.valid (System.knows_of_waitsFor h.waitsFor) m).2
    obtain h' | ⟨hover, hends⟩ := awaits_make ho h m
    · obtain ⟨hresult, hcursor, hc⟩ := ih ho' h' f hf hcall
      refine ⟨hresult.trans ?_, hcursor, hc⟩
      unfold System.readCancelled
      rw [hkey]
    · have hold := (over_after ho'.valid ha' hover rest).2 f hf hcall
      obtain ⟨hresult, hcursor, hc⟩ := hends f hold hcall
      exact ⟨hresult, hcursor, cancelled_after ho hc (m :: rest)⟩

/-! ### What is taken from a stream -/

/-- What a caller gets out of a read stream in a run that leads from `x` to `y`.  It holds the stream that
a call hands it, and takes from this one next; between two calls that take from it, and while one of them
is pending, anything may happen. -/
inductive Draws : Scenario → ReadCursor → List CallResult → Scenario → ReadCursor → Prop
  | none (x : Scenario) (r : ReadCursor) : Draws x r [] x r
  | move (x y : Scenario) (r left : ReadCursor) (results : List CallResult) (m : Move)
      (h : Draws (x.make m) r results y left) : Draws x r results y left
  | take (x y : Scenario) (r next left : ReadCursor) (results : List CallResult)
      (name stream : String) (ms : List Move) (result : CallResult)
      (hr : x.reads.find? stream = some r)
      (hf : (⟨(x.system.newCall r.client).2, result, some next⟩ : Finished) ∈
        ((x.make (.start name (.readNext stream))).after ms).system.finished)
      (h : Draws ((x.make (.start name (.readNext stream))).after ms) next results y left) :
      Draws x r (result :: results) y left

theorem system_readNext {stream : String} {r : ReadCursor} (hr : x.reads.find? stream = some r)
    (name : String) :
    (x.make (.start name (.readNext stream))).system = (x.system.readNext r).1 := by
  simp only [make, start, hr, started]

/-- A call that takes from a stream gets what is next in it, or waits and gets told that the session has
ended. -/
theorem take_cases (ho : x.Orderly) {name stream : String} {r : ReadCursor}
    (hr : x.reads.find? stream = some r) {step : ReadStep} {left : ReadStream}
    (hstep : r.stream.next ((x.system.client r.client).scope.isCancelled r.token) = (step, left))
    (hfailed : ∀ status, step ≠ .failed status) (ms : List Move) {f : Finished}
    (hf : f ∈ ((x.make (.start name (.readNext stream))).after ms).system.finished)
    (hcall : f.call = (x.system.newCall r.client).2) :
    (step.result? (x.system.readCancelled r.client) = some f.result ∧
      f.cursor = some { r with stream := left }) ∨
    step = .waiting ∧ f.result = x.system.readCancelled r.client ∧
      f.cursor = some { r with stream := .broken } ∧
      (((x.make (.start name (.readNext stream))).after ms).system.client r.client).scope.isCancelled
        r.token = true := by
  obtain ⟨stray, ha⟩ := ho.attended
  have hK : x.callOf? (.readNext stream) = some (x.system.newCall r.client).2 := by
    simp only [callOf?, hr, Option.map_some]
  have hsystem := system_readNext hr name
  cases hresult : step.result? (x.system.readCancelled r.client) with
  | some result =>
    have hfin := System.readNext_returns hstep hresult
    rw [← hsystem] at hfin
    have he := eq_of_ended_at_once ho.valid ha ho.spent hK hfin ms hf hcall
    exact .inl (he ▸ ⟨rfl, rfl⟩)
  | none =>
    -- nothing is handed back at once, so the call waits
    obtain rfl : step = .waiting := by
      cases step with
      | waiting => rfl
      | failed status => exact absurd rfl (hfailed status)
      | _ => cases hresult
    have hwaits := (System.readNext_waits ha hstep).2
    rw [← hsystem] at hwaits
    obtain ⟨hresult, hcursor, hc⟩ := awaits_after (ho.make _) hwaits ms f hf hcall
    have hknows := (ho.valid.reads r (Directory.mem_values_of_find? hr)).1
    have hkey := (key_make ho.valid hknows (.start name (.readNext stream))).2
    refine .inr ⟨rfl, hresult.trans ?_, hcursor, hc⟩
    unfold System.readCancelled
    rw [show (x.system.newCall r.client).2.client = r.client from rfl, hkey]

end Scenario

end P4Control
