import P4Control.Proofs.Loops
import P4Control.Proofs.Requests
import P4Control.Proofs.Deadlines
import P4Control.Proofs.Settling

namespace P4Control

/-!
# What a call that opens the session leaves behind

A call that opens the session returns when it has set up the stream, or when it finds a scope in place.
In the first case the session is open.  In the second case it is open too, unless the scope is one whose
stream nobody sets up any more, because the call that was to do it has been dropped.

* `System.Returns` — a call returns between two states.
* `System.Live` — the session is open, its queue is installed and its inbound loop runs.
* `setUp_returns` — how a call returns whose turn it is.
* `System.Poised` — the state in which a call has its turn.
* `Scenario.Opens` — a move in which a call that opens the session returns.
* `Scenario.Stranded` — a scope in place whose stream nobody sets up any more.
* `opens_live` — the session is live then, or a dropped call has left a scope in place.
* `opens_stranded` — which can happen.
-/

namespace System

variable {s t u : System} {K : CallId} {value : CallValue} {stray : ClientId → Token → Prop}

/-! ### Results -/

/-- On the way from `s` to `t`, the call returns `value`, and no other call ends. -/
def Returns (s : System) (K : CallId) (value : CallValue) (t : System) : Prop :=
  ∃ f, t.finished = s.finished ++ [f] ∧ f.call = K ∧ f.result = .returned value

theorem Returns.of_finished (h : s.Returns K value t) (hu : u.finished = s.finished) :
    u.Returns K value t := by
  unfold Returns
  rw [hu]
  exact h

/-- A call that waits has not returned. -/
theorem Returns.not_same (h : s.Returns K value t) (hs : t.finished = s.finished) : False := by
  obtain ⟨f, hf, -, -⟩ := h
  rw [hs] at hf
  exact List.cons_ne_nil f [] (List.self_eq_append_right.mp hf)

/-- Nor has a call that fails. -/
theorem Returns.not_failed (h : s.Returns K value t) {e : ClientError}
    (hs : t.finished = s.finished ++ [⟨K, .failed e, none⟩]) : False := by
  obtain ⟨f, hf, -, hr⟩ := h
  rw [hs, List.append_cancel_left_eq] at hf
  obtain rfl : ⟨K, .failed e, none⟩ = f := by simpa using hf
  cases hr

theorem finished_complete (s : System) (K : CallId) (result : CallResult) :
    (s.complete K result).finished = s.finished ++ [⟨K, result, none⟩] :=
  finished_retire _ K .request

theorem finished_failCall (s : System) (K : CallId) (operation : Operation) (token : Token)
    (failure : Failure) :
    (s.failCall K operation token failure).finished =
      s.finished ++ [⟨K, .failed (s.report K.client operation failure).2, none⟩] := by
  have hr := (heeds_report (s := s) K.client operation failure).finished
  unfold failCall
  dsimp only
  rw [finished_complete]
  split
  · rw [(heeds_failSession K.client token).finished, hr]
  · rw [hr]

/-- The session is left alone when a call ends whose client someone still holds. -/
theorem complete_of_held {result : CallResult}
    (h : (s.complete K result).isHeld K.client = true) :
    s.complete K result = (s.record ⟨K, result, none⟩).withdraw K := by
  have he : s.complete K result = ((s.record ⟨K, result, none⟩).withdraw K).release K.client := rfl
  rw [he] at h ⊢
  unfold release at h ⊢
  split at h
  · next hh => rw [if_pos hh]
  · next hh =>
    rw [isHeld_closeSession] at h
    exact absurd h hh

/-! ### A call whose turn it is -/

/-- The session is open, its queue is installed, and an inbound loop runs for the scope in place. -/
def Live (s : System) (id : ClientId) : Prop :=
  (s.client id).scope.isOpen = true ∧ ∃ st token, (s.client id).scope.slot = some st ∧
    (s.client id).scope.current = some token ∧ (s.stream st).listener = some (id, token)

theorem Looped.live (h : s.Looped) (hv : s.Valid) {id : ClientId}
    (ho : (s.client id).scope.isOpen = true) : s.Live id := by
  obtain ⟨st, hs⟩ := Option.isSome_iff_exists.mp ((hv.scopes id).isOpen_iff.mp ho)
  obtain ⟨token, ht, hl⟩ := h.slots id st hs
  exact ⟨ho, st, token, hs, ht, hl⟩

theorem Live.congr {id : ClientId} (h : s.Live id) (hc : (t.client id).scope = (s.client id).scope)
    (hs : ∀ st, t.stream st = s.stream st) : t.Live id := by
  obtain ⟨ho, st, token, hslot, hcur, hl⟩ := h
  unfold Live
  rw [hc]
  exact ⟨ho, st, token, hslot, hcur, by rw [hs, hl]⟩

theorem live_goLive {id : ClientId} {token : Token} (afterFailure : Bool)
    {begun activated : Scope StreamId} {st : StreamId}
    (ha : begun.activate token st = some activated) :
    (s.goLive id token afterFailure activated st).Live id := by
  obtain ⟨hcur, rfl⟩ := Scope.activate_eq_some ha
  unfold Live
  rw [client_goLive, if_pos rfl]
  refine ⟨rfl, st, token, rfl, hcur, ?_⟩
  rw [stream_goLive, if_pos rfl]

/-- A call whose turn it is returns because a scope is in place, or because it has opened the
session. -/
theorem setUp_returns (h : s.Returns K .done (s.setUp K)) :
    ∃ u : System, s.setUp K = u.complete K (.returned .done) ∧
      (u = s ∧ (s.client K.client).scope.current.isSome = true ∨ u.Live K.client) := by
  unfold setUp at h ⊢
  dsimp only at h ⊢
  split at h
  · next hb =>
    refine ⟨s, rfl, .inl ⟨rfl, ?_⟩⟩
    unfold Scope.begin at hb
    split at hb
    · next hc => rw [hc]; rfl
    · cases hb
  · next token afterFailure begun hb =>
    have hs := (heeds_openStream (s := s.beginScope K.client begun) (s.client K.client).switch
      (some (max (s.client K.client).config.queueCapacity 1))).finished
    generalize (s.beginScope K.client begun).openStream (s.client K.client).switch
      (some (max (s.client K.client).config.queueCapacity 1)) = opened at h hs ⊢
    obtain ⟨v, answer⟩ := opened
    -- once a scope has begun, only the stream makes the call return
    have hv : v.Returns K .done _ := h.of_finished hs
    unfold await at hv ⊢
    cases answer with
    | refused status => exact (hv.not_failed (finished_failCall _ _ _ _ _)).elim
    | silence =>
      dsimp only at hv
      split at hv
      · exact (hv.not_failed (finished_failCall _ _ _ _ _)).elim
      · exact (hv.not_same rfl).elim
    | reply st =>
      dsimp only [activateSession] at hv ⊢
      split at hv
      · have hsame : ((v.dropUplink st).dropListener st).finished = v.finished :=
          ((heeds_dropUplink st).trans (heeds_dropListener st)).finished
        have hd := hv.of_finished hsame
        exact (hd.not_failed (finished_complete _ _ _)).elim
      · next activated ha => exact ⟨_, rfl, .inr (live_goLive afterFailure ha)⟩

/-- The state `t` is the one in which the call has its turn; otherwise it is as `s`. -/
structure Poised (s : System) (K : CallId) (t : System) : Prop where
  finished : t.finished = s.finished
  scopes : ∀ id, (t.client id).scope = (s.client id).scope
  streams : ∀ st, t.stream st = s.stream st
  turn : (t.client K.client).turns.head? = some K.serial
  attended : ∀ stray, s.Attended none stray → t.Attended (some K) stray

/-- While a call has its turn, no other call sets up a stream. -/
theorem Attended.stray_of_turn (h : s.Attended (some K) stray) {token : Token}
    (ht : (s.client K.client).turns.head? = some K.serial)
    (hc : (s.client K.client).scope.current = some token)
    (ho : (s.client K.client).scope.isOpen = false) : stray K.client token := by
  obtain hst | ⟨call, hm, hb, hset⟩ := h.settingUp K.client token hc ho
  · exact hst
  · have ha := h.tended K.client call hm hb
    cases hw : call.wait with
    | answer operation token' limit deadline =>
      rw [hw] at ha hset
      cases operation with
      | openStream =>
        -- a call that sets up a stream has its turn, and that is the running call
        have hhead : some K.serial = some call.serial := ht.symm.trans (ha.2.2.2 rfl)
        exact absurd (congrArg some (show K = ⟨K.client, call.serial⟩ by
          rw [← Option.some.inj hhead])) hb
      | _ => cases hset
    | turn =>
      rw [hw] at hset
      cases hset
    | chunk token' =>
      rw [hw] at hset
      cases hset

/-- A new call that opens the session returns only if nobody is in line before it. -/
theorem openSession_returns (ha : s.Attended none stray) {id : ClientId}
    (h : s.Returns (s.newCall id).2 value (s.openSession id).1) :
    ∃ u, s.Poised (s.newCall id).2 u ∧ (s.openSession id).1 = u.setUp (s.newCall id).2 := by
  have hn := ha.not_mem_turns id
  have parts := newCall_parts s id
  have hself := (client_enterLine (s.newCall id).1 (s.newCall id).2 id).trans (if_pos rfl)
  have entered := enterLine_parts (s.newCall id).1 (s.newCall id).2
  unfold openSession at h ⊢
  dsimp only at h ⊢
  split at h
  · next hfirst =>
    rw [if_pos hfirst]
    refine ⟨(s.newCall id).1.enterLine (s.newCall id).2,
      ⟨rfl, fun id' => ?_, fun _ => rfl, ?_, fun stray ha' => ?_⟩, rfl⟩
    · exact (entered id').2.2.trans (parts id').2.2.1
    · show (((s.newCall id).1.enterLine (s.newCall id).2).client id).turns.head? = _
      rw [hself]
      show (((s.newCall id).1.client id).turns ++ _).head? = _
      rw [hfirst]
      rfl
    · exact (ha'.newCall id).enterLine hn
  · exact (h.not_same rfl).elim

theorem call?_of_opens (h : s.opens K = true) :
    ∃ call, s.call? K = some call ∧ call.wait.opens = true := by
  simpa [opens, Option.any_eq_true] using h

/-- A waiting call that opens the session returns only when it gets its turn. -/
theorem resume_returns (hr : s.ready.head? = some (.resume K)) (ho : s.opens K = true)
    (h : s.Returns K value (s.dequeue.resume K)) :
    s.WaitsFor K .turn ∧ s.Poised K s.dequeue ∧ s.dequeue.resume K = s.dequeue.setUp K := by
  obtain ⟨call, hcall, hopens⟩ := call?_of_opens ho
  obtain ⟨hm, hs⟩ := mem_of_call? hcall
  have hd : s.dequeue.Returns K value (s.dequeue.resume K) := h
  unfold resume at hd ⊢
  simp only [show s.dequeue.call? K = some call from hcall] at hd ⊢
  -- A call that waits for its answer has failed by now if it ends at all, and returns nothing.
  cases hw : call.wait with
  | turn =>
    rw [hw] at hd
    dsimp only at hd ⊢
    split at hd
    · next hturn =>
      refine ⟨⟨call, hm, hs, hw⟩, ⟨rfl, fun _ => rfl, fun _ => rfl, hturn, fun stray ha => ?_⟩,
        if_pos hturn⟩
      have hup := ha.takeUp hm hs
      rw [hw] at hup
      refine (hup.dequeue fun id other _ hb hh => ?_).weaken fun id token hst => ?_
      · rw [hr] at hh
        exact hb (by cases hh; rfl)
      · exact hst.resolve_right fun hn => by cases hn.2
    · exact (hd.not_same rfl).elim
  | answer operation token limit deadline =>
    rw [hw] at hd
    dsimp only at hd
    split at hd
    · exact (hd.not_failed (finished_failCall _ _ _ _ _)).elim
    · split at hd
      · exact (hd.not_failed (finished_failCall _ _ _ _ _)).elim
      · exact (hd.not_same rfl).elim
  | chunk token =>
    rw [hw] at hopens
    cases hopens

end System

namespace Scenario

variable {x : Scenario} {m : Move} {K : CallId} {stray : ClientId → Token → Prop}

/-! ### Along a run -/

/-- A move runs a call that opens the session of its client. -/
inductive Runs (x : Scenario) (K : CallId) : Move → Prop
  | starts (name client : String) (hc : x.system.handles.find? client = some K.client)
      (hK : K = (x.system.newCall K.client).2) : Runs x K (.start name (.openSession client))
  | resumes (hr : x.system.ready.head? = some (.resume K)) (ho : x.system.opens K = true) :
      Runs x K .poll

theorem poll_of_resume (hr : x.system.ready.head? = some (.resume K)) :
    x.system.poll = x.system.dequeue.resume K := by
  obtain ⟨rest, hready⟩ : ∃ rest, x.system.ready = .resume K :: rest :=
    List.head?_eq_some_iff.mp hr
  unfold System.poll
  rw [hready]

/-- In a move, a call that opens the session of its client returns. -/
def Opens (x : Scenario) (m : Move) (K : CallId) : Prop :=
  x.Runs K m ∧ x.system.Returns K .done (x.make m).system

/-- A call that opens the session returns from the state in which it has its turn. -/
theorem Opens.poised (h : x.Opens m K) (ha : x.system.Attended none stray) :
    ∃ u, x.system.Poised K u ∧ (x.make m).system = u.setUp K := by
  obtain ⟨hrun, hret⟩ := h
  cases hrun with
  | starts name client hc hK =>
    have he : (x.make (.start name (.openSession client))).system =
        (x.system.openSession K.client).1 := by
      simp only [make, start, onClient, hc, started]
    rw [he] at hret ⊢
    rw [hK] at hret ⊢
    exact System.openSession_returns ha hret
  | resumes hr ho =>
    have he : (x.make .poll).system = x.system.dequeue.resume K := poll_of_resume hr
    rw [he] at hret ⊢
    obtain ⟨-, hp, hs⟩ := System.resume_returns hr ho hret
    exact ⟨_, hp, hs⟩

/-- A scope is in place that has not opened, and nobody sets up its stream any more: the call that had
begun it and waited for the stream has been dropped along the run. -/
def Stranded (x : Scenario) (ms : List Move) (s : System) (id : ClientId) : Prop :=
  (s.client id).scope.isOpen = false ∧
    ∃ token, (s.client id).scope.current = some token ∧ x.Abandoned ms id token

/-- Along every run, when a call that opens the session returns, the session is open, with its queue
installed and its inbound loop running, unless a call has been dropped before that had begun the scope
in place and waited for its stream.  It is so when the call returns, and after that if someone still
holds the client. -/
theorem opens_live (devices : List String) (confs : List Pipeconf)
    (bindings : List (String × PipeconfId)) (config : ConfigChange) (capacity : Nat)
    (ms : List Move) (m : Move) (K : CallId)
    (h : ((initial devices confs bindings config capacity).after ms).Opens m K) :
    let x := initial devices confs bindings config capacity
    let t := ((x.after ms).make m).system
    (∃ u : System, t = u.complete K (.returned .done) ∧
      (u.Live K.client ∨ x.Stranded ms u K.client)) ∧
    (t.isHeld K.client = true → t.Live K.client ∨ x.Stranded ms t K.client) := by
  intro x t
  have ha : (x.after ms).system.Attended none (x.Abandoned ms) :=
    attended_after devices confs bindings config capacity ms
  have ht : (x.after ms).Tuned := tuned_after devices confs bindings config capacity ms
  have hv : (x.after ms).Valid := (valid_initial devices confs bindings config capacity).after ms
  obtain ⟨s, hp, he⟩ := h.poised ha
  have hret : s.Returns K .done (s.setUp K) := by
    rw [← he]
    exact h.2.of_finished hp.finished
  have returns : ∃ u : System, t = u.complete K (.returned .done) ∧
      (u.Live K.client ∨ x.Stranded ms u K.client) := by
    obtain ⟨u, hu, ⟨rfl, hc⟩ | hlive⟩ := System.setUp_returns hret
    · refine ⟨u, he.trans hu, ?_⟩
      obtain ⟨token, hc⟩ := Option.isSome_iff_exists.mp hc
      cases ho : (u.client K.client).scope.isOpen with
      | true =>
        rw [hp.scopes] at ho
        exact .inl ((ht.looped.live hv.system ho).congr (hp.scopes _) hp.streams)
      | false => exact .inr ⟨ho, token, hc, (hp.attended _ ha).stray_of_turn hp.turn hc ho⟩
    · exact ⟨u, he.trans hu, .inl hlive⟩
  refine ⟨returns, fun hheld => ?_⟩
  obtain ⟨u, hu, hcase⟩ := returns
  -- the end of the call changes nothing of the session
  rw [hu] at hheld ⊢
  rw [System.complete_of_held hheld]
  have hscope := (System.withdraw_parts (u.record ⟨K, .returned .done, none⟩) K K.client).2.2.2
  have hstreams : ∀ st,
      ((u.record ⟨K, .returned .done, none⟩).withdraw K).stream st = u.stream st := by
    intro st
    rw [System.withdraw_eq]
    rfl
  rcases hcase with hlive | ⟨hclosed, token, hcur, hdropped⟩
  · exact .inl (hlive.congr hscope hstreams)
  · exact .inr ⟨(congrArg Scope.isOpen hscope).trans hclosed, token,
      (congrArg Scope.current hscope).trans hcur, hdropped⟩

/-- A client opens its session, and its scope ends with the stream; it opens it once more. -/
def reopening : List Move :=
  [.act (.new ⟨⟨"leaf"⟩, 1⟩ "leaf" none), .start "t0" (.openSession "leaf"),
   .act (.failStream "leaf" ⟨.unavailable, "gone"⟩), .poll, .poll, .poll]

/-- The second session is open when the call returns. -/
theorem opens_live_reopening :
    let x := initial ["leaf"] [] [] {} 16
    let K : CallId := ⟨⟨⟨"leaf"⟩, 0⟩, 1⟩
    let t := ((x.after reopening).make (.start "t1" (.openSession "leaf"))).system
    (x.after reopening).Opens (.start "t1" (.openSession "leaf")) K ∧ t.isHeld K.client = true ∧
      (t.Live K.client ∨ x.Stranded reopening t K.client) := by
  intro x K t
  have h : (x.after reopening).Opens (.start "t1" (.openSession "leaf")) K :=
    ⟨.starts _ _ (by decide +kernel) (by decide +kernel),
      ⟨K, .returned .done, none⟩, by decide +kernel, rfl, rfl⟩
  have hheld : t.isHeld K.client = true := by decide +kernel
  exact ⟨h, hheld, (opens_live ["leaf"] [] [] {} 16 reopening _ K h).2 hheld⟩

/-- A call that waits for the stream of a session is dropped. -/
def stranding : List Move :=
  [.act (.new ⟨⟨"leaf"⟩, 1⟩ "leaf" none),
   .act (.steer "leaf" (.queueFault .streamChannel .stall)),
   .start "first" (.openSession "leaf"), .act (.abort "first")]

/-- The next call that opens the session returns, and no session is open. -/
theorem opens_stranded :
    let x := (initial ["leaf"] [] [] {} 16).after stranding
    let K : CallId := ⟨⟨⟨"leaf"⟩, 0⟩, 1⟩
    let t := (x.make (.start "second" (.openSession "leaf"))).system
    x.Opens (.start "second" (.openSession "leaf")) K ∧ t.isHeld K.client = true ∧
      ¬ t.Live K.client := by
  intro x K t
  have hclosed : (t.client K.client).scope.isOpen = false := by decide +kernel
  refine ⟨⟨.starts _ _ (by decide +kernel) (by decide +kernel),
    ⟨K, .returned .done, none⟩, by decide +kernel, rfl, rfl⟩, by decide +kernel, fun hlive => ?_⟩
  rw [hlive.1] at hclosed
  cases hclosed

end Scenario

end P4Control
