import P4Control.Proofs.Agreement
import P4Control.Proofs.Changes
import P4Control.Proofs.Cookies
import P4Control.Proofs.Outcomes

namespace P4Control

/-!
# Which program a switch runs

A client asks its switch for a cookie, or if the switch keeps none for everything, and compares what it
gets with the program and the data it has in mind.  Once a push has been taken, and until another one is,
whoever asks is told whether they are those that have been pushed.

* `Agent.runs` — what a comparison with the stored program comes to.
* `isPipelineConfigSet_answers` — what whoever asks in an open session is told.
* `setPipelineConfig_returns` — what a push that has returned leaves behind.
* `Scenario.Pushes`, `Scenario.Unpushed` — a move makes a switch take a program, or none of a run does.
* `pipeline_after` — without a push, a switch keeps its program.
* `Scenario.Answers` — a client asks and gets an answer.
* `program_recognised` — the answers are right, with cookies and without.
-/

/-! ### The agent -/

namespace Agent

variable {a : Agent}

/-- Whether the stored program, seen as the agent shows it, passes for a program with its data. -/
def runs (a : Agent) (p : Pipeconf) (deviceData : Bytes) : Bool :=
  match a.pipeline with
  | none => false
  | some stored =>
    match if a.keepsCookies then stored.cookie else none with
    | some cookie => cookie = pipelineCookie p deviceData
    | none => some stored.p4info = p.p4info? && stored.deviceData = deviceData

/-- With cookies it is the cookies that are compared, and without them the programs and their data. -/
theorem runs_pushed {p p' : Pipeconf} {p4info deviceData deviceData' : Bytes}
    (h : a.pipeline = some ⟨p4info, deviceData, some (pipelineCookie p deviceData)⟩) :
    a.runs p' deviceData' = true ↔
      if a.keepsCookies then pipelineCookie p' deviceData' = pipelineCookie p deviceData
      else p'.p4info? = some p4info ∧ deviceData' = deviceData := by
  unfold runs
  rw [h]
  cases a.keepsCookies with
  | true => exact decide_eq_true_iff.trans eq_comm
  | false =>
    dsimp only
    rw [if_neg Bool.false_ne_true, if_neg Bool.false_ne_true, Bool.and_eq_true, decide_eq_true_eq,
      decide_eq_true_eq]
    exact and_congr eq_comm eq_comm

theorem nextFault_enter {rpc : Rpc} (h : a.nextFault rpc = none) :
    (a.enter rpc).1.nextFault rpc = none := by
  unfold nextFault enter at *
  dsimp only at h ⊢
  split
  · exact h
  · next hf =>
    rw [hf] at h
    cases h

/-- Unless a fault waits, the agent replies with a view of what it stores, and would do so again. -/
theorem getPipeline_taken (request : GetPipelineRequest) (hfault : a.nextFault .getPipeline = none) :
    (a.getPipeline request).2 =
        .reply (a.pipeline.map fun stored => view a.keepsCookies stored request.view) ∧
      (a.getPipeline request).1.pipeline = a.pipeline ∧
      (a.getPipeline request).1.keepsCookies = a.keepsCookies ∧
      (a.getPipeline request).1.nextFault .getPipeline = none := by
  obtain ⟨-, he⟩ | ⟨⟨fault, hf⟩, -⟩ := answer_cases (rfl : _ = a.getPipeline request)
  · have hnext := nextFault_enter hfault
    rw [enter_eq] at hnext
    rw [he, enter_eq]
    exact ⟨rfl, rfl, rfl, hnext⟩
  · rw [hfault] at hf
    cases hf

end Agent

namespace System

variable {s : System} {K : CallId} {value : CallValue}

/-! ### Calls that return at once -/

/-- A call that returns after it has asked has had a reply. -/
theorem reply_of_returned {α : Type} {operation : Operation} {token : Token} {limit : Duration}
    {answer : Answer α} {goOn : System → α → System} {fs : List Finished}
    (hfs : fs = s.finished)
    (h : (s.await K operation token limit answer goOn).finished = fs ++ [⟨K, .returned value, none⟩]) :
    ∃ a, answer = .reply a ∧ (goOn s a).finished = fs ++ [⟨K, .returned value, none⟩] := by
  have fails : ∀ failure, (s.failCall K operation token failure).finished ≠
      fs ++ [⟨K, .returned value, none⟩] := by
    intro failure hf
    rw [finished_failCall, hfs, List.append_cancel_left_eq] at hf
    cases hf
  cases answer with
  | reply a => exact ⟨a, rfl, h⟩
  | refused status => exact absurd h (fails (.refused status token))
  | silence =>
    unfold await at h
    dsimp only at h
    split at h
    · exact absurd h (fails _)
    · -- the call waits, and has not ended
      change s.finished = _ at h
      rw [hfs] at h
      exact absurd (List.append_right_eq_self.mp h.symm) (List.cons_ne_nil _ _)

theorem result_of_complete {result result' : CallResult} {fs : List Finished} (hfs : s.finished = fs)
    (h : (s.complete K result).finished = fs ++ [⟨K, result', none⟩]) : result' = result := by
  rw [finished_complete, hfs, List.append_cancel_left_eq] at h
  cases h
  rfl

/-- A call that returns has found the session open. -/
theorem open_of_returned {goOn : System → Token → System}
    (h : (s.inSession K goOn).finished = s.finished ++ [⟨K, .returned value, none⟩]) :
    ∃ token, (s.client K.client).scope.openToken? = some token ∧
      (goOn s token).finished = s.finished ++ [⟨K, .returned value, none⟩] := by
  unfold inSession at h
  split at h
  · next token ho => exact ⟨token, ho, h⟩
  · cases result_of_complete rfl h

/-- In the open session, a call that asks for a view of the program goes on with it, and the switch would
show the same again. -/
theorem queryPipeline_taken {n : SwitchName} {token : Token} (view : PipelineView)
    (goOn : System → Option PipelineConfig → System) (hn : (s.client K.client).switch = n)
    (hopen : (s.client K.client).scope.openToken? = some token)
    (hscript : (s.switch n).scriptedConfigs = [])
    (hfault : (s.switch n).agent.nextFault .getPipeline = none) :
    let a := (s.switch n).agent
    ∃ w : Switch, s.queryPipeline K view goOn = goOn (s.updateSwitch n fun _ => w)
        (a.pipeline.map fun stored => Agent.view a.keepsCookies stored view) ∧
      w.scriptedConfigs = [] ∧ w.agent.pipeline = a.pipeline ∧
      w.agent.keepsCookies = a.keepsCookies ∧ w.agent.nextFault .getPipeline = none := by
  subst hn
  obtain ⟨hreply, hpipeline, hcookies, hnext⟩ :=
    Agent.getPipeline_taken ⟨(s.client K.client).key.number, view⟩ hfault
  unfold queryPipeline inSession
  dsimp only
  rw [hopen, Switch.getPipeline_unscripted hscript, hreply]
  exact ⟨_, rfl, hscript, hpipeline, hcookies, hnext⟩

/-- In the open session, whoever asks is told what the comparison comes to, unless a fault waits. -/
theorem isPipelineConfigSet_answers {id : ClientId} {token : Token}
    (hopen : (s.client id).scope.openToken? = some token)
    (hscript : (s.switch (s.client id).switch).scriptedConfigs = [])
    (hfault : (s.switch (s.client id).switch).agent.nextFault .getPipeline = none)
    (p : Pipeconf) (deviceData : Bytes) :
    (s.isPipelineConfigSet id p deviceData).1.finished =
      s.finished ++ [⟨(s.newCall id).2, .returned (.answer
        ((s.switch (s.client id).switch).agent.runs p deviceData)), none⟩] := by
  have hc := client_newCall_self s id
  have hn : ((s.newCall id).1.client id).switch = (s.client id).switch := by rw [hc]
  have hopen' : ((s.newCall id).1.client id).scope.openToken? = some token := by rw [hc, hopen]
  unfold isPipelineConfigSet
  dsimp only
  obtain ⟨w, hq, hscript', hpipeline, hcookies, hfault'⟩ := queryPipeline_taken
    (s := (s.newCall id).1) (K := (s.newCall id).2) .cookieOnly _ hn hopen' hscript hfault
  rw [hq, switch_newCall]
  rw [switch_newCall] at hpipeline hcookies
  unfold Agent.runs
  generalize s.switch (s.client id).switch = v at *
  cases hp : v.agent.pipeline with
  | none => exact finished_complete _ _ _
  | some stored =>
    dsimp only [Option.map_some, Agent.view]
    cases hcookie : (if v.agent.keepsCookies then stored.cookie else none) with
    | some cookie => exact finished_complete _ _ _
    | none =>
      dsimp only
      cases hp4 : p.p4info? with
      | none => exact finished_complete _ _ _
      | some p4info =>
        -- the switch keeps no cookie, and is asked for everything
        have hw := switch_updateSwitch_self (s := (s.newCall id).1) (s.client id).switch fun _ => w
        dsimp only
        obtain ⟨_, hall, -⟩ := queryPipeline_taken
          (s := (s.newCall id).1.updateSwitch (s.client id).switch fun _ => w)
          (K := (s.newCall id).2) .all _ hn hopen' (by rw [hw, hscript']) (by rw [hw, hfault'])
        rw [hall, hw, hpipeline, hcookies, hp]
        dsimp only [Option.map_some, Agent.view]
        simp only [Option.some.injEq]
        exact finished_complete _ _ _

/-- A call that returns has found the session open, and no fault has waited for it. -/
theorem asked_of_returned {id : ClientId} {p : Pipeconf} {deviceData : Bytes}
    (hscript : (s.switch (s.client id).switch).scriptedConfigs = [])
    (h : (s.isPipelineConfigSet id p deviceData).1.finished =
      s.finished ++ [⟨(s.newCall id).2, .returned value, none⟩]) :
    (∃ token, (s.client id).scope.openToken? = some token) ∧
      (s.switch (s.client id).switch).agent.nextFault .getPipeline = none := by
  have hc := client_newCall_self s id
  unfold isPipelineConfigSet queryPipeline at h
  dsimp only at h
  obtain ⟨token, ho, h⟩ := open_of_returned (s := (s.newCall id).1) h
  rw [show (s.newCall id).2.client = id from rfl, hc] at h ho
  rw [switch_newCall, Switch.getPipeline_unscripted hscript] at h
  obtain ⟨config, hreply, -⟩ := reply_of_returned rfl h
  refine ⟨⟨token, ho⟩, ?_⟩
  obtain ⟨hnone, -⟩ | ⟨-, -, hr⟩ := Agent.answer_cases
    (rfl : _ = (s.switch (s.client id).switch).agent.getPipeline ⟨(s.client id).key.number, .cookieOnly⟩)
  · exact hnone
  · exact absurd hreply (hr _)

/-- Once a push has returned, the switch stores the program with its data and its cookie. -/
theorem setPipelineConfig_returns {id : ClientId} {p : Pipeconf} {deviceData : Bytes}
    (h : (s.setPipelineConfig id p deviceData).1.finished =
      s.finished ++ [⟨(s.newCall id).2, .returned .done, none⟩]) :
    ∃ p4info, p.p4info? = some p4info ∧
      ((s.setPipelineConfig id p deviceData).1.switch (s.client id).switch).agent.pipeline =
        some ⟨p4info, deviceData, some (pipelineCookie p deviceData)⟩ := by
  obtain ⟨error, -, he⟩ | ⟨token, request, hp, he⟩ := s.setPipelineConfig_cases id p deviceData
  · rw [he] at h
    cases result_of_complete rfl h
  · rw [he] at h ⊢
    obtain ⟨⟨⟩, hreply, -⟩ := reply_of_returned rfl h
    rw [hreply, await_reply, switch_complete, switch_updateSwitch_self]
    obtain ⟨-, p4info, -, hp4, rfl⟩ := Client.push?_eq_some hp
    obtain ⟨-, -, hstores⟩ | ⟨hno, -⟩ := (s.switch (s.client id).switch).agent.setPipeline_cases _
    · exact ⟨p4info, hp4, congrArg Prod.snd hstores⟩
    · exact absurd hreply hno

end System

namespace Scenario

variable {x : Scenario} {n : SwitchName}

/-! ### Pushes -/

/-- A move makes the agent of a switch take a program, and not only verify it. -/
def Pushes (x : Scenario) (n : SwitchName) (m : Move) : Prop :=
  ∃ name request r, m = .start name request ∧
    (x.sent? request = some (n, .set r) ∨ x.raw? request = some (n, .set r)) ∧
    r.action ≠ .verify ∧ ((x.system.switch n).agent.setPipeline r).2 = .reply ()

/-- No move of a run makes the agent of a switch take a program. -/
def Unpushed (n : SwitchName) : Scenario → List Move → Prop
  | _, [] => True
  | x, m :: rest => ¬ x.Pushes n m ∧ (x.make m).Unpushed n rest

/-- A switch keeps its program, unless it is made to take one. -/
theorem pipeline_make {m : Move} (h : ¬ x.Pushes n m) :
    ((x.make m).system.switch n).agent.pipeline = (x.system.switch n).agent.pipeline := by
  obtain ⟨es, -, hb⟩ | ⟨name, request, r, hm, hr, hb⟩ | hsame := stores_make x m n
  · exact congrArg Prod.snd hb
  · rw [hb]
    cases r with
    | set r =>
      obtain ⟨hreply, -, hstores⟩ | ⟨-, hsame⟩ := (x.system.switch n).agent.setPipeline_cases r
      · -- the agent has taken it, so it can only have been a verification
        refine (congrArg Prod.snd hstores).trans (if_pos (Decidable.of_not_not fun hv => ?_))
        exact h ⟨name, request, r, hm, hr, hv, hreply⟩
      · exact congrArg Prod.snd hsame
    | get request => exact congrArg Prod.snd (Agent.stores_getPipeline _ request)
    | read query => exact congrArg Prod.snd (Agent.stores_read _ query)
    | write batch =>
      obtain ⟨_, -, -, hstores⟩ | ⟨-, hsame⟩ := (x.system.switch n).agent.write_cases batch
      · exact congrArg Prod.snd hstores
      · exact congrArg Prod.snd hsame
  · exact congrArg Prod.snd hsame

theorem pipeline_after {ms : List Move} (h : x.Unpushed n ms) :
    ((x.after ms).system.switch n).agent.pipeline = (x.system.switch n).agent.pipeline := by
  induction ms generalizing x with
  | nil => rfl
  | cons m rest ih => exact (ih h.2).trans (pipeline_make h.1)

/-! ### Answers -/

/-- A client of a switch, whose channel answers by no script, asks whether it runs a program with its data,
and sooner or later is told so or not. -/
def Answers (x : Scenario) (n : SwitchName) (p : Pipeconf) (deviceData : Bytes) (b : Bool) : Prop :=
  ∃ name client conf id ms, x.system.handles.find? client = some id ∧
    x.system.catalog.pipeconf? conf = some p ∧ (x.system.client id).switch = n ∧
    (x.system.switch n).scriptedConfigs = [] ∧
    ⟨(x.system.newCall id).2, .returned (.answer b), none⟩ ∈
      ((x.make (.start name (.isPipelineSet client conf deviceData))).after ms).system.finished

/-- The answer is what the comparison with the stored program comes to when the client asks. -/
theorem Answers.eq_runs {p : Pipeconf} {deviceData : Bytes} {b : Bool} (ho : x.Orderly)
    (h : x.Answers n p deviceData b) : b = (x.system.switch n).agent.runs p deviceData := by
  obtain ⟨name, client, conf, id, ms, hh, hf, rfl, hscript, hanswer⟩ := h
  obtain ⟨stray, ha⟩ := ho.attended
  have hK : x.callOf? (.isPipelineSet client conf deviceData) = some (x.system.newCall id).2 := by
    simp [callOf?, hh, hf]
  have hfin := returned_at_once ho.valid ha ho.spent hK rfl name ms hanswer rfl rfl
  simp only [make, start, onClient, onPipeconf, hh, hf] at hfin
  obtain ⟨⟨token, hopen⟩, hfault⟩ := System.asked_of_returned hscript hfin
  have hruns := System.isPipelineConfigSet_answers hopen hscript hfault p deviceData
  cases List.append_cancel_left (hfin.symm.trans hruns)
  rfl

/-! ### The theorem -/

/-- After every run: whoever asks in its open session is told whether its switch runs a program, unless a
fault waits.  As long as the agent has taken none, it does not run the one in mind.  After a push has
returned, and as long as the agent takes no other program, it does exactly if the cookies are the same, or
if program and data are the same where the agent keeps no cookies.  Both come to the same unless what is
hashed collides. -/
theorem program_recognised (devices : List String) (confs : List Pipeconf)
    (bindings : List (String × PipeconfId)) (config : ConfigChange) (capacity : Nat)
    (ms : List Move) :
    let x₀ := initial devices confs bindings config capacity
    let x := x₀.after ms
    -- an answer is given
    (∀ name client conf id p deviceData, x.system.handles.find? client = some id →
      x.system.catalog.pipeconf? conf = some p → (x.system.client id).scope.isOpen = true →
      let w := x.system.switch (x.system.client id).switch
      w.scriptedConfigs = [] → w.agent.nextFault .getPipeline = none →
        ∃ b, (x.make (.start name (.isPipelineSet client conf deviceData))).system.finished =
          x.system.finished ++ [⟨(x.system.newCall id).2, .returned (.answer b), none⟩]) ∧
    -- before a push
    (∀ n, x₀.Unpushed n ms → ∀ p deviceData b, x.Answers n p deviceData b → b = false) ∧
    -- after a push has returned
    ∀ name client conf id p deviceData ms', x.system.handles.find? client = some id →
      x.system.catalog.pipeconf? conf = some p →
      let n := (x.system.client id).switch
      let pushed := x.make (.start name (.setPipeline client conf deviceData))
      ⟨(x.system.newCall id).2, .returned .done, none⟩ ∈ (pushed.after ms').system.finished →
      ∃ p4info, p.p4info? = some p4info ∧
        -- both ways to compare come to the same
        (∀ p' deviceData', ¬ Sha256.Collide (hashed p' deviceData') (hashed p deviceData) →
          (p'.fingerprint = p.fingerprint ↔ p'.p4info? = p.p4info?) →
            (pipelineCookie p' deviceData' = pipelineCookie p deviceData ↔
              p'.p4info? = some p4info ∧ deviceData' = deviceData)) ∧
        -- with anything in between but another push
        ∀ ns, pushed.Unpushed n ns →
          let y := pushed.after ns
          (∀ p' deviceData' b, y.Answers n p' deviceData' b →
            (b = true ↔ if (y.system.switch n).agent.keepsCookies
              then pipelineCookie p' deviceData' = pipelineCookie p deviceData
              else p'.p4info? = some p4info ∧ deviceData' = deviceData)) ∧
          ∀ b, y.Answers n p deviceData b → b = true := by
  intro x₀ x
  have ho : x.Orderly := orderly_after devices confs bindings config capacity ms
  refine ⟨fun name client conf id p deviceData hh hf hopen => ?_, fun n hun p deviceData b hb => ?_, ?_⟩
  · intro w hscript hfault
    obtain ⟨token, htoken⟩ := (ho.valid.system.scopes id).openToken?_of_isOpen hopen
    simp only [make, start, onClient, onPipeconf, hh, hf]
    exact ⟨_, System.isPipelineConfigSet_answers htoken hscript hfault p deviceData⟩
  · have hnone : (x.system.switch n).agent.pipeline = none := by
      rw [pipeline_after hun, switch_initial]
    rw [hb.eq_runs ho, Agent.runs, hnone]
  intro name client conf id p deviceData ms' hh hf n pushed hreturns
  obtain ⟨stray, ha⟩ := ho.attended
  have hK : x.callOf? (.setPipeline client conf deviceData) = some (x.system.newCall id).2 := by
    simp [callOf?, hh, hf]
  have hpush : pushed.system = (x.system.setPipelineConfig id p deviceData).1 := by
    simp only [pushed, make, start, onClient, onPipeconf, hh, hf]
    rfl
  have hfin := returned_at_once ho.valid ha ho.spent hK rfl name ms' hreturns rfl rfl
  obtain ⟨p4info, hp4, hstored⟩ := System.setPipelineConfig_returns (hpush ▸ hfin)
  rw [← hpush] at hstored
  refine ⟨p4info, hp4, fun p' deviceData' hc hfp => hp4 ▸ cookie_eq_iff hc hfp, fun ns hun => ?_⟩
  intro y
  have hy : y.Orderly := (ho.make _).after ns
  have hruns : ∀ p' deviceData' b, y.Answers n p' deviceData' b →
      (b = true ↔ if (y.system.switch n).agent.keepsCookies
        then pipelineCookie p' deviceData' = pipelineCookie p deviceData
        else p'.p4info? = some p4info ∧ deviceData' = deviceData) := fun p' deviceData' b hb => by
    rw [hb.eq_runs hy]
    exact Agent.runs_pushed ((pipeline_after hun).trans hstored)
  refine ⟨hruns, fun b hb => (hruns p deviceData b hb).mpr ?_⟩
  split
  · rfl
  · exact ⟨hp4, rfl⟩

/-- A client has opened its session and is master. -/
def mastered : List Move :=
  [.act (.new ⟨⟨"leaf"⟩, 1⟩ "leaf" none), .start "t0" (.openSession "leaf"), .poll, .poll, .poll,
   .act (.run "leaf" ⟨0, 5⟩), .poll, .poll, .poll, .poll]

/-- The agent forgets cookies, and the client opens another session. -/
def reopened : List Move :=
  [.act (.steer "leaf" (.keepCookies false)), .act (.close "leaf"), .poll, .poll, .poll,
   .start "t2" (.openSession "leaf"), .poll, .poll, .poll]

/-- A program is recognised after its push but not before, in another session and without cookies.  Another
one is not, neither by its cookie nor where everything is compared. -/
theorem program_recognised_reopened :
    let basic : Pipeconf := { id := ⟨"basic"⟩, fingerprint := 1, description := [1] }
    let other : Pipeconf := { id := ⟨"other"⟩, fingerprint := 2, description := [2] }
    let x₀ := initial ["leaf"] [basic, other] [] {} 16
    let x := x₀.after mastered
    let pushed := x.make (.start "t1" (.setPipeline "leaf" ⟨"basic"⟩ [7]))
    let y := pushed.after reopened
    x.Answers "leaf" basic [7] false ∧
      (y.Answers "leaf" basic [7] true ∧ ∀ b, y.Answers "leaf" basic [7] b → b = true) ∧
      (∀ b, y.Answers "leaf" other [7] b → b = false) ∧
      pipelineCookie other [7] ≠ pipelineCookie basic [7] := by
  intro basic other x₀ x pushed y
  have recognised := program_recognised ["leaf"] [basic, other] [] {} 16 mastered
  extract_lets at recognised
  obtain ⟨returns, before, after⟩ := recognised
  have hun : x₀.Unpushed "leaf" mastered := by
    simp [mastered, Unpushed, Pushes, sent?, raw?]
  have hun' : pushed.Unpushed "leaf" reopened := by
    simp [reopened, Unpushed, Pushes, sent?, raw?]
  have hreturns : (⟨(x.system.newCall ⟨⟨"leaf"⟩, 0⟩).2, .returned .done, none⟩ : Finished) ∈
      (pushed.after []).system.finished := by decide +kernel
  obtain ⟨hh, hf, hn, hopen⟩ : x.system.handles.find? "leaf" = some ⟨⟨"leaf"⟩, 0⟩ ∧
      x.system.catalog.pipeconf? ⟨"basic"⟩ = some basic ∧
      (x.system.client ⟨⟨"leaf"⟩, 0⟩).switch = "leaf" ∧
      (x.system.client ⟨⟨"leaf"⟩, 0⟩).scope.isOpen = true := by decide +kernel
  obtain ⟨hscript, hfault⟩ : (x.system.switch "leaf").scriptedConfigs = [] ∧
      (x.system.switch "leaf").agent.nextFault .getPipeline = none := by decide +kernel
  have hcookies : ((x.make (.start "t1" (.setPipeline "leaf" ⟨"basic"⟩ [7]))).after
      reopened |>.system.switch "leaf").agent.keepsCookies = false := by decide +kernel
  have hcollide : ¬ Sha256.Collide (hashed other [7]) (hashed basic [7]) :=
    fun hc => absurd hc.2 (by decide +kernel)
  have hy : y.Answers "leaf" basic [7] true :=
    ⟨"t3", "leaf", ⟨"basic"⟩, ⟨⟨"leaf"⟩, 0⟩, [], by decide +kernel, by decide +kernel,
      by decide +kernel, by decide +kernel, by decide +kernel⟩
  -- The facts above are evaluated; the rest must not evaluate the run again.
  clear_value x₀ x
  obtain ⟨p4info, hp4, criteria, recognises⟩ :=
    after "t1" "leaf" ⟨"basic"⟩ _ basic [7] [] hh hf hreturns
  have hreturned := returns "t2" "leaf" ⟨"basic"⟩ _ basic [7] hh hf hopen
  rw [hn] at recognises hreturned
  obtain ⟨b, hb⟩ := hreturned hscript hfault
  have hx : x.Answers "leaf" basic [7] b :=
    ⟨"t2", "leaf", ⟨"basic"⟩, _, [], hh, hf, hn, hscript, by
      rw [after_nil, hb]
      exact List.mem_append_right _ (List.mem_singleton_self _)⟩
  obtain rfl : b = false := before "leaf" hun basic [7] b hx
  obtain ⟨answers, same⟩ := recognises reopened hun'
  obtain rfl : p4info = [1] := (Option.some.inj hp4).symm
  refine ⟨hx, ⟨hy, same⟩, fun b hb => ?_, fun he => ?_⟩
  · have hiff := answers other [7] b hb
    rw [hcookies] at hiff
    exact Bool.eq_false_iff.mpr fun hb => absurd (hiff.mp hb).1 (by decide)
  · exact absurd ((criteria other [7] hcollide (by decide)).mp he).1 (by decide)

end Scenario

end P4Control
