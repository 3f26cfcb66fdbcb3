import P4Control.Proofs.Changes
import P4Control.Proofs.Mastership
import P4Control.Proofs.Outcomes

namespace P4Control

/-!
# Only the master changes a switch

What a switch stores changes by its steering, or because its agent takes a request that carries the
election id of the master.  A write or a push that fails has changed nothing, and neither has one that
is still pending, unless the switch has answered in a way that the client cannot make sense of.

* `Request.changes` — the requests that are meant to change what a switch stores.
* `keeps_or_ends` — such a request changes nothing, or its call ends at once.
* `sent_election` — the election id that a client sends is that of its last claim.
* `stores_guarded` — only the master changes a switch, and a failed call leaves it alone.
-/

/-- Updates go through the channel to an agent that replies, or change nothing. -/
theorem Switch.write_cases (w : Switch) (batch : UpdateBatch) :
    (∃ statuses, (w.write batch).2 = .reply statuses) ∨
      (w.write batch).1.agent.stores = w.agent.stores := by
  unfold write
  dsimp only
  split
  · exact .inr rfl
  · obtain ⟨statuses, hr, -⟩ | ⟨-, hs⟩ := w.agent.write_cases batch
    · exact .inl ⟨statuses, hr⟩
    · exact .inr hs

namespace System

variable {s t : System} {K : CallId} {stray : ClientId → Token → Prop}

/-- A push changes nothing that is stored, or it returns at once. -/
theorem keeps_or_returns_setPipelineConfig (s : System) (id : ClientId) (conf : Pipeconf)
    (deviceData : Bytes) :
    KeepsStores s (s.setPipelineConfig id conf deviceData).1 ∨
      (s.setPipelineConfig id conf deviceData).1.finished =
        s.finished ++ [⟨(s.newCall id).2, .returned .done, none⟩] := by
  obtain ⟨error, -, he⟩ | ⟨token, request, -, he⟩ := s.setPipelineConfig_cases id conf deviceData
  · rw [he]
    exact .inl (.of_same fun n => switch_complete _ _ _ n)
  · rw [he]
    obtain ⟨hreply, -⟩ | ⟨hno, hsame⟩ :=
      (s.switch (s.client id).switch).agent.setPipeline_cases request
    · refine .inr ?_
      rw [show ((s.switch (s.client id).switch).setPipeline request).2 = _ from hreply, await_reply]
      exact finished_complete _ _ _
    · have hkeeps : KeepsStores s _ :=
        keeps_updateSwitch s (s.client id).switch
          (f := fun _ => ((s.switch (s.client id).switch).setPipeline request).1) hsame
      exact .inl (hkeeps.trans (keeps_await (s := (s.newCall id).1.updateSwitch _ _)
        fun a ha => absurd ha hno))

/-- A write changes nothing that is stored, or it ends at once.  It fails then only if the answer of the
switch makes no sense. -/
theorem keeps_or_ends_write (s : System) (id : ClientId) (request : WriteRequest) :
    KeepsStores s (s.write id request).1 ∨
      ∃ result, (s.write id request).1.finished =
          s.finished ++ [⟨(s.newCall id).2, result, none⟩] ∧
        ∀ error, result = .failed error →
          ∃ device message, error = .protocolViolation device message := by
  obtain ⟨result, -, -, he⟩ | ⟨token, batch, -, he⟩ := s.write_cases id request
  · rw [he]
    exact .inl (.of_same fun n => switch_complete _ _ _ n)
  · rw [he]
    obtain ⟨statuses, hreply⟩ | hsame := (s.switch (s.client id).switch).write_cases batch
    · rw [hreply, await_reply]
      refine .inr ⟨_, finished_complete _ _ _, fun error herror => ?_⟩
      unfold WriteRequest.conclude at herror
      split at herror
      · cases herror
      · exact ⟨_, _, (CallResult.failed.inj herror).symm⟩
    · have hkeeps : KeepsStores s _ :=
        keeps_updateSwitch s (s.client id).switch
          (f := fun _ => ((s.switch (s.client id).switch).write batch).1) hsame
      exact .inl (hkeeps.trans (keeps_await (s := (s.newCall id).1.updateSwitch _ _)
        fun statuses _ => .of_same fun n => switch_complete _ _ _ n))

end System

namespace Scenario

variable {x : Scenario} {K : CallId} {stray : ClientId → Token → Prop}

/-- Whether a request is meant to change what the switch of a client stores. -/
def Request.changes : Request → Bool
  | .setPipeline _ _ _ | .write _ _ _ _ => true
  | _ => false

/-- A request that is meant to change what a switch stores changes nothing, or its call ends at once.  It
fails then only if the answer of the switch makes no sense. -/
theorem keeps_or_ends {request : Request} (hc : request.changes = true)
    (hK : x.callOf? request = some K) (name : String) :
    System.KeepsStores x.system (x.make (.start name request)).system ∨
      ∃ result, (x.make (.start name request)).system.finished =
          x.system.finished ++ [⟨K, result, none⟩] ∧
        ∀ error, result = .failed error →
          ∃ device message, error = .protocolViolation device message := by
  cases request with
  | setPipeline client conf data =>
    simp only [callOf?, Option.bind_eq_bind, Option.bind_eq_some_iff, Option.some.injEq] at hK
    obtain ⟨id, hh, conf', hf, rfl⟩ := hK
    simp only [make, start, onClient, onPipeconf, hh, hf, started]
    exact (System.keeps_or_returns_setPipelineConfig x.system id conf' data).imp_right
      fun hfin => ⟨_, hfin, fun _ he => by cases he⟩
  | write client conf updates atomicity =>
    simp only [callOf?, Option.bind_eq_bind, Option.bind_eq_some_iff, Option.some.injEq] at hK
    obtain ⟨id, hh, conf', hf, rfl⟩ := hK
    simp only [make, start, onClient, onPipeconf, hh, hf, started]
    exact System.keeps_or_ends_write x.system id _
  | _ => cases hc

/-- A call has come to nothing: it has failed for another reason than that the answer of its switch made no
sense, or it is still pending. -/
def Fruitless (x : Scenario) (K : CallId) : Prop :=
  (∃ f ∈ x.system.finished, f.call = K ∧ ∃ error, f.result = .failed error ∧
    ∀ device message, error ≠ .protocolViolation device message) ∨
  ∃ wait, x.system.WaitsFor K wait

/-- A call that comes to nothing, sooner or later, has changed nothing when it was started. -/
theorem keeps_of_fruitless (hv : x.Valid) (ha : x.system.Attended none stray) (hs : x.system.Spent)
    {request : Request} (hc : request.changes = true) (hK : x.callOf? request = some K)
    (name : String) (ms : List Move) (h : ((x.make (.start name request)).after ms).Fruitless K) :
    System.KeepsStores x.system (x.make (.start name request)).system := by
  refine (keeps_or_ends hc hK name).resolve_right ?_
  rintro ⟨result, hfin, hresult⟩
  -- the call has ended at once, so it does not wait and ends no more
  obtain ⟨f, hf, hcall, error, he, hne⟩ | ⟨wait, hw⟩ := h
  · rw [eq_of_ended_at_once hv ha hs hK hfin ms hf hcall] at he
    obtain ⟨device, message, rfl⟩ := hresult error he
    exact hne device message rfl
  · obtain ⟨-, -, -, hover⟩ | ⟨hsame, -⟩ := start_outcome hv ha hK name
    · exact (over_after (hv.make _) (attended_make hv ha _) hover ms).1.2 wait hw
    · rw [hfin] at hsame
      exact absurd (List.append_right_eq_self.mp hsame) (List.cons_ne_nil _ _)

/-! ### The election id of a request -/

/-- A client sends a request in its open session, on behalf of the call that has been started, to its own
switch and with the last used election id. -/
theorem sent_cases {request : Request} {n : SwitchName} {r : P4Control.Request}
    (h : x.sent? request = some (n, r)) :
    request.changes = true ∧ ∃ K, x.callOf? request = some K ∧
      (x.system.client K.client).switch = n ∧
      (x.system.client K.client).scope.openToken?.isSome = true ∧
      r.election? = (x.system.client K.client).arbiter.lastUsed.map (·.toWire) := by
  cases request with
  | setPipeline client conf data =>
    simp only [sent?, Option.bind_eq_bind, Option.bind_eq_some_iff, Option.map_eq_some_iff] at h
    obtain ⟨id, hh, conf', hf, push, hp, he⟩ := h
    obtain ⟨rfl, rfl⟩ := Prod.mk.inj he
    refine ⟨rfl, (x.system.newCall id).2, by simp [callOf?, hh, hf], rfl, ?_⟩
    obtain ⟨token, p4info, ho, -, rfl⟩ := Client.push?_eq_some hp
    exact ⟨by rw [show (x.system.newCall id).2.client = id from rfl, ho]; rfl, rfl⟩
  | write client conf updates atomicity =>
    simp only [sent?, Option.bind_eq_bind, Option.bind_eq_some_iff, Option.map_eq_some_iff] at h
    obtain ⟨id, hh, conf', hf, batch, hb, he⟩ := h
    obtain ⟨rfl, rfl⟩ := Prod.mk.inj he
    refine ⟨rfl, (x.system.newCall id).2, by simp [callOf?, hh, hf], rfl, ?_⟩
    obtain ⟨token, ho, rfl⟩ := Client.batch?_eq_some hb
    exact ⟨by rw [show (x.system.newCall id).2.client = id from rfl, ho]; rfl, rfl⟩
  | _ => cases h

/-- The last used election id of a client is that of its last claim since its last scope began. -/
theorem lastUsed_after (devices : List String) (confs : List Pipeconf)
    (bindings : List (String × PipeconfId)) (config : ConfigChange) (capacity : Nat)
    (ms : List Move) (id : ClientId) :
    let x := initial devices confs bindings config capacity
    ((x.after ms).system.client id).arbiter.lastUsed = lastClaim (x.history id ms) := by
  intro x
  have hmark := mark_after (valid_initial devices confs bindings config capacity) id ms
  have hstate := state_append [] (x.history id ms)
  rw [show x.mark id = (lastClaim [], mastershipOf []) from rfl, ← hstate, List.nil_append] at hmark
  exact congrArg Prod.fst hmark

/-! ### The theorem -/

/-- After every run: whatever a move changes in what a switch stores, it adds entities by steering, or it
makes the agent handle a request that carries the election id of the master.  A push or a write that
fails, unless the answer of the switch makes no sense, or that is pending at any later moment and may be
dropped then, has changed nothing when it was started, and nothing changes where it runs again or is
dropped.  What a client sends goes to its own switch, in its open session, with the election id of its
last claim in this session, and without one if there has been none. -/
theorem stores_guarded (devices : List String) (confs : List Pipeconf)
    (bindings : List (String × PipeconfId)) (config : ConfigChange) (capacity : Nat)
    (ms : List Move) :
    let x₀ := initial devices confs bindings config capacity
    let x := x₀.after ms
    (∀ m n, let a := (x.system.switch n).agent
      let b := ((x.make m).system.switch n).agent
      b.stores ≠ a.stores →
        (∃ es, m = .act (.steer n (.addEntities es)) ∧ b.stores = (a.entities ++ es, a.pipeline)) ∨
        ∃ name request r master, m = .start name request ∧
          (x.sent? request = some (n, r) ∨ x.raw? request = some (n, r)) ∧ b = a.handle r ∧
          a.master = some master ∧ r.election? = some master) ∧
    (∀ name request K, request.changes = true → x.callOf? request = some K →
      ∀ ms', let y := (x.make (.start name request)).after ms'
      y.Fruitless K →
        System.KeepsStores x.system (x.make (.start name request)).system ∧
        System.KeepsStores y.system (y.make .poll).system ∧
        ∀ task, System.KeepsStores y.system (y.make (.act (.abort task))).system) ∧
    ∀ name request n r, x.sent? request = some (n, r) →
      ((x.make (.start name request)).system.switch n).noted = (x.system.switch n).noted ++ [r] ∧
      ∃ K, x.callOf? request = some K ∧ (x.system.client K.client).switch = n ∧
        (x.system.client K.client).scope.isOpen = true ∧
        r.election? = (lastClaim (x₀.history K.client ms)).map (·.toWire) := by
  intro x₀ x
  have hv : x.Valid := (valid_initial devices confs bindings config capacity).after ms
  have ha : x.system.Attended none (x₀.Abandoned ms) :=
    attended_after devices confs bindings config capacity ms
  have hs : x.system.Spent := (orderly_after devices confs bindings config capacity ms).spent
  refine ⟨fun m n hne => ?_, fun name request K hc hK ms' hf => ?_, fun name request n r hsent => ?_⟩
  · obtain hadds | ⟨name, request, r, hm, hr, hb⟩ | hsame := stores_make x m n
    · exact .inl hadds
    · rw [hb] at hne
      obtain ⟨master, hmaster, helection⟩ := Agent.master_of_handle hne
      exact .inr ⟨name, request, r, master, hm, hr, hb, hmaster, helection⟩
    · exact absurd hsame hne
  · exact ⟨keeps_of_fruitless hv ha hs hc hK name ms' hf, System.keeps_poll _,
      fun task => keeps_act (by simp)⟩
  · obtain ⟨-, K, hK, hn, ho, he⟩ := sent_cases hsent
    refine ⟨?_, K, hK, hn, ?_, ?_⟩
    · rw [switch_sent hsent name n, if_pos rfl, Switch.noted_take]
    -- the request was sent in a session, so that session is open
    · obtain ⟨token, ho⟩ := Option.isSome_iff_exists.mp ho
      exact Scope.isOpen_of_openToken? ho
    · rw [he, lastUsed_after]

/-- A client has opened its session and is master.  The next write is refused by a fault. -/
def commissioning : List Move :=
  [.act (.new ⟨⟨"leaf"⟩, 1⟩ "leaf" none), .start "t0" (.openSession "leaf"), .poll, .poll, .poll,
   .act (.run "leaf" ⟨0, 5⟩), .poll, .poll, .poll, .poll,
   .act (.steer "leaf" (.queueFault .write (.fail ⟨.internal, "busy"⟩)))]

/-- A push by the master is stored, and a write that is refused changes nothing. -/
theorem stores_guarded_commissioning :
    let x₀ := initial ["leaf"] [{ id := ⟨"basic"⟩, fingerprint := 1, description := [1] }] [] {} 16
    let x := x₀.after commissioning
    let push : Request := .setPipeline "leaf" ⟨"basic"⟩ [7]
    let write : Request := .write "leaf" ⟨"basic"⟩ [.entity .insert ⟨.tableEntry, 1, [], []⟩] none
    (∃ r master, x.sent? push = some ("leaf", r) ∧
      ((x.make (.start "t1" push)).system.switch "leaf").agent =
        (x.system.switch "leaf").agent.handle r ∧
      (x.system.switch "leaf").agent.master = some master ∧ r.election? = some master) ∧
    System.KeepsStores x.system (x.make (.start "t1" write)).system ∧
    ∃ r, x.sent? write = some ("leaf", r) ∧
      r.election? = (lastClaim (x₀.history ⟨⟨"leaf"⟩, 0⟩ commissioning)).map (·.toWire) := by
  have guarded := stores_guarded ["leaf"]
    [{ id := ⟨"basic"⟩, fingerprint := 1, description := [1] }] [] {} 16 commissioning
  intro x₀ x push write
  extract_lets at guarded
  obtain ⟨guards, spares, sends⟩ := guarded
  have hne : ((x.make (.start "t1" push)).system.switch "leaf").agent.stores ≠
      (x.system.switch "leaf").agent.stores := by decide +kernel
  have hraw : ∀ y : Scenario, y.raw? push = none := fun _ => rfl
  have hK : x.callOf? write = some ⟨⟨⟨"leaf"⟩, 0⟩, 1⟩ := by decide +kernel
  have hf : (⟨⟨⟨⟨"leaf"⟩, 0⟩, 1⟩, .failed (.rpc ⟨"leaf"⟩ "write" .internal "busy"), none⟩ :
      Finished) ∈ (x.make (.start "t1" write)).system.finished := by decide +kernel
  have hsent : (x.sent? write).map (·.1) = some "leaf" := by decide +kernel
  have hc : write.changes = true := rfl
  -- The facts above are evaluated; the rest must not evaluate the run again.
  clear_value x₀ x push write
  refine ⟨?_, ?_, ?_⟩
  · obtain ⟨es, hm, -⟩ | ⟨name, request, r, master, hm, hr, hb, hmaster, he⟩ :=
      guards (.start "t1" push) "leaf" hne
    · cases hm
    · cases hm
      rw [hraw] at hr
      exact ⟨r, master, hr.resolve_right (by simp), hb, hmaster, he⟩
  · exact (spares "t1" write _ hc hK [] (.inl ⟨_, hf, rfl, _, rfl, by simp⟩)).1
  · obtain ⟨⟨n, r⟩, hsent, rfl⟩ := Option.map_eq_some_iff.mp hsent
    obtain ⟨-, K, hK', -, -, he⟩ := sends "t1" write _ r hsent
    rw [hK] at hK'
    cases hK'
    exact ⟨r, hsent, he⟩

end Scenario

end P4Control
