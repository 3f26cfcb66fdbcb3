import P4Control.Proofs.Actions
import P4Control.Proofs.Builders

namespace P4Control

/-!
# What requests do

A request on a client runs one of the courses of its call; a request past any client is
quiet, or sets up a stream that no session has anything to do with.

* `Scenario.Request.opens`, `Scenario.Request.isForeign` — the kinds of requests.
* `Scenario.asked?` — the client that a request is made on.
* `starts_start`, `leads_start` — what starting a request does.
-/

namespace Scenario

/-- Whether a request opens the session of a client. -/
def Request.opens : Request → Bool
  | .openSession _ => true
  | _ => false

/-- Whether a request sets up a stream past any client. -/
def Request.isForeign : Request → Bool
  | .rawOpen _ => true
  | _ => false

variable {x : Scenario}

/-! ### Starting a request -/

/-- The client that a request is made on. -/
def asked? (x : Scenario) : Request → Option ClientId
  | .openSession client | .setPipeline client _ _ | .isPipelineSet client _ _ | .read client _ _
  | .openRead client _ _ | .write client _ _ _ => x.system.handles.find? client
  | .readNext stream => (x.reads.find? stream).map (·.client)
  | _ => none

/-- What starting a request does to the system. -/
def Starts (x : Scenario) (request : Request) (t : System) : Prop :=
  (∃ id, x.asked? request = some id ∧ x.system.Plays id request.opens t) ∨
    System.Quiet x.system t ∨ request.isForeign = true ∧ x.system.Leads [.foreign] t

theorem Starts.of_quiet {request : Request} {t : System} (q : System.Quiet x.system t) :
    x.Starts request t := .inr (.inl q)

theorem Starts.self {request : Request} : x.Starts request x.system := .of_quiet (.refl x.system)

theorem system_answered {α : Type} (x : Scenario) (name : String) (answer : Answer α)
    (reply : α → Reply) : (x.answered name answer reply).1.system = x.system := by
  cases answer <;> rfl

/-- A call past any client that leaves the agent in its role. -/
theorem starts_withAgent {request : Request} {switch : SwitchName} {agent : Agent}
    (h : (x.system.switch switch).agent.SameRole agent) :
    x.Starts request (x.withAgent switch agent).system :=
  .of_quiet (System.quiet_updateSwitch (f := fun w => { w with agent })
    (Switch.line_eq h rfl rfl rfl))

theorem switch_of_find? {s : System} {name : SwitchName} {w : Switch}
    (h : s.switches.find? name = some w) : s.switch name = w := by
  unfold System.switch
  rw [h]
  rfl

/-- What the end of either half of a stream keeps is kept where a stream is let go of. -/
theorem holds_discard {P : System → Prop} {s : System} {raw : RawStream} (hs : P s)
    (hu : ∀ t, P t → P (t.dropUplink raw.id)) (hl : ∀ t, P t → P (t.dropListener raw.id)) :
    P (discard s raw) := by
  have h : P (if raw.sends then s.dropUplink raw.id else s) := by
    split
    · exact hu s hs
    · exact hs
  unfold discard
  dsimp only
  split
  · exact hl _ h
  · exact h

theorem passesBy_discard (s : System) (raw : RawStream) : System.PassesBy s (discard s raw) :=
  holds_discard (.refl s) (fun t h => h.trans (.dropUplink t _)) fun t h => h.trans (.dropListener t _)

/-- A stream is set up past any client, and the one that had its name is let go of. -/
theorem holds_rawOpen {P : System → Prop} {name : String} {n : SwitchName} (hs : P x.system)
    (ha : P (x.system.attachStream n none).1)
    (hd : ∀ t old, x.raws.find? name = some old → P t → P (discard t old)) :
    P (x.start name (.rawOpen n)).1.system := by
  refine holds_onSwitch hs fun _ _ => ?_
  generalize x.system.attachStream n none = attached at ha
  obtain ⟨t, answer⟩ := attached
  cases answer with
  | reply st =>
    dsimp only
    split
    · next old ho => exact hd t old ho ha
    · exact ha
  | refused status => exact ha
  | silence => exact ha

/-- A stream that is set up past any client passes all of them by. -/
theorem starts_rawOpen (name : String) (n : SwitchName) :
    x.Starts (.rawOpen n) (x.start name (.rawOpen n)).1.system := by
  have h : System.PassesBy x.system (x.start name (.rawOpen n)).1.system :=
    holds_rawOpen (.refl _)
      (x.system.holds_attachStream (.updateSwitch _ n _) fun t ht => ht.trans (.connect t n none))
      fun t old _ ht => ht.trans (passesBy_discard t old)
  exact .inr (.inr ⟨rfl, .one h.foreign⟩)

/-- The effect of starting a request. -/
theorem starts_start (hv : x.system.Valid) (hr : ∀ r ∈ x.reads.values, x.system.Holds r)
    (name : String) (request : Request) :
    x.Starts request (x.start name request).1.system := by
  -- Requests through a client are plays of that client; requests to a switch leave its role alone.
  cases request with
  | openSession client =>
    exact holds_onClient .self fun id h => .inl ⟨id, h, System.plays_openSession (hv.knows_of_handle h)⟩
  | setPipeline client conf data =>
    exact holds_onPipeconf .self fun id conf' h =>
      .inl ⟨id, h, System.plays_setPipelineConfig hv (hv.knows_of_handle h) conf' data⟩
  | isPipelineSet client conf data =>
    exact holds_onPipeconf .self fun id conf' h =>
      .inl ⟨id, h, System.plays_isPipelineConfigSet hv (hv.knows_of_handle h) conf' data⟩
  | read client conf query =>
    refine holds_onPipeconf .self fun id conf' h =>
      .inl ⟨id, h, System.plays_read hv (hv.knows_of_handle h) _ fun error he => ?_⟩
    rw [ReadRequest.error_foldl] at he
    obtain ⟨table, rfl⟩ := Pipeconf.tableError?_eq_some he
    rfl
  | openRead client conf query =>
    refine holds_onPipeconf .self fun id conf' h =>
      .inl ⟨id, h, System.plays_openRead hv (hv.knows_of_handle h) _ fun error he => ?_⟩
    rw [ReadRequest.error_foldl] at he
    obtain ⟨table, rfl⟩ := Pipeconf.tableError?_eq_some he
    rfl
  | readNext stream =>
    simp only [start]
    split
    · exact .self
    · next cursor h =>
      refine .inl ⟨cursor.client, ?_,
        System.plays_readNext hv (hr cursor (Directory.mem_values_of_find? h))⟩
      rw [asked?, h]
      rfl
  | write client conf updates atomicity =>
    refine holds_onPipeconf .self fun id conf' h =>
      .inl ⟨id, h, System.plays_write hv (hv.knows_of_handle h) _ fun error he => ?_⟩
    have he' : (writeOf conf' updates atomicity).error = some error := he
    rw [error_writeOf] at he'
    obtain ⟨table, rfl⟩ := Pipeconf.tableError?_eq_some he'
    rfl
  | rawOpen switch => exact starts_rawOpen name switch
  | rawSet switch request =>
    refine holds_onSwitch .self fun w h => ?_
    rw [system_answered]
    exact starts_withAgent (switch_of_find? h ▸ Agent.sameRole_setPipeline _ request)
  | rawGet switch request =>
    refine holds_onSwitch .self fun w h => ?_
    rw [system_answered]
    exact starts_withAgent (switch_of_find? h ▸ Agent.sameRole_getPipeline _ request)
  | rawRead switch request =>
    refine holds_onSwitch .self fun w h => ?_
    have q : x.Starts (.rawRead switch request)
        (x.withAgent switch (w.agent.read request).1).system :=
      starts_withAgent (switch_of_find? h ▸ Agent.sameRole_read _ request)
    dsimp only
    split <;> exact q
  | rawWrite switch request =>
    refine holds_onSwitch .self fun w h => ?_
    rw [system_answered]
    exact starts_withAgent (switch_of_find? h ▸ Agent.sameRole_write _ request)

/-- A request runs one of the courses of its call, or is past any client. -/
theorem leads_start (hv : x.system.Valid) (hr : ∀ r ∈ x.reads.values, x.system.Holds r)
    (name : String) (request : Request) :
    (∃ id, x.system.Plays id request.opens (x.start name request).1.system) ∨
      request.isForeign = true ∧ x.system.Leads [.foreign] (x.start name request).1.system := by
  rcases starts_start hv hr name request with ⟨id, -, hp⟩ | q | hf
  · exact .inl ⟨id, hp⟩
  · exact .inl ⟨default, .of_quiet q⟩
  · exact .inr hf

end Scenario

end P4Control
