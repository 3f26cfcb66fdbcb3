import P4Control.Proofs.Requests
import P4Control.Proofs.Standing
import P4Control.Proofs.Tasks

namespace P4Control.Scenario

/-!
# Runs, move by move

A run is a list of moves: what users do, the passing of time, and the single steps of the
tasks, in any order.  The runs of a scenario, in which all tasks run after each step, are
among them.

* `Move`, `make`, `after` — the moves and where they lead.
* `run_eq_after` — a scenario is a list of moves.
* `Valid`, `valid_after` — what holds after every list of moves.
* `OfMove`, `Makes.ofMove` — where the incidents of a move come from.
-/

/-! ### Moves -/

/-- What happens without anything else in between. -/
inductive Move where
  | act (action : Action)
  | start (name : String) (request : Request)
  | advance (span : Duration)
  /-- The first runnable task takes one step. -/
  | poll
  /-- Finished requests and new events are taken notice of. -/
  | observe (posted : Nat) (outcome : Outcome)

/-- What a move leads to. -/
def make (x : Scenario) : Move → Scenario
  | .act action => (x.act action).1
  | .start name request => (x.start name request).1
  | .advance span => x.withSystem (x.system.advance span)
  | .poll => x.withSystem x.system.poll
  | .observe posted outcome => (x.observe posted outcome).1

/-- What the moves lead to, one after the other. -/
def after (x : Scenario) (moves : List Move) : Scenario := moves.foldl make x

/-- No moves change nothing. -/
@[simp] theorem after_nil (x : Scenario) : x.after [] = x := rfl

/-- Moves are made one after another. -/
@[simp] theorem after_cons (x : Scenario) (m : Move) (ms : List Move) :
    x.after (m :: ms) = (x.make m).after ms := rfl

/-- A run can be cut in two. -/
theorem after_append (x : Scenario) (ms ns : List Move) :
    x.after (ms ++ ns) = (x.after ms).after ns := List.foldl_append

/-! ### Scenarios as lists of moves -/

/-- The actions of a batch are moves. -/
theorem actAll_eq_after (x : Scenario) (actions : List (Option Action)) :
    ∃ ms, (x.actAll actions).1 = x.after ms := by
  induction actions generalizing x with
  | nil => exact ⟨[], rfl⟩
  | cons action rest ih =>
    cases action with
    | none => exact ih x
    | some action =>
      obtain ⟨ms, h⟩ := ih (x.act action).1
      exact ⟨.act action :: ms, h⟩

/-- What a step does before the tasks run is made of moves. -/
theorem perform_eq_after (x : Scenario) (step : Step) :
    ∃ ms, (x.perform step).1 = x.after ms := by
  cases step with
  | act action => exact ⟨[.act action], rfl⟩
  | batch actions => exact x.actAll_eq_after actions
  | start name request => exact ⟨[.start (x.taskName name) request], rfl⟩
  | advance span => exact ⟨[.advance span], rfl⟩

/-- Running tasks is made of moves. -/
theorem pollFor_eq_after (x : Scenario) (n : Nat) :
    ∃ ms, x.withSystem (System.pollFor n x.system) = x.after ms := by
  induction n generalizing x with
  | zero => exact ⟨[], rfl⟩
  | succ n ih =>
    unfold System.pollFor
    split
    · exact ⟨[], rfl⟩
    · obtain ⟨ms, h⟩ := ih (x.withSystem x.system.poll)
      exact ⟨.poll :: ms, h⟩

/-- A step is a list of moves. -/
theorem step_eq_after (x : Scenario) (step : Step) : ∃ ms, (x.step step).1 = x.after ms := by
  obtain ⟨ms, hm⟩ := x.perform_eq_after step
  obtain ⟨ns, hn⟩ := (x.perform step).1.pollFor_eq_after (x.perform step).1.system.enough
  refine ⟨ms ++ ns ++ [.observe x.system.journal.length (x.perform step).2], ?_⟩
  rw [after_append, after_append, ← hm, ← hn]
  rfl

/-- A scenario is a list of moves. -/
theorem run_eq_after (x : Scenario) (steps : List Step) : ∃ ms, (x.run steps).1 = x.after ms := by
  induction steps generalizing x with
  | nil => exact ⟨[], rfl⟩
  | cons step rest ih =>
    obtain ⟨ms, hm⟩ := x.step_eq_after step
    obtain ⟨ns, hn⟩ := ih (x.step step).1
    refine ⟨ms ++ ns, ?_⟩
    rw [after_append, ← hm, ← hn]
    rfl

/-! ### Read streams in the callers' hands -/

/-- An action takes read streams away at most. -/
theorem mem_reads_act {x : Scenario} {action : Action} {r : ReadCursor}
    (h : r ∈ (x.act action).1.reads.values) : r ∈ x.reads.values := by
  have same : (∀ name, action ≠ .dropRead name) → (x.act action).1.reads = x.reads := by
    intro hn
    cases action with
    | dropRead name => exact absurd rfl (hn name)
    | _ =>
      simp only [act, onClient, onSwitch, onPipeconf, onRaw, sent]
      repeat' first
        | rfl
        | split
  cases action with
  | dropRead name => exact Directory.mem_values_erase h
  | _ => rwa [same (by simp)] at h

/-- A request takes read streams away at most. -/
theorem mem_reads_start {x : Scenario} {name : String} {request : Request} {r : ReadCursor}
    (h : r ∈ (x.start name request).1.reads.values) : r ∈ x.reads.values := by
  have same : (∀ stream, request ≠ .readNext stream) →
      (x.start name request).1.reads = x.reads := by
    intro hn
    cases request with
    | readNext stream => exact absurd rfl (hn stream)
    | _ =>
      simp only [start, onClient, onSwitch, onPipeconf, answered, started, withAgent, withSystem]
      repeat' first
        | rfl
        | split
  cases request with
  | readNext stream =>
    simp only [start] at h
    split at h
    · exact h
    · exact Directory.mem_values_erase h
  | _ => rwa [same (by simp)] at h

/-- The callers get the read streams of the calls that have finished. -/
theorem mem_reads_collect {finished : List Finished} {dropped : List String}
    {tasks : List (String × Pending)} {reads : Directory String ReadCursor} {r : ReadCursor}
    (h : r ∈ (collect finished dropped tasks reads).2.2.values) :
    r ∈ reads.values ∨ ∃ f ∈ finished, f.cursor = some r := by
  induction tasks generalizing dropped reads with
  | nil => exact .inl h
  | cons task rest ih =>
    obtain ⟨name, pending⟩ := task
    unfold collect at h
    split at h
    · exact ih h
    · split at h
      · exact ih h
      · split at h
        · exact ih h
        · next id reading _ f hf =>
          -- only here a caller may get a read stream
          rcases ih h with hin | hf'
          · split at hin
            · next stream cursor hc =>
              rcases Directory.mem_values_insert hin with rfl | hin
              · exact .inr ⟨f, List.mem_of_find?_eq_some hf, hc⟩
              · exact .inl hin
            · exact .inl hin
          · exact .inr hf'

/-! ### What holds after every list of moves -/

/-- The clients are in order, and so are the read streams in the callers' hands. -/
structure Valid (x : Scenario) : Prop where
  system : x.system.Valid
  reads : ∀ r ∈ x.reads.values, x.system.Holds r

/-- The incidents of a move, unless it only takes notice, which lead to the system `t`. -/
inductive Makes (x : Scenario) (t : System) : Move → List Incident → Prop
  | acts (action : Action) (front : List Incident) (id : ClientId) (rest : List Incident)
      (hf : ∀ i ∈ front, x.Causes action i) (hg : x.Goodbye action t id rest) :
      Makes x t (.act action) (front ++ rest)
  | plays (name : String) (request : Request) (id : ClientId) (is rest : List Incident)
      (hc : Course id request.opens is) (hp : System.Parting id t rest) :
      Makes x t (.start name request) (is ++ rest)
  | foreign (name : String) (request : Request) (hf : request.isForeign = true) :
      Makes x t (.start name request) [.foreign]
  | advances (span : Duration) : Makes x t (.advance span) []
  | polls (is : List Incident) (hp : System.Polls x.system t is) : Makes x t .poll is

/-- Where an incident of a move comes from: the action or the call that is made, the task that runs, or
the last holder that has let go of a client. -/
inductive OfMove (x : Scenario) (t : System) : Move → Incident → Prop
  | causes (action : Action) {i : Incident} (hc : x.Causes action i) : OfMove x t (.act action) i
  | closed (action : Action) (id : ClientId) (wasOpen : Bool) (hc : x.closes action id = true) :
      OfMove x t (.act action) (.closed id wasOpen)
  | released (m : Move) (id : ClientId) (wasOpen : Bool) (hh : t.isHeld id = false) :
      OfMove x t m (.released id wasOpen)
  | call (name : String) (request : Request) (id : ClientId) {i : Incident}
      (hi : i.OfCall id request.opens) : OfMove x t (.start name request) i
  | foreign (name : String) (request : Request) (hf : request.isForeign = true) :
      OfMove x t (.start name request) .foreign
  | task {i : Incident} (hi : x.system.OfPoll t i) : OfMove x t .poll i

/-- What happens in a move is of one of the kinds that can. -/
theorem Makes.ofMove {x : Scenario} {t : System} {m : Move} {is : List Incident}
    (h : Makes x t m is) {i : Incident} (hi : i ∈ is) : x.OfMove t m i := by
  cases h with
  | acts action front id rest hf hg =>
    rcases List.mem_append.mp hi with hi | hi
    · exact .causes action (hf i hi)
    · obtain ⟨wasOpen, ⟨rfl, hc⟩ | ⟨rfl, hh⟩⟩ := hg.closed_or_released hi
      · exact .closed action id wasOpen hc
      · exact .released _ id wasOpen hh
  | plays name request id is rest hc hp =>
    rcases List.mem_append.mp hi with hi | hi
    · exact .call name request id (hc.ofCall hi)
    · obtain ⟨hh, wasOpen, rfl⟩ := hp.released hi
      exact .released _ id wasOpen hh
  | foreign name request hf =>
    rw [List.mem_singleton.mp hi]
    exact .foreign name request hf
  | advances span => cases hi
  | polls is hp => exact .task (hp.ofPoll hi)

/-- Waking the calls whose timers have fired is quiet. -/
theorem quiet_foldl_wake (fired : List Timer) (s : System) :
    System.Quiet s (fired.foldl (fun s t => s.wake (.resume t.call)) s) := by
  induction fired generalizing s with
  | nil => exact .refl s
  | cons t rest ih => exact (System.quiet_wake (.resume t.call)).trans (ih _)

/-- Time passes quietly. -/
theorem quiet_advance (s : System) (span : Duration) : System.Quiet s (s.advance span) := by
  refine System.Quiet.trans ?_ (quiet_foldl_wake
    (System.due ⟨s.now.nanoseconds + span.nanoseconds⟩ s.timers) _)
  exact System.quiet_of_eq rfl rfl rfl rfl rfl rfl rfl fun _ h => h

/-- A move that does not only take notice leads on by its incidents. -/
theorem leads_make {x : Scenario} (hv : x.Valid) {m : Move}
    (hm : ∀ posted outcome, m ≠ .observe posted outcome) :
    ∃ is, Makes x (x.make m).system m is ∧ x.system.Leads is (x.make m).system := by
  cases m with
  | act action =>
    obtain ⟨front, id, rest, hf, hg, hl⟩ := leads_act hv.system action
    exact ⟨_, .acts action front id rest hf hg, hl⟩
  | start name request =>
    rcases leads_start hv.system hv.reads name request with ⟨id, is, rest, hc, hp, hl⟩ | ⟨hf, hl⟩
    · exact ⟨_, .plays name request id is rest hc hp, hl⟩
    · exact ⟨_, .foreign name request hf, hl⟩
  | advance span => exact ⟨[], .advances span, .of_quiet (quiet_advance x.system span)⟩
  | poll =>
    obtain ⟨is, hp, hl⟩ := System.leads_poll hv.system
    exact ⟨is, .polls is hp, hl⟩
  | observe posted outcome => exact absurd rfl (hm posted outcome)

/-- A move only takes notice, or it leads on by its incidents. -/
theorem observes_or_leads {x : Scenario} (hv : x.Valid) (m : Move) :
    (∃ posted outcome, m = .observe posted outcome) ∨
      ∃ is, Makes x (x.make m).system m is ∧ x.system.Leads is (x.make m).system := by
  cases m with
  | observe posted outcome => exact .inl ⟨posted, outcome, rfl⟩
  | _ => exact .inr (leads_make hv (by simp))

/-- A read stream in the hands of the callers was there before, or is the result of a call that has
ended. -/
theorem mem_reads_make {x : Scenario} {m : Move} {r : ReadCursor}
    (h : r ∈ (x.make m).reads.values) :
    r ∈ x.reads.values ∨ ∃ f ∈ x.system.finished, f.cursor = some r := by
  cases m with
  | act action => exact .inl (mem_reads_act h)
  | start name request => exact .inl (mem_reads_start h)
  | advance span => exact .inl h
  | poll => exact .inl h
  | observe posted outcome => exact mem_reads_collect h

/-- A move keeps a scenario valid. -/
theorem Valid.make {x : Scenario} (hv : x.Valid) (m : Move) : (x.make m).Valid := by
  have hholds : ∀ r ∈ (x.make m).reads.values, x.system.Holds r := by
    intro r h
    rcases mem_reads_make h with h | ⟨f, hf, hc⟩
    · exact hv.reads r h
    · exact hv.system.cursors f hf r hc
  rcases observes_or_leads hv m with ⟨posted, outcome, rfl⟩ | ⟨is, -, hl⟩
  · have h := hv.system
    exact ⟨⟨h.scopes, h.listeners, h.mastership, h.waits, h.nodup, h.numbered, h.handles, h.registry,
      by intro f hf; cases hf⟩, hholds⟩
  · exact ⟨hl.valid hv.system, fun r h => hl.holds hv.system (hholds r h)⟩

/-- So does a run. -/
theorem Valid.after {x : Scenario} (hv : x.Valid) (ms : List Move) : (x.after ms).Valid := by
  induction ms generalizing x with
  | nil => exact hv
  | cons m rest ih => exact ih (hv.make m)

/-- A scenario is valid at the start. -/
theorem valid_initial (devices : List String) (confs : List Pipeconf)
    (bindings : List (String × PipeconfId)) (config : ConfigChange) (capacity : Nat) :
    (initial devices confs bindings config capacity).Valid :=
  ⟨System.valid_of_blank rfl rfl rfl rfl rfl, by intro r h; cases h⟩

end P4Control.Scenario
