import P4Control.Proofs.PartyActions
import P4Control.Proofs.Line

namespace P4Control

/-!
# The steps that concern a party

Of the steps of several parties, some concern a party and some do not.  Requests keep their names when steps
are left out, and clients lead to the switches of their own parties.

* `Scenario.named` — every request of a run gets its name.
* `Allotment.concerns`, `Allotment.only` — what is left of a run for one party.
* `Allotment.Divides` — every step is addressed to one party or to all.
* `Scenario.Seated`, `seats_of_seated` — clients lead to switches of their own parties, from the start.
-/

namespace Scenario

/-! ### Names of requests -/

/-- The step, with the name under which its request runs if it is the `k`-th. -/
def Step.named (k : Nat) : Step → Step
  | .start none request => .start (some ("t" ++ toString k)) request
  | step => step

/-- The steps from the `k`-th on, with the names under which their requests run. -/
def named : Nat → List Step → List Step
  | _, [] => []
  | k, step :: rest => step.named k :: named (k + 1) rest

/-- A request that is given the name that it would get shows nothing else. -/
theorem step_named (x : Scenario) (step : Step) : x.step (step.named x.steps) = x.step step := by
  cases step with
  | start name request =>
    cases name with
    | none => rfl
    | some name => rfl
  | _ => rfl

/-- Actions are not counted. -/
theorem steps_act (x : Scenario) (action : Action) : (x.act action).1.steps = x.steps := by
  cases action <;> simp only [act, onClient, onSwitch, onPipeconf, onRaw, sent] <;>
    repeat' first
      | rfl
      | split

/-- Nor are requests. -/
theorem steps_start (x : Scenario) (name : String) (request : Request) :
    (x.start name request).1.steps = x.steps := by
  cases request <;>
    simp only [start, onClient, onSwitch, onPipeconf, answered, started, withAgent, withSystem] <;>
    repeat' first
      | rfl
      | split

/-- Nor are the actions of a batch. -/
theorem steps_actAll (x : Scenario) (actions : List (Option Action)) :
    (x.actAll actions).1.steps = x.steps := by
  induction actions generalizing x with
  | nil => rfl
  | cons action rest ih =>
    cases action with
    | none => exact ih x
    | some action => exact (ih (x.act action).1).trans (x.steps_act action)

/-- Every step is counted once. -/
theorem steps_step (x : Scenario) (step : Step) : (x.step step).1.steps = x.steps + 1 := by
  have hp : (x.perform step).1.steps = x.steps := by
    cases step with
    | act action => exact x.steps_act action
    | batch actions => exact x.steps_actAll actions
    | start name request => exact x.steps_start _ request
    | advance span => rfl
  exact congrArg (· + 1) hp

/-- Naming the requests changes nothing. -/
theorem run_named (x : Scenario) (steps : List Step) : x.run (named x.steps steps) = x.run steps := by
  induction steps generalizing x with
  | nil => rfl
  | cons step rest ih =>
    have hrest := ih (x.step step).1
    rw [steps_step] at hrest
    unfold named run
    dsimp only
    rw [step_named, hrest]

end Scenario

/-! ### What concerns a party -/

namespace Allotment

open Scenario (Action Step)

variable {Party : Type} [DecidableEq Party] (ω : Allotment Party) (p : Party)

/-- Whether an action concerns a party: it is addressed to the party, or to all. -/
def concerns (action : Action) : Bool :=
  ω.addressee action = .everyone || ω.addressee action = .party p

variable {ω p} in
/-- A party is concerned by what concerns everyone or that party. -/
theorem concerns_iff {action : Action} : ω.concerns p action = true ↔
    ω.addressee action = .everyone ∨ ω.addressee action = .party p := by
  unfold concerns
  rw [Bool.or_eq_true, decide_eq_true_eq, decide_eq_true_eq]

/-- Whether an entry of a batch is left for a party; one that is no action is left for all. -/
def leaves (entry : Option Action) : Bool := entry.all (ω.concerns p)

/-- What is left of a step for a party when the others do nothing. -/
def only : Step → Option Step
  | .act action => if ω.concerns p action then some (.act action) else none
  | .batch actions =>
    let kept := actions.filter (ω.leaves p)
    if kept = [] then none else some (.batch kept)
  | .start name request => if ω.target request = p then some (.start name request) else none
  | .advance span => some (.advance span)

/-- The replies to the entries of a batch that are left for a party. -/
def answers (actions : List (Option Action)) (replies : List Scenario.Reply) : List Scenario.Reply :=
  ((actions.zip replies).filter fun e => ω.leaves p e.1).map (·.2)

variable {ω p} in
/-- What is left of a step for a party is left as it is. -/
theorem only_only {step kept : Step} (h : ω.only p step = some kept) : ω.only p kept = some kept := by
  cases step with
  | act action =>
    have hk := h
    simp only [only, Option.ite_none_right_eq_some, Option.some.injEq] at hk
    rw [← hk.2] at h ⊢
    exact h
  | batch actions =>
    simp only [only, Option.ite_none_left_eq_some, Option.some.injEq] at h
    rw [← h.2]
    simp only [only, List.filter_filter, Bool.and_self, if_neg h.1]
  | start name request =>
    have hk := h
    simp only [only, Option.ite_none_right_eq_some, Option.some.injEq] at hk
    rw [← hk.2] at h ⊢
    exact h
  | advance span =>
    cases h
    rfl

/-- The answers to a batch are those to the actions that are left. -/
theorem answers_cons (entry : Option Action) (rest : List (Option Action)) (reply : Scenario.Reply)
    (replies : List Scenario.Reply) :
    ω.answers p (entry :: rest) (reply :: replies) =
      if ω.leaves p entry then reply :: ω.answers p rest replies else ω.answers p rest replies := by
  unfold answers
  rw [List.zip_cons_cons, List.filter_cons]
  split <;> rfl

/-- What a party sees of the outcome of a step. -/
def outcome : Step → Scenario.Outcome → Scenario.Outcome
  | .batch actions, .many replies => .many (ω.answers p actions replies)
  | _, outcome => outcome

/-- Every action of the step is addressed to one party or to all, and a request goes by a name of the
party that makes it. -/
def Divides : Step → Prop
  | .act action => ω.addressee action ≠ .several
  | .batch actions => ∀ a ∈ actions, ∀ action ∈ a, ω.addressee action ≠ .several
  | .start name request => name.map ω.request = some (ω.target request)
  | .advance _ => True

instance : (step : Step) → Decidable (ω.Divides step)
  | .act action => inferInstanceAs (Decidable (ω.addressee action ≠ .several))
  | .batch actions =>
    inferInstanceAs (Decidable (∀ a ∈ actions, ∀ action ∈ a, ω.addressee action ≠ .several))
  | .start name request => inferInstanceAs (Decidable (name.map ω.request = some (ω.target request)))
  | .advance _ => inferInstanceAs (Decidable True)

end Allotment

namespace Scenario

variable {Party : Type} {ω : Allotment Party} {p : Party} {x y : Scenario}

/-! ### Seats -/

/-- Every client leads to a switch of its own party. -/
def Seated (ω : Allotment Party) (x : Scenario) : Prop :=
  ∀ id ∈ x.system.clients.keys, ω.switch (x.system.client id).switch = ω.client id

/-- A client keeps its switch. -/
theorem seated_of_after (hv : x.Valid) {ms : List Move} (hy : y = x.after ms) (h : Seated ω y) :
    Seated ω x := by
  intro id hk
  obtain ⟨hk', ho⟩ := origin_after hv hk ms
  have hswitch : ((x.after ms).system.client id).switch = (x.system.client id).switch :=
    congrArg Prod.snd ho
  rw [hy] at h
  rw [← hswitch]
  exact h id hk'

/-- A handle that changes hands takes no client away and moves none to another switch. -/
theorem switch_setHandle {s : System} (hv : s.Valid) {id : ClientId} (hk : s.Knows id) (name : String) :
    (s.setHandle name id).Knows id ∧ ((s.setHandle name id).client id).switch = (s.client id).switch := by
  obtain ⟨old, rest, -, hl⟩ := System.leads_setHandle hv name hk
  exact ⟨hl.knows hv hk, congrArg Prod.snd (hl.origin hv hk)⟩

/-- Where every client leads to a switch of its own party after an action, the one that the action made
does. -/
theorem seats_of_seated (hv : x.Valid) {action : Action} (h : Seated ω (x.act action).1) :
    x.Seats ω action := by
  cases action with
  | create key handle change =>
    -- The handle stands for the client that is made, and that belongs to the party of its device.
    intro n hr hc
    have hcreate : x.system.createClient key (x.settings change) =
        ({ (x.system.newClient key n (x.settings change)).1 with
            registry := x.system.registry.insert key.device
              (x.system.newClient key n (x.settings change)).2 },
          .ok (x.system.newClient key n (x.settings change)).2) := by
      simp only [System.createClient, hr, hc]
      rfl
    obtain ⟨is, -, hl, hk⟩ := System.leads_createClient hv.system key (x.settings change)
    have hvalid := hl.valid hv.system
    simp only [act] at h
    rw [hcreate] at h hk hvalid
    obtain ⟨hknows, hswitch⟩ := switch_setHandle hvalid (hk _ rfl) handle
    have hs := h _ hknows
    dsimp only [withSystem] at hs
    rw [hswitch] at hs
    rw [← show ω.client (x.system.newClient key n (x.settings change)).2 = ω.device key.device from rfl,
      ← hs]
    show _ = ω.switch ((x.system.newClient key n (x.settings change)).1.client _).switch
    rw [System.client_newClient, if_pos rfl]
  | new key handle change =>
    intro n hc
    have hvalid := hv.system.newClient key n (x.settings change)
    have hk : (x.system.newClient key n (x.settings change)).1.Knows
        (x.system.newClient key n (x.settings change)).2 := by
      unfold System.Knows
      rw [System.keys_newClient hv.system]
      simp
    simp only [act, hc] at h
    obtain ⟨hknows, hswitch⟩ := switch_setHandle hvalid hk handle
    have hs := h _ hknows
    dsimp only [withSystem] at hs
    rw [hswitch, System.client_newClient, if_pos rfl] at hs
    exact hs
  | _ => trivial

variable [DecidableEq Party]

instance (ω : Allotment Party) (x : Scenario) : Decidable (Seated ω x) :=
  inferInstanceAs (Decidable (∀ id ∈ x.system.clients.keys,
    ω.switch (x.system.client id).switch = ω.client id))

/-- It is for its party alone whether an action seats a client well. -/
theorem seats_part {action : Action} (ha : ω.addressee action = .party p) :
    (x.part ω p).Seats ω action ↔ x.Seats ω action := by
  have registered : ∀ {device}, ω.device device = p →
      (x.part ω p).system.registered? device = x.system.registered? device :=
    fun hd => Directory.find?_keep hd
  have channel : ∀ {device}, ω.device device = p →
      (x.part ω p).system.channels.find? device = x.system.channels.find? device :=
    fun hd => Directory.find?_keep hd
  cases action with
  | create key handle change =>
    have hd := (Addressee.of_eq_party.mp ha).1
    unfold Seats
    dsimp only
    rw [registered hd, channel hd]
  | new key handle change =>
    have hd := (Addressee.of_eq_party.mp ha).1
    unfold Seats
    dsimp only
    rw [channel hd]
  | _ => exact Iff.rfl

end Scenario

end P4Control
