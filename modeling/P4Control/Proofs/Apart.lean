import P4Control.Proofs.PartyReports
import P4Control.Proofs.PartySteps

namespace P4Control.Scenario

/-!
# Parties do not interfere

Several parties take turns on one control plane.  What each of them sees is what it would see if the others
had done nothing: the replies to its steps, the results of its requests, the state of its clients and
switches, and the events about its devices.

* `Alike` — two control planes that are the same for one party.
* `Sight`, `sights` — what a party sees of a step, and of a run.
* `alike_shown`, `alike_hidden` — a step that concerns the party, and one that does not.
* `parties_apart` — a party sees of every run what it would see without the others.
-/

variable {Party : Type} [DecidableEq Party] {ω : Allotment Party} {p : Party} {x y : Scenario}

/-! ### Two runs -/

/-- Two control planes that are the same for a party. -/
structure Alike (ω : Allotment Party) (p : Party) (x y : Scenario) : Prop where
  fenced : x.Fenced ω
  valid : x.Valid
  fenced' : y.Fenced ω
  valid' : y.Valid
  part : x.part ω p = y.part ω p

namespace Alike

/-- The party does the same in both. -/
theorem of_concurs {α : Type} {a b c : Scenario × α} (ha : Concurs ω p x a c) (hb : Concurs ω p y b c)
    (hv : a.1.Valid) (hv' : b.1.Valid) : Alike ω p a.1 b.1 ∧ a.2 = b.2 :=
  ⟨⟨ha.1.fenced, hv, hb.1.fenced, hv', ha.1.own.trans hb.1.own.symm⟩, ha.2.symm.trans hb.2⟩

variable (h : Alike ω p x y)

include h

/-- Another party does something in one of them. -/
theorem aside {q : Party} (hq : q ≠ p) {x' z : Scenario} (hx : Beside ω q x x' z) (hv : x'.Valid) :
    Alike ω p x' y :=
  ⟨hx.fenced, hv, h.fenced', h.valid', (hx.others p (Ne.symm hq)).trans h.part⟩

theorem own_act {action : Action} (ha : ω.addressee action = .party p) (hs : Seated ω (x.act action).1) :
    Concurs ω p x (x.act action) ((x.part ω p).act action) ∧
      Concurs ω p y (y.act action) ((x.part ω p).act action) := by
  have hseats := seats_of_seated h.valid hs
  have hseats' : y.Seats ω action := by
    rw [← seats_part ha, ← h.part, seats_part ha]
    exact hseats
  refine ⟨concurs_act h.fenced h.valid ha hseats, ?_⟩
  rw [h.part]
  exact concurs_act h.fenced' h.valid' ha hseats'

theorem shared_act {action : Action} (ha : ω.addressee action = .everyone) :
    Alike ω p (x.act action).1 (y.act action).1 ∧ (x.act action).2 = (y.act action).2 := by
  obtain ⟨hown, hreply⟩ := part_act_everyone (x := x) ha p
  obtain ⟨hown', hreply'⟩ := part_act_everyone (x := y) ha p
  rw [← h.part] at hown' hreply'
  exact ⟨⟨h.fenced.act_everyone ha, h.valid.make (.act action), h.fenced'.act_everyone ha,
    h.valid'.make (.act action), hown.trans hown'.symm⟩, hreply.symm.trans hreply'⟩

/-- What concerns the party is done in both. -/
theorem shown_act {action : Action} (hc : ω.concerns p action = true) (hs : Seated ω (x.act action).1) :
    Alike ω p (x.act action).1 (y.act action).1 ∧ (x.act action).2 = (y.act action).2 := by
  rcases Allotment.concerns_iff.mp hc with ha | ha
  · exact h.shared_act ha
  · obtain ⟨hx, hy⟩ := h.own_act ha hs
    exact of_concurs hx hy (h.valid.make (.act action)) (h.valid'.make (.act action))

/-- What does not concern the party is done in one of them only. -/
theorem hidden_act {action : Action} (hd : ω.addressee action ≠ .several)
    (hc : ω.concerns p action = false) (hs : Seated ω (x.act action).1) : Alike ω p (x.act action).1 y := by
  rw [← Bool.not_eq_true, Allotment.concerns_iff, not_or] at hc
  cases ha : ω.addressee action with
  | everyone => exact absurd ha hc.1
  | party q =>
    have hq : q ≠ p := fun he => hc.2 (he ▸ ha)
    exact h.aside hq (concurs_act h.fenced h.valid ha (seats_of_seated h.valid hs)).1
      (h.valid.make (.act action))
  | several => exact absurd ha hd

omit h in
/-- Of actions one after the other, those that concern the party are done in both. -/
theorem actAll (h : Alike ω p x y) {actions : List (Option Action)} (hd : ω.Divides (.batch actions))
    (hs : Seated ω (x.actAll actions).1) :
    Alike ω p (x.actAll actions).1 (y.actAll (actions.filter (ω.leaves p))).1 ∧
      ω.answers p (actions.filter (ω.leaves p)) (y.actAll (actions.filter (ω.leaves p))).2 =
        ω.answers p actions (x.actAll actions).2 := by
  induction actions generalizing x y with
  | nil => exact ⟨h, rfl⟩
  | cons entry rest ih =>
    have hrest : ω.Divides (.batch rest) := fun a hm => hd a (List.mem_cons_of_mem _ hm)
    cases entry with
    | none =>
      obtain ⟨ha, he⟩ := ih h hrest hs
      rw [List.filter_cons_of_pos rfl]
      refine ⟨ha, ?_⟩
      simp only [Scenario.actAll, Allotment.answers_cons, he]
    | some action =>
      have hseated : Seated ω (x.act action).1 := by
        obtain ⟨ms, hm⟩ := (x.act action).1.actAll_eq_after rest
        exact seated_of_after (h.valid.make (.act action)) hm hs
      -- Actions of other parties are left out on the right, and change nothing on the left that is shared.
      cases hc : ω.concerns p action with
      | true =>
        obtain ⟨ha, hr⟩ := h.shown_act hc hseated
        obtain ⟨ha, he⟩ := ih ha hrest hs
        rw [List.filter_cons_of_pos (show ω.leaves p (some action) = true from hc)]
        refine ⟨ha, ?_⟩
        simp only [Scenario.actAll, Allotment.answers_cons, he, hr]
      | false =>
        have hdiv : ω.addressee action ≠ .several := hd _ List.mem_cons_self action rfl
        have hl : ¬ ω.leaves p (some action) = true := by simp [Allotment.leaves, hc]
        obtain ⟨ha, he⟩ := ih (h.hidden_act hdiv hc hseated) hrest hs
        rw [List.filter_cons_of_neg hl]
        refine ⟨ha, ?_⟩
        simp only [Scenario.actAll, Allotment.answers_cons, he, if_neg hl]

/-- Time passes in both. -/
theorem advanced (span : Duration) :
    Alike ω p (x.withSystem (x.system.advance span)) (y.withSystem (y.system.advance span)) := by
  have fenced : ∀ {x : Scenario}, x.Fenced ω → (x.withSystem (x.system.advance span)).Fenced ω :=
    fun hx => ⟨hx.system.advance span, hx.tasks, hx.reads, hx.raws, hx.observers⟩
  have part : ∀ {x : Scenario}, x.Fenced ω → (x.withSystem (x.system.advance span)).part ω p =
      (x.part ω p).withSystem ((x.part ω p).system.advance span) := by
    intro x hx
    rw [system_part, ← System.part_advance hx.system]
    rfl
  refine ⟨fenced h.fenced, h.valid.make (.advance span), fenced h.fenced', h.valid'.make (.advance span), ?_⟩
  rw [part h.fenced, part h.fenced', h.part]

theorem own_start {name : String} (hn : ω.request name = p) {request : Request}
    (ht : ω.target request = p) :
    Concurs ω p x (x.start name request) ((x.part ω p).start name request) ∧
      Concurs ω p y (y.start name request) ((x.part ω p).start name request) := by
  refine ⟨concurs_start h.fenced h.valid hn ht, ?_⟩
  rw [h.part]
  exact concurs_start h.fenced' h.valid' hn ht

omit h in
/-- A step whose effect is the same for the party in both is the same for it in both. -/
theorem step {s t : Step} (ha : Alike ω p (x.perform s).1 (y.perform t).1) (hv : x.Valid) (hv' : y.Valid) :
    Alike ω p (x.step s).1 (y.step t).1 := by
  refine ⟨fenced_step hv ha.fenced, valid_step hv s, fenced_step hv' ha.fenced', valid_step hv' t, ?_⟩
  rw [part_step hv ha.fenced, part_step hv' ha.fenced', ha.part]

omit h in
/-- A step that has no effect for the party leaves everything as it is for it. -/
theorem hidden_step {s : Step} (ha : Alike ω p (x.perform s).1 y) (hv : x.Valid) (hr : y.Resting) :
    Alike ω p (x.step s).1 y := by
  refine ⟨fenced_step hv ha.fenced, valid_step hv s, ha.fenced', ha.valid', ?_⟩
  rw [part_step hv ha.fenced, ha.part, (hr.part ω p).rounded_eq]

omit h in
/-- The requests of the party that have ended are the same. -/
theorem ended (h : Alike ω p x y) :
    (x.settled.ended.filter fun e => decide (ω.request e.1 = p)) =
      y.settled.ended.filter fun e => decide (ω.request e.1 = p) := by
  rw [← ended_settled h.fenced h.valid, h.part, ended_settled h.fenced' h.valid']

end Alike

/-! ### What a party sees -/

/-- What a party sees of a step: what the step yields, how its requests ended, the events posted about its
devices so far, the state of its clients, and its switches. -/
structure Sight where
  outcome : Outcome
  done : List (String × Reply)
  posted : List Event
  clients : List (ClientId × ClientStatus)
  switches : List (SwitchName × Switch)
deriving DecidableEq, Repr

/-- What a party sees of a step with the given result. -/
def sight (ω : Allotment Party) (p : Party) (step : Step) (result : Scenario × Report) : Sight :=
  let s := result.1.system
  { outcome := ω.outcome p step result.2.outcome
    done := result.2.done.filter fun e => decide (ω.request e.1 = p)
    posted := s.journal.filter fun e => decide (ω.device e.device = p)
    clients := (s.clients.keys.filter fun id => decide (ω.client id = p)).map fun id => (id, status s id)
    switches := s.switches.entries.filter fun entry => decide (ω.switch entry.1 = p) }

/-- What a party sees of the steps that concern it. -/
def sights (ω : Allotment Party) (p : Party) (x : Scenario) : List Step → List Sight
  | [] => []
  | step :: rest =>
    let later := sights ω p (x.step step).1 rest
    if (ω.only p step).isSome then sight ω p step (x.step step) :: later else later

theorem clients_part (s : System) :
    ((s.part ω p).clients.keys.map fun id => (id, status (s.part ω p) id)) =
      (s.clients.keys.filter fun id => decide (ω.client id = p)).map fun id => (id, status s id) := by
  have hkeys : (s.part ω p).clients.keys = s.clients.keys.filter fun id => decide (ω.client id = p) :=
    Directory.keys_keep _ _ _
  rw [hkeys]
  refine List.map_congr_left fun id hm => ?_
  have hid : ω.client id = p := by simpa using (List.mem_filter.mp hm).2
  unfold status
  rw [System.client_part hid]

theorem sight_eq {s t : Step} {a b : Scenario × Report} (hp : a.1.part ω p = b.1.part ω p)
    (ho : ω.outcome p s a.2.outcome = ω.outcome p t b.2.outcome)
    (hd : (a.2.done.filter fun e => decide (ω.request e.1 = p)) =
      b.2.done.filter fun e => decide (ω.request e.1 = p)) :
    sight ω p s a = sight ω p t b := by
  have hs : a.1.system.part ω p = b.1.system.part ω p := congrArg Scenario.system hp
  unfold sight
  dsimp only
  rw [ho, hd, ← clients_part, ← clients_part, hs]
  congr 1
  · exact congrArg System.journal hs
  · exact congrArg (fun s : System => s.switches.entries) hs

/-! ### One step -/

omit [DecidableEq Party] in
theorem seated_perform (hv : x.Valid) {step : Step} (h : Seated ω (x.step step).1) :
    Seated ω (x.perform step).1 := by
  obtain ⟨ms, hm⟩ := (x.perform step).1.pollFor_eq_after (x.perform step).1.system.enough
  exact seated_of_after (valid_perform hv step) hm h

/-- A step whose effect and outcome are the same for the party is seen by it as the same. -/
theorem Alike.seen {step : Step} (ha : Alike ω p (x.perform step).1 (y.perform step).1) (hv : x.Valid)
    (hv' : y.Valid) (hs : ∀ outcome, ω.outcome p step outcome = outcome)
    (ho : (x.perform step).2 = (y.perform step).2)
    (he : (x.perform step).2.pending? = none ∨
      (∀ e ∈ (x.perform step).1.settled.ended, ω.request e.1 = p) ∧
        ∀ e ∈ (y.perform step).1.settled.ended, ω.request e.1 = p) :
    Alike ω p (x.step step).1 (y.step step).1 ∧
      sight ω p step (x.step step) = sight ω p step (y.step step) := by
  obtain ⟨hout, hdone⟩ := told_eq ha.ended he
  have halike := ha.step hv hv'
  refine ⟨halike, sight_eq halike.part ?_ ?_⟩
  · rw [hs, hs, outcome_step, outcome_step, hout, ho]
  · rw [done_step, done_step, hdone, ho]

/-- A step that concerns the party is the same for it in both. -/
theorem alike_shown (h : Alike ω p x y) (hx : x.Resting) (hy : y.Resting) {step kept : Step}
    (hd : ω.Divides step) (hk : ω.only p step = some kept) (hs : Seated ω (x.step step).1) :
    Alike ω p (x.step step).1 (y.step kept).1 ∧
      sight ω p step (x.step step) = sight ω p kept (y.step kept) := by
  have hseated := seated_perform h.valid hs
  -- What concerns the party goes alike in both runs, whether it is an action of its own or one that
  -- concerns everyone.
  cases step with
  | act action =>
    simp only [Allotment.only, Option.ite_none_right_eq_some, Option.some.injEq] at hk
    obtain ⟨hc, rfl⟩ := hk
    rcases Allotment.concerns_iff.mp hc with hc | hc
    · obtain ⟨ha, hr⟩ := h.shared_act hc
      exact Alike.seen ha h.valid h.valid' (fun _ => rfl) (congrArg Outcome.one hr)
        (.inl (pending?_act_everyone hc))
    · obtain ⟨hcx, hcy⟩ := h.own_act hc hseated
      obtain ⟨ha, hr⟩ := Alike.of_concurs hcx hcy (h.valid.make (.act action)) (h.valid'.make (.act action))
      exact Alike.seen ha h.valid h.valid' (fun _ => rfl) (congrArg Outcome.one hr)
        (.inr ⟨hcx.1.ended hx ha.valid, hcy.1.ended hy ha.valid'⟩)
  | batch actions =>
    simp only [Allotment.only, Option.ite_none_left_eq_some, Option.some.injEq] at hk
    obtain ⟨-, rfl⟩ := hk
    obtain ⟨ha, hr⟩ := h.actAll hd hseated
    have halike := Alike.step (s := .batch actions) (t := .batch (actions.filter (ω.leaves p))) ha h.valid
      h.valid'
    refine ⟨halike, sight_eq halike.part ?_ ha.ended⟩
    exact congrArg Outcome.many hr.symm
  | start name request =>
    simp only [Allotment.only, Option.ite_none_right_eq_some, Option.some.injEq] at hk
    obtain ⟨ht, rfl⟩ := hk
    obtain ⟨name, rfl, hn⟩ := Option.map_eq_some_iff.mp hd
    obtain ⟨hcx, hcy⟩ := h.own_start (hn.trans ht) ht
    obtain ⟨ha, hr⟩ := Alike.of_concurs hcx hcy (h.valid.make (.start name request))
      (h.valid'.make (.start name request))
    exact Alike.seen ha h.valid h.valid' (fun _ => rfl) (congrArg Outcome.one hr)
      (.inr ⟨hcx.1.ended hx ha.valid, hcy.1.ended hy ha.valid'⟩)
  | advance span =>
    cases hk
    exact Alike.seen (h.advanced span) h.valid h.valid' (fun _ => rfl) rfl (.inl rfl)

/-- A step that does not concern the party passes it by. -/
theorem alike_hidden (h : Alike ω p x y) (hy : y.Resting) {step : Step} (hd : ω.Divides step)
    (hk : ω.only p step = none) (hs : Seated ω (x.step step).1) :
    Alike ω p (x.step step).1 y ∧ ∀ e ∈ (x.step step).2.done, ω.request e.1 ≠ p := by
  have hseated := seated_perform h.valid hs
  have ha : Alike ω p (x.perform step).1 y := by
    cases step with
    | act action =>
      simp only [Allotment.only, ite_eq_right_iff, reduceCtorEq, imp_false, Bool.not_eq_true] at hk
      exact h.hidden_act hd hk hseated
    | batch actions =>
      simp only [Allotment.only, ite_eq_left_iff, reduceCtorEq, imp_false, Decidable.not_not] at hk
      have ha := (h.actAll hd hseated).1
      rw [hk] at ha
      exact ha
    | start name request =>
      simp only [Allotment.only, ite_eq_right_iff, reduceCtorEq, imp_false] at hk
      obtain ⟨name, rfl, hn⟩ := Option.map_eq_some_iff.mp hd
      exact h.aside hk (concurs_start h.fenced h.valid hn rfl).1 (h.valid.make (.start name request))
    | advance span => cases hk
  refine ⟨ha.hidden_step h.valid hy, fun e hm hp => ?_⟩
  -- a request of the party would have ended for it in the other run too
  have hmem : e ∈ (x.perform step).1.settled.ended.filter fun e => decide (ω.request e.1 = p) :=
    List.mem_filter.mpr ⟨mem_told (done_step x step ▸ hm), decide_eq_true hp⟩
  rw [ha.ended, hy.ended_eq] at hmem
  cases hmem

/-! ### Runs -/

omit [DecidableEq Party] in
theorem run_append (x : Scenario) (steps rest : List Step) :
    (x.run (steps ++ rest)).1 = ((x.run steps).1.run rest).1 := by
  induction steps generalizing x with
  | nil => rfl
  | cons step later ih => exact ih (x.step step).1

omit [DecidableEq Party] in
theorem seated_run (hv : x.Valid) {steps rest : List Step} (h : Seated ω (x.run (steps ++ rest)).1) :
    Seated ω (x.run steps).1 := by
  obtain ⟨ms, hm⟩ := x.run_eq_after steps
  obtain ⟨ns, hn⟩ := (x.run steps).1.run_eq_after rest
  have hvalid : (x.run steps).1.Valid := by
    rw [hm]
    exact hv.after ms
  rw [run_append] at h
  exact seated_of_after hvalid hn h

/-- The party sees the same of all steps as of what is left of them for it. -/
theorem alike_run (h : Alike ω p x y) (hx : x.Resting) (hy : y.Resting) {steps : List Step}
    (hd : ∀ step ∈ steps, ω.Divides step) (hs : Seated ω (x.run steps).1) :
    Alike ω p (x.run steps).1 (y.run (steps.filterMap (ω.only p))).1 ∧
      sights ω p x steps = sights ω p y (steps.filterMap (ω.only p)) := by
  induction steps generalizing x y with
  | nil => exact ⟨h, rfl⟩
  | cons step rest ih =>
    have hdiv := hd step List.mem_cons_self
    have hdrest := fun s hm => hd s (List.mem_cons_of_mem _ hm)
    have hfirst : Seated ω (x.run ([step] ++ rest)).1 := hs
    have hseated : Seated ω (x.step step).1 := seated_run h.valid hfirst
    cases hk : ω.only p step with
    | none =>
      have ha := (alike_hidden h hy hdiv hk hseated).1
      obtain ⟨hrun, hsights⟩ := ih ha (resting_step x step) hy hdrest hs
      rw [List.filterMap_cons_none hk]
      refine ⟨hrun, ?_⟩
      simp only [sights, hk, Option.isSome_none, Bool.false_eq_true, if_false]
      exact hsights
    | some kept =>
      obtain ⟨ha, hsight⟩ := alike_shown h hx hy hdiv hk hseated
      obtain ⟨hrun, hsights⟩ := ih ha (resting_step x step) (resting_step y kept) hdrest hs
      rw [List.filterMap_cons_some hk]
      refine ⟨hrun, ?_⟩
      simp only [sights, hk, Allotment.only_only hk, Option.isSome_some, if_true, hsight]
      rw [hsights]

theorem resting_run (hx : x.Resting) (steps : List Step) : (x.run steps).1.Resting := by
  induction steps generalizing x with
  | nil => exact hx
  | cons step rest ih => exact ih (resting_step x step)

/-- A step passes a party by: nothing that belongs to it changes, and none of its requests ends. -/
def Passes (ω : Allotment Party) (p : Party) (x : Scenario) (step : Step) : Prop :=
  (x.step step).1.part ω p = x.part ω p ∧ ∀ e ∈ (x.step step).2.done, ω.request e.1 ≠ p

/-- The steps that do not concern the party pass it by. -/
theorem passes_run (h : Alike ω p x y) (hx : x.Resting) (hy : y.Resting) {before after : List Step}
    {step : Step} (hd : ∀ s ∈ before ++ step :: after, ω.Divides s) (hk : ω.only p step = none)
    (hs : Seated ω (x.run (before ++ step :: after)).1) : Passes ω p (x.run before).1 step := by
  rw [← List.singleton_append, ← List.append_assoc] at hs
  have hseated := seated_run h.valid hs
  obtain ⟨ha, -⟩ := alike_run h hx hy (fun s hm => hd s (List.mem_append_left _ hm))
    (seated_run h.valid hseated)
  rw [run_append] at hseated
  obtain ⟨ha', hdone⟩ := alike_hidden ha (resting_run hy _) (hd step (by simp)) hk hseated
  exact ⟨ha'.part.trans ha.part.symm, hdone⟩

theorem alike_initial (ω : Allotment Party) (p : Party) (devices : List String) (confs : List Pipeconf)
    (bindings : List (String × PipeconfId)) (config : ConfigChange) (capacity : Nat) :
    let start := initial devices confs bindings config capacity
    Alike ω p start start ∧ start.Resting := by
  have hf : (initial devices confs bindings config capacity).Fenced ω := by
    refine ⟨⟨?_, ?_, ?_, ?_, ?_, .nil⟩, ?_, ?_, ?_, ?_⟩ <;> intro entry hm <;> cases hm
  have hv := valid_initial devices confs bindings config capacity
  exact ⟨⟨hf, hv, hf, hv, rfl⟩, rfl, rfl, rfl⟩

/-- What a party sees of a run, and what is there of it in the end, is the same without the steps of the
others, and their steps pass it by.  Every step is addressed to one party or to all, entry by entry for a
batch, and every client uses a switch of its own party.  A request that was given no name keeps the one it
has in the whole run. -/
theorem parties_apart (ω : Allotment Party) (devices : List String) (confs : List Pipeconf)
    (bindings : List (String × PipeconfId)) (config : ConfigChange) (capacity : Nat)
    (steps : List Step) (hd : ∀ step ∈ named 0 steps, ω.Divides step)
    (hs : Seated ω ((initial devices confs bindings config capacity).run steps).1) (p : Party) :
    let start := initial devices confs bindings config capacity
    let whole := named 0 steps
    let alone := whole.filterMap (ω.only p)
    start.run whole = start.run steps ∧
      sights ω p start whole = sights ω p start alone ∧
      (start.run whole).1.part ω p = (start.run alone).1.part ω p ∧
      ∀ before step after, whole = before ++ step :: after → ω.only p step = none →
        Passes ω p (start.run before).1 step := by
  intro start whole alone
  obtain ⟨h, hr⟩ := alike_initial ω p devices confs bindings config capacity
  have hrun : start.run whole = start.run steps := start.run_named steps
  rw [← hrun] at hs
  obtain ⟨halike, hsights⟩ := alike_run h hr hr hd hs
  refine ⟨hrun, hsights, halike.part, fun before step after he hk => ?_⟩
  have hwhole : named 0 steps = before ++ step :: after := he
  rw [hwhole] at hd
  exact passes_run h hr hr hd hk (hwhole ▸ hs)

/-- Two devices, each with the switch and the names that go with it: `true` stands for those of the spine,
`false` for those of the leaf. -/
def fabric : Allotment Bool where
  device d := decide (d.raw = "spine")
  switch n := decide (n = "spine")
  handle name := decide (name = "spine")
  observer name := decide (name = "spine")
  request name := decide (name = "s1")

/-- The spine leaves the opening of its session without an answer, while the leaf opens one. -/
def crossed : List Step :=
  [.act (.create ⟨⟨"leaf"⟩, 1⟩ "leaf" none), .act (.create ⟨⟨"spine"⟩, 1⟩ "spine" none),
   .act (.steer "spine" (.queueFault .streamChannel .stall)),
   .start (some "s1") (.openSession "spine"), .start none (.openSession "leaf"),
   .batch [some (.run "spine" ⟨0, 1⟩), some (.run "leaf" ⟨0, 2⟩)], .advance ⟨5⟩,
   .act (.closeStream "leaf"), .act (.close "spine")]

/-- The leaf notices nothing of the spine: neither of its call that waits and then fails, nor of the end
of its client. -/
theorem parties_apart_crossed :
    let start := initial ["leaf", "spine"] [] [] { shortTimeout := some ⟨5⟩ } 16
    let alone : List Step :=
      [.act (.create ⟨⟨"leaf"⟩, 1⟩ "leaf" none), .start (some "t4") (.openSession "leaf"),
       .batch [some (.run "leaf" ⟨0, 2⟩)], .advance ⟨5⟩, .act (.closeStream "leaf")]
    (∀ step ∈ named 0 crossed, fabric.Divides step) ∧ Seated fabric (start.run crossed).1 ∧
      (start.run (named 0 crossed)).1.part fabric false = (start.run alone).1.part fabric false ∧
      sights fabric false start (named 0 crossed) = sights fabric false start alone := by
  intro start alone
  have hd : ∀ step ∈ named 0 crossed, fabric.Divides step := by decide +kernel
  have hs : Seated fabric (start.run crossed).1 := by decide +kernel
  have halone : (named 0 crossed).filterMap (fabric.only false) = alone := by decide +kernel
  have h := parties_apart fabric ["leaf", "spine"] [] [] { shortTimeout := some ⟨5⟩ } 16 crossed hd hs false
  dsimp only at h
  rw [halone] at h
  exact ⟨hd, hs, h.2.2.1, h.2.1⟩

end P4Control.Scenario
