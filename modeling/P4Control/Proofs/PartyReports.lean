import P4Control.Proofs.PartyActions

namespace P4Control.Scenario

/-!
# Reports to several parties

After the effect of a step the tasks run, and then notice is taken of the requests that have ended.  Both
happen in every part as they happen in the whole.

* `collect_part` — requests end in the parts of their parties.
* `ended`, `noticed` — what notice is taken of, and what is left after it.
* `part_rounded`, `ended_settled` — the rest of a step, after its effect.
* `Resting` — nothing is left to do between two steps.
* `told`, `told_eq` — what a step reports of the requests that have ended.
-/

variable {Party : Type} [DecidableEq Party] {ω : Allotment Party} {p : Party} {x y : Scenario}

/-! ### Requests that end -/

/-- The record of a pending request's end, if it has ended. -/
def Pending.ended? (finished : List Finished) : Pending → Option Finished
  | .call id _ => finished.find? fun f => decide (f.call = id)
  | .unanswered => none

/-- The name of the read stream that a pending request takes from or hands over. -/
def Pending.reading? : Pending → Option String
  | .call _ reading => reading
  | .unanswered => none

/-- The read streams in the callers' hands after the end of a request. -/
def handOver (reading : Option String) (f : Finished) (reads : Directory String ReadCursor) :
    Directory String ReadCursor :=
  match reading, f.cursor with
  | some stream, some cursor => reads.insert stream cursor
  | _, _ => reads

section Collect

variable {finished : List Finished} {dropped : List String} {rest : List (String × Pending)}
variable {reads : Directory String ReadCursor} {name : String} {pending : Pending} {f : Finished}

/-- A request whose task was dropped is told to have been aborted. -/
theorem collect_dropped (hd : name ∈ dropped) :
    collect finished dropped ((name, pending) :: rest) reads =
      ((collect finished (dropped.erase name) rest reads).1,
       (name, .aborted) :: (collect finished (dropped.erase name) rest reads).2.1,
       (collect finished (dropped.erase name) rest reads).2.2) := by
  simp only [collect, if_pos hd]

/-- A request whose call has not ended stays pending. -/
theorem collect_waits (hd : name ∉ dropped) (hp : pending.ended? finished = none) :
    collect finished dropped ((name, pending) :: rest) reads =
      ((name, pending) :: (collect finished dropped rest reads).1,
       (collect finished dropped rest reads).2.1, (collect finished dropped rest reads).2.2) := by
  cases pending with
  | unanswered => simp only [collect, if_neg hd]
  | call id reading =>
    have hp : finished.find? (fun f => decide (f.call = id)) = none := hp
    simp only [collect, if_neg hd, hp]

/-- A request whose call has ended is told its result, and hands over the stream that it read. -/
theorem collect_ends (hd : name ∉ dropped) (hp : pending.ended? finished = some f) :
    collect finished dropped ((name, pending) :: rest) reads =
      ((collect finished dropped rest (handOver pending.reading? f reads)).1,
       (name, shown (pending.reading?.getD name) f.result) ::
         (collect finished dropped rest (handOver pending.reading? f reads)).2.1,
       (collect finished dropped rest (handOver pending.reading? f reads)).2.2) := by
  cases pending with
  | unanswered => cases hp
  | call id reading =>
    have hp : finished.find? (fun f => decide (f.call = id)) = some f := hp
    simp only [collect, if_neg hd, hp]
    rfl

variable {tasks : List (String × Pending)}

/-- Requests end in the parts of their parties. -/
theorem collect_part
    (ht : ∀ t ∈ tasks, ∀ id reading, t.2 = .call id reading → ω.client id.client = ω.request t.1 ∧
      ∀ stream, reading = some stream → ω.request stream = ω.request t.1) :
    collect (finished.filter fun f => decide (ω.client f.call.client = p))
        (dropped.filter fun name => decide (ω.request name = p))
        (tasks.filter fun t => decide (ω.request t.1 = p)) (reads.keep ω.request p) =
      ((collect finished dropped tasks reads).1.filter fun t => decide (ω.request t.1 = p),
       (collect finished dropped tasks reads).2.1.filter fun t => decide (ω.request t.1 = p),
       (collect finished dropped tasks reads).2.2.keep ω.request p) := by
  induction tasks generalizing dropped reads with
  | nil => rfl
  | cons task rest ih =>
    obtain ⟨name, pending⟩ := task
    have ih := fun {dropped reads} => @ih dropped reads fun t hm => ht t (List.mem_cons_of_mem _ hm)
    have hreading : ∀ stream, pending.reading? = some stream → ω.request stream = ω.request name := by
      cases pending with
      | unanswered => exact fun stream he => by cases he
      | call id reading => exact (ht _ List.mem_cons_self id reading rfl).2
    by_cases hn : ω.request name = p
    · -- a request of the party ends here and in its part alike
      have hmem : name ∈ dropped.filter (fun name => decide (ω.request name = p)) ↔ name ∈ dropped := by
        simp [hn]
      have hended : pending.ended? (finished.filter fun f => decide (ω.client f.call.client = p)) =
          pending.ended? finished := by
        cases pending with
        | unanswered => rfl
        | call id reading =>
          have hid := (ht _ List.mem_cons_self id reading rfl).1
          show (finished.filter _).find? _ = finished.find? _
          rw [List.find?_filter]
          congr 1
          funext f
          by_cases he : f.call = id <;> simp [he, hid, hn]
      have hover : ∀ f, handOver pending.reading? f (reads.keep ω.request p) =
          (handOver pending.reading? f reads).keep ω.request p := by
        intro f
        unfold handOver
        split
        · next stream cursor he _ => exact (Directory.keep_insert ((hreading stream he).trans hn) _).symm
        · rfl
      rw [List.filter_cons_of_pos (by simpa using hn)]
      by_cases hd : name ∈ dropped
      · rw [collect_dropped hd, collect_dropped (hmem.mpr hd), List.erase_filter, ih]
        simp [hn]
      · cases hp : pending.ended? finished with
        | none =>
          rw [collect_waits hd hp, collect_waits (mt hmem.mp hd) (hended.trans hp), ih]
          simp [hn]
        | some f =>
          rw [collect_ends hd hp, collect_ends (mt hmem.mp hd) (hended.trans hp), hover, ih]
          simp [hn]
    · -- the end of another's request is nothing to the party
      have hover : ∀ f, (handOver pending.reading? f reads).keep ω.request p =
          reads.keep ω.request p := by
        intro f
        unfold handOver
        split
        · next stream cursor he _ =>
          exact Directory.keep_insert_of_ne (by rw [hreading stream he]; exact hn) _
        · rfl
      have herase : (dropped.erase name).filter (fun name => decide (ω.request name = p)) =
          dropped.filter fun name => decide (ω.request name = p) := by
        rw [← List.erase_filter, List.erase_of_not_mem (by simp [hn])]
      rw [List.filter_cons_of_neg (by simpa using hn)]
      by_cases hd : name ∈ dropped
      · rw [collect_dropped hd, ← herase, ih]
        simp [hn]
      · cases hp : pending.ended? finished with
        | none =>
          rw [collect_waits hd hp, ih]
          simp [hn]
        | some f =>
          rw [collect_ends hd hp, ← hover f, ih]
          simp [hn]

/-- The requests still pending were pending before. -/
theorem mem_collect {t : String × Pending} (h : t ∈ (collect finished dropped tasks reads).1) :
    t ∈ tasks := by
  induction tasks generalizing dropped reads with
  | nil => exact h
  | cons task rest ih =>
    obtain ⟨name, pending⟩ := task
    by_cases hd : name ∈ dropped
    · rw [collect_dropped hd] at h
      exact List.mem_cons_of_mem _ (ih h)
    · cases hp : pending.ended? finished with
      | none =>
        rw [collect_waits hd hp] at h
        rcases List.mem_cons.mp h with rfl | h
        · exact List.mem_cons_self
        · exact List.mem_cons_of_mem _ (ih h)
      | some f =>
        rw [collect_ends hd hp] at h
        exact List.mem_cons_of_mem _ (ih h)

omit [DecidableEq Party] in
/-- A read stream is handed to the party whose client it reads from. -/
theorem collect_reads
    (ht : ∀ t ∈ tasks, ∀ id reading, t.2 = .call id reading → ω.client id.client = ω.request t.1 ∧
      ∀ stream, reading = some stream → ω.request stream = ω.request t.1)
    (hf : ∀ f ∈ finished, ∀ r, f.cursor = some r → ω.client r.client = ω.client f.call.client)
    (hr : reads.All fun name r => ω.client r.client = ω.request name) :
    (collect finished dropped tasks reads).2.2.All fun name r => ω.client r.client = ω.request name := by
  induction tasks generalizing dropped reads with
  | nil => exact hr
  | cons task rest ih =>
    obtain ⟨name, pending⟩ := task
    have ih := fun {dropped reads} => @ih dropped reads fun t hm => ht t (List.mem_cons_of_mem _ hm)
    by_cases hd : name ∈ dropped
    · rw [collect_dropped hd]
      exact ih hr
    · cases hp : pending.ended? finished with
      | none =>
        rw [collect_waits hd hp]
        exact ih hr
      | some f =>
        rw [collect_ends hd hp]
        refine ih ?_
        unfold handOver
        split
        · next stream cursor hs hc =>
          cases pending with
          | unanswered => cases hs
          | call id reading =>
            -- the stream is handed back by a call of the party that asked for it
            obtain ⟨hid, hreading⟩ := ht _ List.mem_cons_self id reading rfl
            have hcall : f.call = id := by simpa using List.find?_some hp
            refine hr.insert ?_
            rw [hf f (List.mem_of_find?_eq_some hp) cursor hc, hcall, hid, hreading stream hs]
        · exact hr

end Collect

/-! ### Notice -/

/-- The requests that have ended and are not taken notice of yet. -/
def ended (x : Scenario) : List (String × Reply) :=
  (collect x.system.finished x.dropped x.tasks x.reads).2.1

/-- The control plane after notice has been taken of them. -/
def noticed (x : Scenario) : Scenario :=
  { x with
    system := { x.system with finished := [] }
    tasks := (collect x.system.finished x.dropped x.tasks x.reads).1
    reads := (collect x.system.finished x.dropped x.tasks x.reads).2.2
    dropped := [] }

section Notice

variable (hx : x.Fenced ω)

include hx

/-- The requests of a party are collected in its part as in the whole. -/
theorem collected_part :
    collect (x.part ω p).system.finished (x.part ω p).dropped (x.part ω p).tasks (x.part ω p).reads =
      ((collect x.system.finished x.dropped x.tasks x.reads).1.filter fun t =>
          decide (ω.request t.1 = p),
       (collect x.system.finished x.dropped x.tasks x.reads).2.1.filter fun e =>
          decide (ω.request e.1 = p),
       (collect x.system.finished x.dropped x.tasks x.reads).2.2.keep ω.request p) :=
  collect_part hx.tasks

/-- The requests that end in the part are those of the party that end in the whole. -/
theorem ended_part : (x.part ω p).ended = x.ended.filter fun e => decide (ω.request e.1 = p) :=
  congrArg (·.2.1) (collected_part hx)

/-- Noticing what has ended, and keeping a part, can be done in either order. -/
theorem part_noticed : x.noticed.part ω p = (x.part ω p).noticed := by
  unfold noticed
  rw [collected_part hx]
  rfl

omit [DecidableEq Party] in
/-- Noticing what has ended keeps the parties apart. -/
theorem Fenced.noticed : x.noticed.Fenced ω :=
  ⟨⟨hx.system.clients, hx.system.streams, hx.system.registry, hx.system.handles,
    fun _ hf => absurd hf List.not_mem_nil, hx.system.timers⟩, fun t hm => hx.tasks t (mem_collect hm),
   collect_reads hx.tasks hx.system.finished hx.reads, hx.raws, hx.observers⟩

end Notice

/-! ### The rest of a step -/

/-- The tasks run. -/
def settled (x : Scenario) : Scenario := x.withSystem x.system.settle

/-- After the effect of a step the tasks have run, and notice has been taken. -/
def rounded (x : Scenario) : Scenario := x.settled.noticed

section Round

variable (hx : x.Fenced ω) (hv : x.Valid)

include hx hv

/-- Running all tasks, and keeping a part, can be done in either order. -/
theorem part_settled : x.settled.part ω p = (x.part ω p).settled := by
  have hs := System.part_settle hx.system hv.system p
  unfold settled withSystem part
  simp only [hs]

/-- Running all tasks keeps the parties apart. -/
theorem Fenced.settled : x.settled.Fenced ω :=
  ⟨hx.system.settle hv.system, hx.tasks, hx.reads, hx.raws, hx.observers⟩

/-- The rest of a step, and keeping a part, can be done in either order. -/
theorem part_rounded : x.rounded.part ω p = (x.part ω p).rounded := by
  unfold rounded
  rw [part_noticed (hx.settled hv), part_settled hx hv]

/-- When all tasks have run, the requests that have ended in the part are those of the party. -/
theorem ended_settled :
    (x.part ω p).settled.ended = x.settled.ended.filter fun e => decide (ω.request e.1 = p) := by
  rw [← part_settled hx hv, ended_part (hx.settled hv)]

end Round

/-- What a step does before the tasks run keeps a scenario valid. -/
theorem valid_perform (hv : x.Valid) (step : Step) : (x.perform step).1.Valid := by
  obtain ⟨ms, hm⟩ := x.perform_eq_after step
  rw [hm]
  exact hv.after ms

/-- A step keeps a scenario valid. -/
theorem valid_step (hv : x.Valid) (step : Step) : (x.step step).1.Valid := by
  obtain ⟨ms, hm⟩ := x.step_eq_after step
  rw [hm]
  exact hv.after ms

/-- A report leaves no trace in the part of a party, nor does the count of the steps. -/
theorem part_step (hv : x.Valid) {step : Step} (hx : (x.perform step).1.Fenced ω) :
    (x.step step).1.part ω p = ((x.perform step).1.part ω p).rounded :=
  part_rounded hx (valid_perform hv step)

/-- A step keeps the parties apart if its own part in it does. -/
theorem fenced_step (hv : x.Valid) {step : Step} (hx : (x.perform step).1.Fenced ω) :
    (x.step step).1.Fenced ω :=
  have h := (hx.settled (valid_perform hv step)).noticed
  ⟨h.system, h.tasks, h.reads, h.raws, h.observers⟩

/-- Nothing is left to do: no task is runnable, and notice has been taken of everything. -/
structure Resting (x : Scenario) : Prop where
  ready : x.system.ready = []
  finished : x.system.finished = []
  dropped : x.dropped = []

/-- After a step all tasks wait and everything that has ended has been noticed. -/
theorem resting_step (x : Scenario) (step : Step) : (x.step step).1.Resting :=
  ⟨(x.perform step).1.system.settle_ready, rfl, rfl⟩

namespace Resting

variable (h : x.Resting)

include h

/-- A part of a scenario at rest is at rest. -/
theorem part (ω : Allotment Party) (p : Party) : (x.part ω p).Resting := by
  refine ⟨?_, ?_, ?_⟩
  · simp [Scenario.part, System.part, h.ready]
  · simp [Scenario.part, System.part, h.finished]
  · simp [Scenario.part, h.dropped]

/-- At rest no task can run. -/
theorem settled_eq : x.settled = x := by
  have hs : x.system.settle = x.system := System.pollFor_of_ready h.ready x.system.enough
  unfold settled
  rw [hs]
  rfl

/-- At rest there is nothing to collect. -/
theorem collect_eq : collect x.system.finished x.dropped x.tasks x.reads = (x.tasks, [], x.reads) := by
  rw [h.finished, h.dropped]
  generalize x.tasks = tasks
  induction tasks with
  | nil => rfl
  | cons task rest ih =>
    have hp : task.2.ended? [] = none := by cases task.2 <;> rfl
    rw [collect_waits List.not_mem_nil hp, ih]

/-- At rest no request has just ended. -/
theorem ended_eq : x.settled.ended = [] := by
  rw [h.settled_eq]
  exact congrArg (·.2.1) h.collect_eq

/-- At rest the rest of a step does nothing: a party does not see the steps of others. -/
theorem rounded_eq : x.rounded = x := by
  unfold rounded noticed
  rw [h.settled_eq, h.collect_eq]
  obtain ⟨system, tasks, reads, raws, observers, sink, position, dropped, steps⟩ := x
  obtain ⟨-, hf, hd⟩ := h
  dsimp only at hf hd ⊢
  rw [hd]
  congr 1
  rw [← hf]

end Resting

/-- The requests that end by what one party does are all its own. -/
theorem Beside.ended {x' z : Scenario} (h : Beside ω p x x' z) (hx : x.Resting) (hv : x'.Valid) :
    ∀ e ∈ x'.settled.ended, ω.request e.1 = p := by
  intro e he
  refine Decidable.byContradiction fun hp => ?_
  have hnone := ended_settled (p := ω.request e.1) h.fenced hv
  rw [h.others _ hp, (hx.part ω _).ended_eq] at hnone
  have hmem : e ∈ x'.settled.ended.filter fun e' => decide (ω.request e'.1 = ω.request e.1) :=
    List.mem_filter.mpr ⟨he, decide_eq_true rfl⟩
  rw [← hnone] at hmem
  cases hmem

/-! ### Reports -/

/-- The request that a step leaves pending. -/
def Outcome.pending? : Outcome → Option String
  | .one (.pending name) => some name
  | _ => none

/-- What is done to all leaves no request pending. -/
theorem pending?_act_everyone {action : Action} (ha : ω.addressee action = .everyone) :
    (Outcome.one (x.act action).2).pending? = none := by
  cases action with
  | register conf => rfl
  | bind device conf => rfl
  | unbind device => rfl
  | _ => simp [Allotment.addressee, Addressee.of_ne_everyone] at ha

/-- What a step reports: its outcome, in whose place may stand the end of its own request, and the other
requests that have ended. -/
def told (outcome : Outcome) (ended : List (String × Reply)) : Outcome × List (String × Reply) :=
  (match (splitOwn outcome.pending? ended).1 with
    | some reply => .one reply
    | none => outcome,
   (splitOwn outcome.pending? ended).2)

/-- The outcome of a step is the one that is told in view of what has ended. -/
theorem outcome_step (x : Scenario) (step : Step) :
    (x.step step).2.outcome = (told (x.perform step).2 (x.perform step).1.settled.ended).1 := rfl

/-- The requests that a step reports as done are what is left over. -/
theorem done_step (x : Scenario) (step : Step) :
    (x.step step).2.done = (told (x.perform step).2 (x.perform step).1.settled.ended).2 := rfl

/-- An outcome that does not wait is told as it is. -/
theorem told_of_pending? {outcome : Outcome} (h : outcome.pending? = none) (ended : List (String × Reply)) :
    told outcome ended = (outcome, ended) := by
  unfold told
  rw [h]
  rfl

/-- A party is told the same where what it is told of is the same, unless another's request may stand in
place of the outcome. -/
theorem told_eq {outcome : Outcome} {ended ended' : List (String × Reply)}
    (he : (ended.filter fun e => decide (ω.request e.1 = p)) =
      ended'.filter fun e => decide (ω.request e.1 = p))
    (h : outcome.pending? = none ∨
      (∀ e ∈ ended, ω.request e.1 = p) ∧ ∀ e ∈ ended', ω.request e.1 = p) :
    (told outcome ended).1 = (told outcome ended').1 ∧
      ((told outcome ended).2.filter fun e => decide (ω.request e.1 = p)) =
        (told outcome ended').2.filter fun e => decide (ω.request e.1 = p) := by
  rcases h with h | ⟨h, h'⟩
  · rw [told_of_pending? h, told_of_pending? h]
    exact ⟨rfl, he⟩
  · rw [List.filter_eq_self.mpr fun e hm => decide_eq_true (h e hm),
      List.filter_eq_self.mpr fun e hm => decide_eq_true (h' e hm)] at he
    rw [he]
    exact ⟨rfl, rfl⟩

/-- Every request that is reported as done has ended. -/
theorem mem_told {outcome : Outcome} {ended : List (String × Reply)} {e : String × Reply}
    (h : e ∈ (told outcome ended).2) : e ∈ ended := by
  unfold told splitOwn at h
  dsimp only at h
  split at h
  · split at h
    · exact (List.dropLast_sublist _).subset h
    · exact h
  · exact h

end P4Control.Scenario
