import P4Control.Proofs.PartyCalls
import P4Control.Proofs.Calls
import P4Control.Proofs.Settling
import P4Control.Proofs.Tasks

namespace P4Control.System

/-!
# Tasks of several parties

The tasks of all parties stand in one queue.  Each step of a task is a step in the part of its party, and
leaves the other parts as they are; so when the tasks have run, they have run in every part.  Time passes in
all parts alike.

* `beside_poll` — a step of a task.
* `part_settle` — the running of the tasks.
* `part_advance` — the passing of time.
-/

variable {Party : Type} [DecidableEq Party] {ω : Allotment Party} {p : Party} {s t u : System}

/-! ### One step of a task -/

namespace Beside

/-- The party takes its own task off the queue. -/
theorem dequeue (hf : s.Fenced ω) {task : Task} {rest : List Task} (hr : s.ready = task :: rest)
    (ht : ω.task task = p) : Beside ω p s s.dequeue (s.part ω p).dequeue := by
  refine (Beside.refl hf p).lift System.dequeue ?_ (fun o ho => ?_) ?_ fun _ hk => hk
  · simp [System.dequeue, part, hr, ht]
  · have ht' : ω.task task ≠ o := fun he => ho (he.symm.trans ht)
    simp [System.dequeue, part, hr, ht']
  · exact ⟨hf.clients, hf.streams, hf.registry, hf.handles, hf.finished, hf.timers⟩

variable (h : Beside ω p s t u) (hd : Beside ω p s t.dequeue u.dequeue)

include h hd

/-- A step of an agent of the party. -/
theorem serveStep {st : StreamId} (hst : ω.stream st = p) :
    Beside ω p s (t.serveStep st) (u.serveStep st) := by
  unfold System.serveStep
  dsimp only
  rw [h.stream_eq hst]
  split
  · split
    · next frame uplink _ =>
      refine Beside.serveFrame ?_ hst frame
      exact h.changeStream hst fun _ => .inl rfl
    · exact hd
    · exact hd.changeStream hst fun _ => .inl rfl
  · exact hd

/-- A step of an inbound loop of the party. -/
theorem listenStep {st : StreamId} (hst : ω.stream st = p)
    (hk : ∀ id token, (t.stream st).listener = some (id, token) → s.Knows id) :
    Beside ω p s (t.listenStep st) (u.listenStep st) := by
  unfold System.listenStep
  dsimp only
  rw [h.stream_eq hst]
  split
  · exact hd
  · next id token hl =>
    have hid : ω.client id = p := (h.fenced.listener hl).trans hst
    have hknows := hk id token hl
    rw [h.client_eq hid]
    split
    · exact hd.dropListener hst
    · split
      · next frame downlink _ =>
        refine Beside.listenFrame ?_ hid hknows frame
        exact h.changeStream hst fun _ => .inl rfl
      · exact hd.loseStream hst hid hknows token _
      · exact hd
      · exact hd.loseStream hst hid hknows token _

end Beside

/-- A step of a task goes as in the part of its party. -/
theorem beside_poll (hf : s.Fenced ω) (hv : s.Valid) {task : Task} {rest : List Task}
    (hr : s.ready = task :: rest) (ht : ω.task task = p) :
    Beside ω p s s.poll (s.part ω p).poll := by
  have h := Beside.refl hf p
  have hd := Beside.dequeue hf hr ht
  have hr' : (s.part ω p).ready = task :: rest.filter fun task => decide (ω.task task = p) := by
    simp [part, hr, ht]
  unfold poll
  rw [hr, hr']
  cases task with
  | serve st => exact h.serveStep hd ht
  | listen st => exact h.listenStep hd ht fun id token hl => (hv.listeners st id token hl).1
  | resume K => exact hd.resume ht fun call hc => knows_of_call? hc

/-! ### All steps -/

/-- At rest there is nothing to run. -/
theorem pollFor_of_ready (hr : s.ready = []) (n : Nat) : pollFor n s = s := by
  cases n with
  | zero => rfl
  | succ n => simp [pollFor, hr]

/-- One step, and then the others. -/
theorem pollFor_succ (hr : s.ready ≠ []) (n : Nat) : pollFor (n + 1) s = pollFor n s.poll :=
  if_neg fun he => hr (List.isEmpty_iff.mp he)

/-- Steps can be run in two goes. -/
theorem pollFor_add (m n : Nat) (s : System) : pollFor (m + n) s = pollFor n (pollFor m s) := by
  induction m generalizing s with
  | zero => rw [Nat.zero_add]; rfl
  | succ m ih =>
    by_cases hr : s.ready = []
    · rw [pollFor_of_ready hr, pollFor_of_ready hr, pollFor_of_ready hr]
    · rw [Nat.succ_add, pollFor_succ hr, pollFor_succ hr, ih]

/-- The tasks have run when none is runnable any more. -/
theorem pollFor_eq_settle {n : Nat} (hr : (pollFor n s).ready = []) : pollFor n s = s.settle := by
  rcases Nat.le_total n s.enough with hle | hle
  · obtain ⟨k, hk⟩ := Nat.exists_eq_add_of_le hle
    unfold settle
    rw [hk, pollFor_add, pollFor_of_ready hr]
  · obtain ⟨k, hk⟩ := Nat.exists_eq_add_of_le hle
    rw [hk, pollFor_add]
    exact pollFor_of_ready s.settle_ready k

/-- A task keeps a system valid. -/
theorem Valid.poll (hv : s.Valid) : s.poll.Valid := by
  obtain ⟨is, -, hl⟩ := leads_poll hv
  exact hl.valid hv

/-- Steps of all tasks are steps of those in the part of each party. -/
theorem part_pollFor (hf : s.Fenced ω) (hv : s.Valid) (n : Nat) :
    (pollFor n s).Fenced ω ∧ ∀ p, ∃ m, (pollFor n s).part ω p = pollFor m (s.part ω p) := by
  induction n generalizing s with
  | zero => exact ⟨hf, fun _ => ⟨0, rfl⟩⟩
  | succ n ih =>
    by_cases hr : s.ready = []
    · rw [pollFor_of_ready hr]
      exact ⟨hf, fun _ => ⟨0, rfl⟩⟩
    · rw [pollFor_succ hr]
      obtain ⟨task, rest, hq⟩ := List.exists_cons_of_ne_nil hr
      have h := beside_poll hf hv hq rfl
      obtain ⟨hf', hparts⟩ := ih h.fenced hv.poll
      refine ⟨hf', fun p => ?_⟩
      obtain ⟨m, hm⟩ := hparts p
      by_cases ht : ω.task task = p
      · have hne : (s.part ω p).ready ≠ [] := by simp [part, hq, ht]
        exact ⟨m + 1, by rw [hm, pollFor_succ hne, ← ht, h.own]⟩
      · exact ⟨m, by rw [hm, h.others p (Ne.symm ht)]⟩

/-- When the tasks have run, they have run in every part. -/
theorem part_settle (hf : s.Fenced ω) (hv : s.Valid) (p : Party) :
    s.settle.part ω p = (s.part ω p).settle := by
  obtain ⟨m, hm⟩ := (part_pollFor hf hv s.enough).2 p
  have hr : (s.settle.part ω p).ready = [] := by simp [part, s.settle_ready]
  have he : s.settle.part ω p = pollFor m (s.part ω p) := hm
  rw [he] at hr ⊢
  exact pollFor_eq_settle hr

/-- Running all tasks keeps the parties apart. -/
theorem Fenced.settle (hf : s.Fenced ω) (hv : s.Valid) : s.settle.Fenced ω :=
  (part_pollFor hf hv s.enough).1

/-! ### Time -/

/-- Timers are due for a party when they are due at all. -/
theorem filter_due {timers : List Timer}
    (hs : timers.Pairwise fun t u => t.deadline.nanoseconds ≤ u.deadline.nanoseconds)
    (mine : Timer → Bool) (now : Duration) :
    due now (timers.filter mine) = (due now timers).filter mine ∧
      (timers.filter mine).drop (due now (timers.filter mine)).length =
        (timers.drop (due now timers).length).filter mine := by
  induction timers with
  | nil => exact ⟨rfl, rfl⟩
  | cons t rest ih =>
    obtain ⟨hfirst, hrest⟩ := List.pairwise_cons.mp hs
    obtain ⟨hdue, hleft⟩ := ih hrest
    rw [hdue] at hleft
    by_cases ht : t.deadline.nanoseconds ≤ now.nanoseconds
    · have hcons : ∀ l, due now (t :: l) = t :: due now l := fun l => by simp [due, ht]
      cases hm : mine t <;> simp [hcons, hm, hdue, hleft]
    · -- no timer behind it is due
      have hnone : ∀ l : List Timer, (∀ v ∈ l, v ∈ t :: rest) → due now l = [] := by
        intro l hsub
        cases l with
        | nil => rfl
        | cons v l =>
          have hv : ¬ v.deadline.nanoseconds ≤ now.nanoseconds := by
            intro hle
            rcases List.mem_cons.mp (hsub v List.mem_cons_self) with rfl | hm
            · exact ht hle
            · exact ht (Nat.le_trans (hfirst v hm) hle)
          simp [due, hv]
      rw [hnone _ fun v hv => (List.mem_filter.mp hv).1, hnone _ fun _ hv => hv]
      exact ⟨rfl, rfl⟩

/-- Calls become runnable in the parts of their parties. -/
theorem part_foldl_wake (fired : List Timer) (s : System) :
    (fired.foldl (fun s t => s.wake (.resume t.call)) s).part ω p =
      (fired.filter fun t => decide (ω.client t.call.client = p)).foldl
        (fun s t => s.wake (.resume t.call)) (s.part ω p) := by
  induction fired generalizing s with
  | nil => rfl
  | cons t rest ih =>
    rw [List.foldl_cons, ih, part_wake]
    by_cases ht : ω.client t.call.client = p
    · have ht' : ω.task (.resume t.call) = p := ht
      rw [if_pos ht', List.filter_cons_of_pos (by simpa using ht), List.foldl_cons]
    · have ht' : ω.task (.resume t.call) ≠ p := ht
      rw [if_neg ht', List.filter_cons_of_neg (by simpa using ht)]

/-- Time passes in every part as it does for all. -/
theorem part_advance (hf : s.Fenced ω) (span : Duration) :
    (s.advance span).part ω p = (s.part ω p).advance span := by
  obtain ⟨hdue, hleft⟩ := filter_due hf.timers (fun t => decide (ω.client t.call.client = p))
    ⟨s.now.nanoseconds + span.nanoseconds⟩
  unfold advance
  dsimp only
  rw [part_foldl_wake]
  show _ = List.foldl _ _ (due ⟨s.now.nanoseconds + span.nanoseconds⟩ (s.part ω p).timers)
  show _ = List.foldl _ _ (due _ (s.timers.filter fun t => decide (ω.client t.call.client = p)))
  rw [hdue]
  congr 1
  simp only [part]
  rw [hleft]

/-- Waking the calls whose timers have fired keeps the parties apart. -/
theorem Fenced.foldl_wake (hf : s.Fenced ω) (fired : List Timer) :
    (fired.foldl (fun s t => s.wake (.resume t.call)) s).Fenced ω := by
  induction fired generalizing s with
  | nil => exact hf
  | cons t rest ih => exact ih ((Beside.refl hf (ω.client t.call.client)).wake rfl).fenced

/-- Time that passes keeps the parties apart. -/
theorem Fenced.advance (hf : s.Fenced ω) (span : Duration) : (s.advance span).Fenced ω := by
  refine Fenced.foldl_wake ?_ _
  exact ⟨hf.clients, hf.streams, hf.registry, hf.handles, hf.finished, hf.timers.drop⟩

end P4Control.System
