import Mathlib.Algebra.Group.Nat.Defs
import Mathlib.Order.Bounds.Defs
import P4Control.Event

namespace P4Control

/-!
# What the subscribers of a sink receive

A sink keeps few events, and a subscriber may drain late.  What it receives is told here by the log of all
events posted, of which nothing is ever dropped.

* `powerOfTwoFrom_isLeast` — how many events a sink keeps.
* `EventSink.Holds` — the sink holds the end of a log.
* `EventSink.told` — what is told of the events that wait, `Holds.drain` — a drain tells it.
* `Audience.backlog?` — the events that wait for a subscriber, by the log.
* `Audience.Follows` — the positions are right; `Follows.record` — and stay so.
* `Audience.tally?` — how many events a subscriber has received, and how many it was told it lost.
* `Audience.drain_tells_backlog` — what is lost is told, whatever the other subscribers do.
-/

/-! ### The capacity -/

/-- The first power that reaches the bound is the least one. -/
theorem isLeast_two_pow {n k : Nat} (hle : n ≤ 2 ^ k) (hk : ∀ j < k, 2 ^ j < n) :
    IsLeast {c | (∃ j, c = 2 ^ j) ∧ n ≤ c} (2 ^ k) := by
  refine ⟨⟨⟨k, rfl⟩, hle⟩, ?_⟩
  rintro c ⟨⟨j, rfl⟩, hj⟩
  rcases Nat.lt_or_ge j k with hjk | hjk
  · exact absurd hj (Nat.not_le_of_lt (hk j hjk))
  · exact Nat.pow_le_pow_right (by decide) hjk

/-- Doubling passes the powers below the bound one by one. -/
theorem doubleUntil_isLeast {n k steps : Nat} (hn : n ≤ k + steps) (hk : ∀ j < k, 2 ^ j < n) :
    IsLeast {c | (∃ j, c = 2 ^ j) ∧ n ≤ c} (doubleUntil n steps (2 ^ k)) := by
  induction steps generalizing k with
  | zero =>
    -- No step is left, but then the bound has been reached: it is at most `k`.
    exact isLeast_two_pow (Nat.le_trans hn (Nat.le_of_lt Nat.lt_two_pow_self)) hk
  | succ steps ih =>
    unfold doubleUntil
    split
    · next hle => exact isLeast_two_pow hle hk
    · next hlt =>
      rw [← Nat.pow_succ']
      refine ih (by omega) fun j hj => ?_
      rcases Nat.lt_succ_iff_lt_or_eq.mp hj with hj | rfl
      · exact hk j hj
      · exact Nat.lt_of_not_le hlt

/-- The capacity of a sink is the least power of two that suffices. -/
theorem powerOfTwoFrom_isLeast (n : Nat) :
    IsLeast {c | (∃ k, c = 2 ^ k) ∧ n ≤ c} (powerOfTwoFrom n) :=
  doubleUntil_isLeast (k := 0) (by omega) nofun

/-! ### The log of a sink -/

namespace EventSink

variable {ε : Type} {sink : EventSink ε} {log : List ε}

/-- The sink holds the end of the log. -/
structure Holds (sink : EventSink ε) (log : List ε) : Prop where
  posted : sink.posted = log.length
  kept : sink.kept = log.drop (log.length - sink.capacity)

/-- A new sink holds nothing. -/
theorem holds_ofCapacity (n : Nat) : (ofCapacity n : EventSink ε).Holds [] :=
  ⟨rfl, List.drop_nil.symm⟩

/-- An event that is posted comes behind the others, and the oldest may be gone. -/
theorem Holds.post (h : sink.Holds log) (e : ε) : (sink.post e).Holds (log ++ [e]) := by
  constructor
  · show sink.posted + 1 = (log ++ [e]).length
    rw [h.posted, List.length_append, List.length_singleton]
  · -- What fell out of the buffer earlier and what falls out now are one beginning of the log.
    show (sink.kept ++ [e]).drop ((sink.kept ++ [e]).length - sink.capacity) =
      (log ++ [e]).drop ((log ++ [e]).length - sink.capacity)
    have hk : sink.kept ++ [e] = (log ++ [e]).drop (log.length - sink.capacity) := by
      rw [h.kept, List.drop_append_of_le_length (by omega)]
    rw [hk, List.drop_drop, List.length_drop, List.length_append, List.length_singleton]
    congr 1
    omega

/-- What is told of the events that wait for a subscriber, when the last `capacity` of them are kept. -/
def told (capacity : Nat) (events : List ε) : List (Received ε) :=
  if events.length ≤ capacity then events.map .event
  else .lagged (events.length - capacity) :: (events.drop (events.length - capacity)).map .event

/-- A subscriber is told of the events since its position, and is then at the end of the log. -/
theorem Holds.drain (h : sink.Holds log) {position : Nat} (hp : position ≤ log.length) :
    sink.drain position = (told sink.capacity (log.drop position), log.length) := by
  have ho : sink.posted - sink.kept.length = log.length - sink.capacity := by
    rw [h.posted, h.kept, List.length_drop]
    omega
  unfold EventSink.drain told
  simp only [ho]
  rw [h.kept, h.posted, List.drop_drop, List.drop_drop, List.length_drop]
  -- Either the buffer begins behind the position, or it reaches back to it.
  by_cases hlate : position < log.length - sink.capacity
  · have hfull : ¬log.length - position ≤ sink.capacity := by omega
    have hlost : log.length - sink.capacity - position = log.length - position - sink.capacity := by
      omega
    rw [if_pos hlate, if_neg hfull, hlost]
    congr 4
    omega
  · have hfits : log.length - position ≤ sink.capacity := by omega
    rw [if_neg hlate, if_pos hfits]
    congr 3
    omega

end EventSink

/-! ### The steps -/

namespace AudienceStep

variable {κ ε : Type}

/-- The event a step posts. -/
def event? : AudienceStep κ ε → Option ε
  | post e => some e
  | subscribe _ | drain _ => none

/-- The log of all events posted. -/
def log (steps : List (AudienceStep κ ε)) : List ε := steps.filterMap event?

/-- The events of one more step. -/
theorem log_concat (steps : List (AudienceStep κ ε)) (step : AudienceStep κ ε) :
    log (steps ++ [step]) = log steps ++ step.event?.toList := by
  unfold log
  cases he : step.event? <;> simp [he]

variable [DecidableEq κ]

/-- The steps a subscriber has a part in: its own, and every post. -/
def concerns (name : κ) : AudienceStep κ ε → Bool
  | post _ => true
  | subscribe other | drain other => decide (other = name)

/-- The events that wait for a subscriber after a step; there are none until it subscribes. -/
def await (name : κ) (waiting : Option (List ε)) : AudienceStep κ ε → Option (List ε)
  | post e => waiting.map (· ++ [e])
  | subscribe other => if other = name then some [] else waiting
  | drain other => if other = name then waiting.map fun _ => [] else waiting

/-- What waits for a subscriber is changed only by steps that concern it. -/
theorem await_of_not_concerns {name : κ} {step : AudienceStep κ ε} (h : step.concerns name = false)
    (waiting : Option (List ε)) : step.await name waiting = waiting := by
  cases step with
  | post e => cases h
  | subscribe other => exact if_neg (of_decide_eq_false h)
  | drain other => exact if_neg (of_decide_eq_false h)

end AudienceStep

/-- How a subscriber has fared since it subscribed. -/
structure Tally where
  /-- The events posted. -/
  posted : Nat := 0
  /-- The events it received. -/
  received : Nat := 0
  /-- The events it was told it lost. -/
  lost : Nat := 0
deriving DecidableEq, Repr

namespace Tally

variable {ε : Type}

/-- The account after another thing has been received. -/
def take (t : Tally) : Received ε → Tally
  | .lagged n => { t with lost := t.lost + n }
  | .event _ => { t with received := t.received + 1 }

/-- Events that are received are counted, and none is missed. -/
theorem foldl_take_events (events : List ε) (t : Tally) :
    (events.map .event).foldl take t = { t with received := t.received + events.length } := by
  induction events generalizing t with
  | nil => rfl
  | cons e events ih =>
    rw [List.map_cons, List.foldl_cons, ih, List.length_cons]
    simp only [take, Nat.add_assoc, Nat.add_comm 1]

/-- All events that waited are received or reported lost. -/
theorem foldl_take_told (capacity : Nat) (events : List ε) (t : Tally) :
    ((EventSink.told capacity events).foldl take t).received +
        ((EventSink.told capacity events).foldl take t).lost =
      t.received + t.lost + events.length ∧
    ((EventSink.told capacity events).foldl take t).posted = t.posted := by
  unfold EventSink.told
  split
  · rw [foldl_take_events]
    exact ⟨Nat.add_right_comm _ _ _, rfl⟩
  · next hlong =>
    rw [List.foldl_cons, foldl_take_events, List.length_drop]
    refine ⟨?_, rfl⟩
    show t.received + (events.length - (events.length - capacity)) +
      (t.lost + (events.length - capacity)) = t.received + t.lost + events.length
    omega

end Tally

/-! ### The audience -/

namespace Audience

open AudienceStep (log log_concat)

variable {κ ε : Type} [DecidableEq κ]

/-- The steps so far with what was received in them, oldest first. -/
abbrev History (κ ε : Type) := List (AudienceStep κ ε × Option (List (Received ε)))

/-- The audience after a step, with its history. -/
def record (x : Audience κ ε × History κ ε) (step : AudienceStep κ ε) : Audience κ ε × History κ ε :=
  ((x.1.step step).2, x.2 ++ [(step, (x.1.step step).1)])

/-- A sink for at least `n` events after some steps, with their history. -/
def after (n : Nat) (steps : List (AudienceStep κ ε)) : Audience κ ε × History κ ε :=
  steps.foldl record (⟨.ofCapacity n, .empty⟩, [])

/-- The events posted since a subscriber subscribed or last drained, if it has ever subscribed. -/
def backlog? (name : κ) (steps : List (AudienceStep κ ε)) : Option (List ε) :=
  steps.foldl (AudienceStep.await name) none

/-- The account of a subscriber after another step. -/
def count (name : κ) (tally : Option Tally) :
    AudienceStep κ ε × Option (List (Received ε)) → Option Tally
  | (.post _, _) => tally.map fun t => { t with posted := t.posted + 1 }
  | (.subscribe other, _) => if other = name then some {} else tally
  | (.drain other, received) =>
    if other = name then tally.map fun t => (received.getD []).foldl Tally.take t else tally

/-- How a subscriber has fared since it subscribed, if it has. -/
def tally? (name : κ) (history : History κ ε) : Option Tally := history.foldl (count name) none

/-- What the steps so far say about the audience. -/
structure Follows (capacity : Nat) (steps : List (AudienceStep κ ε))
    (x : Audience κ ε × History κ ε) : Prop where
  capacity : x.1.sink.capacity = capacity
  holds : x.1.sink.Holds (log steps)
  position_le : ∀ name position, x.1.positions.find? name = some position →
    position ≤ (log steps).length
  backlog : ∀ name, backlog? name steps =
    (x.1.positions.find? name).map fun position =>
      (log steps).drop position
  /-- No event is unaccounted for. -/
  tally : ∀ name waiting, backlog? name steps = some waiting →
    ∃ t, tally? name x.2 = some t ∧ t.received + t.lost + waiting.length = t.posted

variable {capacity : Nat} {steps : List (AudienceStep κ ε)} {x : Audience κ ε × History κ ε}

/-- What waits for a subscriber after one more step. -/
theorem backlog?_concat (name : κ) (steps : List (AudienceStep κ ε)) (step : AudienceStep κ ε) :
    backlog? name (steps ++ [step]) = step.await name (backlog? name steps) := by
  unfold backlog?
  rw [List.foldl_append]
  rfl

/-- The count of a subscriber after one more entry. -/
theorem tally?_concat (name : κ) (history : History κ ε)
    (entry : AudienceStep κ ε × Option (List (Received ε))) :
    tally? name (history ++ [entry]) = count name (tally? name history) entry := by
  unfold tally?
  rw [List.foldl_append]
  rfl

/-- A count is changed only by entries that concern the subscriber. -/
theorem count_of_not_concerns {name : κ} {step : AudienceStep κ ε} (h : step.concerns name = false)
    (tally : Option Tally) (received : Option (List (Received ε))) :
    count name tally (step, received) = tally := by
  cases step with
  | post e => cases h
  | subscribe other => exact if_neg (of_decide_eq_false h)
  | drain other => exact if_neg (of_decide_eq_false h)

/-- Nobody listens at the start. -/
theorem follows_ofCapacity (n : Nat) :
    Follows (powerOfTwoFrom (max 1 n)) []
      ((⟨.ofCapacity n, .empty⟩, []) : Audience κ ε × History κ ε) where
  capacity := rfl
  holds := EventSink.holds_ofCapacity n
  position_le := by intro name position hp; cases hp
  backlog := by intro name; rfl
  tally := by intro name waiting hw; cases hw

/-- A drain tells of the events that have waited. -/
theorem Follows.drain (h : Follows capacity steps x) (name : κ) :
    (x.1.step (.drain name)).1 = (backlog? name steps).map (EventSink.told capacity) := by
  rw [h.backlog]
  cases hp : x.1.positions.find? name with
  | none => simp [step, hp]
  | some position => simp [step, hp, h.holds.drain (h.position_le name position hp), h.capacity]

/-- An event waits for every subscriber then. -/
theorem Follows.post (h : Follows capacity steps x) (e : ε) :
    Follows capacity (steps ++ [.post e]) (record x (.post e)) := by
  have hlog : log (steps ++ [.post e]) = log steps ++ [e] := log_concat steps (.post e)
  constructor
  · exact h.capacity
  · rw [hlog]
    exact h.holds.post e
  · intro name position hp
    rw [hlog, List.length_append]
    exact Nat.le_add_right_of_le (h.position_le name position hp)
  · -- A position is not behind the end of the log, so the event comes behind those that wait.
    intro name
    rw [backlog?_concat, hlog]
    show (backlog? name steps).map _ = (x.1.positions.find? name).map _
    rw [h.backlog, Option.map_map]
    cases hp : x.1.positions.find? name with
    | none => rfl
    | some position =>
      have hle := h.position_le name position hp
      simp [List.drop_append_of_le_length hle]
  · intro name waiting hw
    rw [backlog?_concat] at hw
    obtain ⟨before, hb, rfl⟩ := Option.map_eq_some_iff.mp hw
    obtain ⟨t, ht, hsum⟩ := h.tally name before hb
    refine ⟨{ t with posted := t.posted + 1 }, ?_, ?_⟩
    · unfold record
      rw [tally?_concat, ht]
      rfl
    · rw [List.length_append, List.length_singleton]
      show t.received + t.lost + (before.length + 1) = t.posted + 1
      omega

/-- A subscriber that joins, or has drained, is at the end of the log. -/
theorem Follows.reposition (h : Follows capacity steps x) {name : κ} {step : AudienceStep κ ε}
    (hn : step = .subscribe name ∨ step = .drain name)
    (hx : (x.1.step step).2 = { x.1 with
      positions := x.1.positions.insert name (log steps).length })
    (hself : step.await name (backlog? name steps) = some [])
    (htally : ∃ t, count name (tally? name x.2) (step, (x.1.step step).1) = some t ∧
      t.received + t.lost = t.posted) :
    Follows capacity (steps ++ [step]) (record x step) := by
  have hlog : step.event? = none := by
    rcases hn with rfl | rfl <;> rfl
  have hother : ∀ other, name ≠ other → step.concerns other = false := by
    rcases hn with rfl | rfl <;> exact fun other hne => decide_eq_false hne
  have hevents : log (steps ++ [step]) = log steps := by
    rw [log_concat, hlog]
    exact List.append_nil _
  unfold record
  rw [hx]
  constructor
  · exact h.capacity
  · rw [hevents]
    exact h.holds
  · intro other position hp
    rw [hevents]
    rw [Directory.find?_insert] at hp
    split at hp
    · exact Nat.le_of_eq (Option.some.inj hp).symm
    · exact h.position_le other position hp
  · intro other
    rw [backlog?_concat, hevents, Directory.find?_insert]
    split
    · next hn =>
      subst hn
      simp [hself]
    · next hn => rw [AudienceStep.await_of_not_concerns (hother other hn), h.backlog]
  · intro other waiting hw
    rw [backlog?_concat] at hw
    rw [tally?_concat]
    -- The tally starts anew for this subscriber, and goes on for the others.
    by_cases hn : name = other
    · subst hn
      rw [hself] at hw
      cases hw
      exact htally
    · rw [AudienceStep.await_of_not_concerns (hother other hn)] at hw
      rw [count_of_not_concerns (hother other hn)]
      exact h.tally other waiting hw

/-- Who subscribes has nothing waiting, and counts anew. -/
theorem Follows.subscribe (h : Follows capacity steps x) (name : κ) :
    Follows capacity (steps ++ [.subscribe name]) (record x (.subscribe name)) := by
  refine h.reposition (.inl rfl) ?_ (if_pos rfl) ⟨{}, if_pos rfl, rfl⟩
  show { x.1 with positions := x.1.positions.insert name x.1.sink.posted } = _
  rw [h.holds.posted]

/-- Nothing waits for one that has never subscribed, and a drain changes nothing. -/
theorem Follows.drained_nothing (h : Follows capacity steps x) {name : κ}
    (hp : x.1.positions.find? name = none) :
    Follows capacity (steps ++ [.drain name]) (record x (.drain name)) := by
  have hb : backlog? name steps = none := by rw [h.backlog, hp]; rfl
  have hsame : ∀ other, backlog? other (steps ++ [.drain name]) = backlog? other steps := by
    intro other
    rw [backlog?_concat]
    by_cases hn : name = other
    · subst hn
      simp [AudienceStep.await, hb]
    · exact if_neg hn
  have hevents : log (steps ++ [.drain name]) = log steps := by
    rw [log_concat]
    exact List.append_nil _
  have hx : (x.1.step (.drain name)).2 = x.1 := by simp [step, hp]
  unfold record
  rw [hx]
  -- The steps grow by one that nobody hears of; log, positions and tallies stay.
  constructor
  · exact h.capacity
  · rw [hevents]
    exact h.holds
  · rw [hevents]
    exact h.position_le
  · intro other
    rw [hsame, hevents, h.backlog]
  · intro other waiting hw
    rw [hsame] at hw
    have hn : name ≠ other := by
      rintro rfl
      rw [hb] at hw
      cases hw
    have hc : (AudienceStep.drain name : AudienceStep κ ε).concerns other = false :=
      decide_eq_false hn
    rw [tally?_concat, count_of_not_concerns hc]
    exact h.tally other waiting hw

/-- Who drains gets what has waited, or is told how much of it is gone. -/
theorem Follows.drained (h : Follows capacity steps x) (name : κ) :
    Follows capacity (steps ++ [.drain name]) (record x (.drain name)) := by
  cases hp : x.1.positions.find? name with
  | none => exact h.drained_nothing hp
  | some position =>
    have hb : backlog? name steps = some ((log steps).drop position) := by
      rw [h.backlog, hp]
      rfl
    obtain ⟨t, ht, hsum⟩ := h.tally name _ hb
    refine h.reposition (.inr rfl) ?_ ?_ ?_
    · simp [step, hp, h.holds.drain (h.position_le name position hp)]
    · simp [AudienceStep.await, hb]
    · -- What waited is now received or reported lost, so the account comes out even.
      obtain ⟨hall, hposted⟩ := Tally.foldl_take_told capacity ((log steps).drop position) t
      rw [h.drain, hb, ht]
      refine ⟨_, if_pos rfl, ?_⟩
      rw [Option.map_some, Option.getD_some, hall, hsum, hposted]

/-- Whatever happens at the sink. -/
theorem Follows.record (h : Follows capacity steps x) (step : AudienceStep κ ε) :
    Follows capacity (steps ++ [step]) (record x step) := by
  cases step with
  | post e => exact h.post e
  | subscribe name => exact h.subscribe name
  | drain name => exact h.drained name

/-- The audience follows its steps, however many. -/
theorem follows_after (n : Nat) (steps : List (AudienceStep κ ε)) :
    Follows (powerOfTwoFrom (max 1 n)) steps (after n steps) := by
  -- The induction is on the steps to come, so that each adds to the ones before.
  have hgen : ∀ (before : List (AudienceStep κ ε)) (x : Audience κ ε × History κ ε),
      Follows (powerOfTwoFrom (max 1 n)) before x →
        Follows (powerOfTwoFrom (max 1 n)) (before ++ steps) (steps.foldl Audience.record x) := by
    induction steps with
    | nil =>
      intro before x hx
      rw [List.append_nil]
      exact hx
    | cons step steps ih =>
      intro before x hx
      rw [List.append_cons]
      exact ih _ _ (hx.record step)
  exact hgen [] _ (follows_ofCapacity n)

/-! ### What the subscribers have from it -/

/-- What the others do is not heard. -/
theorem backlog?_filter (name : κ) (steps : List (AudienceStep κ ε)) :
    backlog? name (steps.filter (·.concerns name)) = backlog? name steps := by
  unfold backlog?
  generalize (none : Option (List ε)) = waiting
  induction steps generalizing waiting with
  | nil => rfl
  | cons step steps ih =>
    rw [List.filter_cons]
    cases hc : step.concerns name with
    | true => exact ih _
    | false =>
      rw [List.foldl_cons, AudienceStep.await_of_not_concerns hc]
      exact ih waiting

/-- A sink for at least `n` events keeps as many as the least power of two that is at least `n` and at least
one.  At any time a subscriber that drains receives the events posted since it subscribed or last drained, in
their order, if that many are kept, and otherwise it is told how many it has lost before it receives the last
ones.  So all events are received, or reported lost, or wait; and what a subscriber receives does not depend
on the others. -/
theorem drain_tells_backlog (n : Nat) :
    ∃ capacity, IsLeast {c | (∃ k, c = 2 ^ k) ∧ max 1 n ≤ c} capacity ∧
      ∀ (steps : List (AudienceStep κ ε)) (name : κ),
        ((after n steps).1.step (.drain name)).1 =
          (backlog? name steps).map (EventSink.told capacity) ∧
        (∀ waiting, backlog? name steps = some waiting → ∃ t, tally? name (after n steps).2 = some t ∧
          t.received + t.lost + waiting.length = t.posted) ∧
        ((after n (steps.filter (·.concerns name))).1.step (.drain name)).1 =
          ((after n steps).1.step (.drain name)).1 := by
  refine ⟨powerOfTwoFrom (max 1 n), powerOfTwoFrom_isLeast _, fun steps name => ?_⟩
  have h := follows_after n steps
  refine ⟨h.drain name, h.tally name, ?_⟩
  rw [(follows_after n _).drain, backlog?_filter, h.drain]

end Audience

end P4Control
