import P4Control.Proofs.Linked
import P4Control.Proofs.Moves

namespace P4Control

/-!
# Clients and switches agree on sessions

As long as all streams are set up by clients with agents, an open session has its queue and its
scope, and when all tasks wait, the agent has a stream that is read exactly when one client of its
switch has an open session.

* `Scenario.Move.isForeign` — the moves past clients and agents.
* `System.OpenOn`, `System.Reads` — an open session with a switch, and the one who reads the stream
  of its agent.
* `ends_agree` — both ends agree, after every list of moves.
-/

namespace System

variable {s : System}

/-! ### When all tasks wait -/

/-- A client has an open session with a switch. -/
def OpenOn (s : System) (n : SwitchName) (id : ClientId) : Prop :=
  (s.client id).switch = n ∧ (s.client id).scope.isOpen = true

/-- The inbound loop of a client reads the stream on which the agent of a switch sends, in the scope
that is in place. -/
def Reads (s : System) (n : SwitchName) (id : ClientId) : Prop :=
  ∃ serial token, (s.switch n).attached = some serial ∧
    (s.stream ⟨n, serial⟩).listener = some (id, token) ∧
    (s.client id).scope.current = some token

/-- An inbound loop that waits does so in the scope in place, on the stream of the agent. -/
theorem Linked.listener_of_settled (h : s.Linked) (hv : s.Valid) (hr : s.ready = [])
    {st : StreamId} {id : ClientId} {token : Token} (hl : (s.stream st).listener = some (id, token)) :
    (s.client id).scope.current = some token ∧
      (s.switch st.switch).attached = some st.serial := by
  have hj := h.streams st
  have idle : ¬ ((s.client id).scope.isCancelled token = true ∨ (s.stream st).downlink.frames ≠ [] ∨
      (s.stream st).downlink.hasSender = false) := by
    intro hbusy
    have hm := hj.listens id token hl hbusy
    rw [hr] at hm
    cases hm
  rw [not_or, not_or] at idle
  obtain ⟨hc, -, hs⟩ := idle
  refine ⟨?_, hj.sender.mp (by simpa using hs)⟩
  exact (hv.scopes id).current_eq_some (hv.listeners st id token hl).2.1 (by simpa using hc)

/-- Whoever has an open session reads the stream of the agent. -/
theorem Linked.reads_of_open (h : s.Linked) (hv : s.Valid) (hr : s.ready = []) {n : SwitchName}
    {id : ClientId} (ho : s.OpenOn n id) : s.Reads n id := by
  obtain ⟨hn, ho⟩ := ho
  obtain ⟨st, hs⟩ := Option.isSome_iff_exists.mp ((hv.scopes id).isOpen_iff.mp ho)
  obtain ⟨token, ht, hl⟩ := h.slots id st hs
  have hsw := (h.streams st).owner id token hl
  rw [hn] at hsw
  subst hsw
  exact ⟨st.serial, token, (h.listener_of_settled hv hr hl).2, hl, ht⟩

/-- Only one reads it. -/
theorem Reads.unique {n : SwitchName} {id id' : ClientId} (h : s.Reads n id) (h' : s.Reads n id') :
    id = id' := by
  obtain ⟨serial, token, ha, hl, -⟩ := h
  obtain ⟨serial', token', ha', hl', -⟩ := h'
  rw [ha] at ha'
  cases ha'
  rw [hl] at hl'
  cases hl'
  rfl

/-- The agent has a stream that is read exactly when a client has an open session. -/
theorem Linked.isAttached_iff (h : s.Linked) (hv : s.Valid) (hr : s.ready = []) (n : SwitchName) :
    s.isAttached n = true ↔ ∃ id, s.OpenOn n id := by
  constructor
  · intro ha
    unfold isAttached at ha
    split at ha
    · cases ha
    · next serial hs =>
      obtain ⟨⟨id, token⟩, hl⟩ :=
        Option.isSome_iff_exists.mp ((h.streams ⟨n, serial⟩).receiver.mp ha)
      have hcur := (h.listener_of_settled hv hr hl).1
      refine ⟨id, ((h.streams ⟨n, serial⟩).owner id token hl).symm, ?_⟩
      rw [(hv.scopes id).isOpen_iff, (hv.listeners _ id token hl).2.2 hcur]
      rfl
  · rintro ⟨id, ho⟩
    obtain ⟨serial, token, ha, hl, -⟩ := h.reads_of_open hv hr ho
    unfold isAttached
    rw [ha]
    exact (h.streams ⟨n, serial⟩).receiver.mpr (by rw [hl]; rfl)

/-- The system without clients and streams. -/
theorem linked_of_blank {s : System} (hc : s.clients = .empty) (ht : s.streams = .empty)
    (hw : ∀ n, s.switch n = {}) : s.Linked := by
  -- no stream has been set up, so all are dead
  have stream : ∀ st, s.stream st = .dead := by
    intro st
    unfold System.stream
    rw [ht]
    rfl
  refine ⟨fun st => ?_, ?_, ?_⟩
  · refine ⟨fun _ => stream st, ?_, ?_, ?_, ?_, ?_, ?_, ?_, ?_⟩
    · rw [stream, hw]
      exact iff_of_false (by simp [Stream.dead]) (by simp)
    · rw [stream]
      exact iff_of_false (by simp [Stream.dead]) (by simp [Stream.dead])
    · intro id token hl
      rw [stream] at hl
      cases hl
    · intro id token hl
      rw [stream] at hl
      cases hl
    · intro hs
      rw [stream] at hs
      cases hs
    · rw [stream]
      rfl
    · intro _
      rw [stream]
      rfl
    · rw [stream]
      rfl
  · intro id st hs
    unfold System.client at hs
    rw [hc] at hs
    cases hs
  · intro n
    rw [hw]

end System

namespace Scenario

/-! ### Runs without foreign moves -/

/-- Whether a move sets up or uses a stream past any client and agent. -/
def Move.isForeign : Move → Bool
  | .act action => action.isForeign
  | .start _ request => request.isForeign
  | _ => false

/-- Only a foreign move has a foreign incident. -/
theorem not_foreign_of_makes {x : Scenario} {t : System} {m : Move} {is : List Incident}
    (h : Makes x t m is) (hm : m.isForeign = false) : .foreign ∉ is := by
  intro hi
  cases h.ofMove hi with
  | causes action hc =>
    have ha : action.isForeign = true := hc
    rw [show action.isForeign = false from hm] at ha
    cases ha
  | call name request id hi => cases hi
  | foreign name request hf =>
    rw [show request.isForeign = false from hm] at hf
    cases hf
  | task hi =>
    cases hi with
    | call K hr hi => cases hi

/-- Both ends of the streams stay together. -/
theorem linked_make {x : Scenario} (hv : x.Valid) (h : x.system.Linked) {m : Move}
    (hm : m.isForeign = false) : (x.make m).system.Linked := by
  rcases observes_or_leads hv m with ⟨posted, outcome, rfl⟩ | ⟨is, hmake, hl⟩
  · exact h.of_same (fun _ => ⟨rfl, .inl rfl⟩) (fun _ => rfl) (fun _ => ⟨rfl, rfl, rfl⟩)
      fun _ hm => hm
  · exact hl.linked (not_foreign_of_makes hmake hm) hv.system h

theorem linked_after {x : Scenario} (hv : x.Valid) (h : x.system.Linked) {ms : List Move}
    (hm : ∀ m ∈ ms, m.isForeign = false) : (x.after ms).system.Linked := by
  induction ms generalizing x with
  | nil => exact h
  | cons m rest ih =>
    exact ih (hv.make m) (linked_make hv h (hm m List.mem_cons_self))
      fun m' hm' => hm m' (List.mem_cons_of_mem _ hm')

/-- Switches that are put in new are new when they are looked up. -/
theorem find?_foldl_insert_new {n : SwitchName} {pairs : List (String × Switch)}
    {d : Directory String Switch} (hp : ∀ p ∈ pairs, p.2 = {}) (hd : (d.find? n).getD {} = {}) :
    ((pairs.foldl (fun d p => d.insert p.1 p.2) d).find? n).getD {} = {} := by
  induction pairs generalizing d with
  | nil => exact hd
  | cons p rest ih =>
    refine ih (fun q hq => hp q (List.mem_cons_of_mem _ hq)) ?_
    rw [Directory.find?_insert, hp p List.mem_cons_self]
    split
    · rfl
    · exact hd

/-- All switches are new at the start. -/
theorem switch_initial (devices : List String) (confs : List Pipeconf)
    (bindings : List (String × PipeconfId)) (config : ConfigChange) (capacity : Nat)
    (n : SwitchName) : (initial devices confs bindings config capacity).system.switch n = {} := by
  refine find?_foldl_insert_new ?_ rfl
  intro p hp
  obtain ⟨d, -, rfl⟩ := List.mem_map.mp hp
  rfl

theorem linked_initial (devices : List String) (confs : List Pipeconf)
    (bindings : List (String × PipeconfId)) (config : ConfigChange) (capacity : Nat) :
    (initial devices confs bindings config capacity).system.Linked :=
  System.linked_of_blank rfl rfl (switch_initial devices confs bindings config capacity)

/-- After every list of moves that leaves streams to clients and agents, a session is open exactly
while its queue is installed, and its scope has not been cancelled then.  When all tasks wait, the
agent of a switch has a stream that is read exactly when one client alone has an open session with
the switch, and it is that client who reads it. -/
theorem ends_agree (devices : List String) (confs : List Pipeconf)
    (bindings : List (String × PipeconfId)) (config : ConfigChange) (capacity : Nat)
    (ms : List Move) (hm : ∀ m ∈ ms, m.isForeign = false) :
    let s := ((initial devices confs bindings config capacity).after ms).system
    (∀ id,
      ((s.client id).scope.isOpen = true ↔ (s.client id).scope.slot.isSome = true) ∧
      ((s.client id).scope.isOpen = true → ∃ token,
        (s.client id).scope.current = some token ∧
          (s.client id).scope.isCancelled token = false)) ∧
    (s.ready = [] → ∀ n,
      (s.isAttached n = true ↔ ∃ id, s.OpenOn n id ∧ ∀ id', s.OpenOn n id' → id' = id) ∧
      (∀ id, s.OpenOn n id → s.Reads n id) ∧
      ∀ id id', s.OpenOn n id → s.OpenOn n id' → id = id') := by
  intro s
  have hx : (initial devices confs bindings config capacity).Valid :=
    valid_initial devices confs bindings config capacity
  have hv : s.Valid := (hx.after ms).system
  have hl : s.Linked := linked_after hx (linked_initial devices confs bindings config capacity) hm
  refine ⟨fun id => ⟨(hv.scopes id).isOpen_iff, fun ho => ?_⟩, fun hr n => ?_⟩
  · obtain ⟨token, ht⟩ := Option.isSome_iff_exists.mp ((hv.scopes id).current_of_open ho)
    exact ⟨token, ht, (hv.scopes id).isCancelled_current ht⟩
  -- when all tasks wait, the switch has one stream, and an open session reads it
  · have reads : ∀ id, s.OpenOn n id → s.Reads n id := fun id => hl.reads_of_open hv hr
    have unique : ∀ id id', s.OpenOn n id → s.OpenOn n id' → id = id' := fun id id' ho ho' =>
      (reads id ho).unique (reads id' ho')
    refine ⟨?_, reads, unique⟩
    rw [hl.isAttached_iff hv hr]
    constructor
    · rintro ⟨id, ho⟩
      exact ⟨id, ho, fun id' ho' => unique id' id ho' ho⟩
    · rintro ⟨id, ho, -⟩
      exact ⟨id, ho⟩

/-- Two clients open a session with one switch, the second in place of the first. -/
def takeover : List Move :=
  [.act (.new ⟨⟨"leaf"⟩, 1⟩ "first" none), .act (.new ⟨⟨"leaf"⟩, 1⟩ "second" none),
   .start "t0" (.openSession "first"), .start "t1" (.openSession "second"),
   .poll, .poll, .poll, .poll, .poll, .poll]

/-- After a takeover one client alone has an open session. -/
theorem ends_agree_takeover :
    let s := ((initial ["leaf"] [] [] {} 16).after takeover).system
    (∀ m ∈ takeover, m.isForeign = false) ∧ s.ready = [] ∧ s.isAttached "leaf" = true ∧
      ∃ id, s.OpenOn "leaf" id ∧ ∀ id', s.OpenOn "leaf" id' → id' = id := by
  have hm : ∀ m ∈ takeover, m.isForeign = false := by decide
  have hr : ((initial ["leaf"] [] [] {} 16).after takeover).system.ready = [] := by decide
  have ha : ((initial ["leaf"] [] [] {} 16).after takeover).system.isAttached "leaf" = true := by
    decide
  exact ⟨hm, hr, ha, ((ends_agree ["leaf"] [] [] {} 16 takeover hm).2 hr "leaf").1.mp ha⟩

end Scenario

end P4Control
