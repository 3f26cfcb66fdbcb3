import P4Control.Proofs.Running

namespace P4Control

/-!
# The partition of a control plane

Several parties share a control plane.  Each has devices and switches of its own, and goes by names of its
own for what it holds.  They share the clock, the pipeline configurations with their bindings, and the
settings for new clients.

* `Directory.keep` — the entries of a directory under some of the keys.
* `Directory.Concerns` — a change of a directory under the keys of one party.
* `Allotment` — what belongs to whom.
* `System.part` — a control plane with only what belongs to one party.
* `System.Fenced` — nothing that belongs to one party refers to another.
-/

/-! ### Parts of a directory -/

namespace Directory

variable {κ α Party : Type} [DecidableEq Party]

/-- The entries under the keys of a party. -/
def keep (d : Directory κ α) (owner : κ → Party) (p : Party) : Directory κ α :=
  ⟨d.entries.filter fun entry => decide (owner entry.1 = p)⟩

/-- Every entry has the property. -/
def All (d : Directory κ α) (P : κ → α → Prop) : Prop := ∀ entry ∈ d.entries, P entry.1 entry.2

/-- The keys that are kept are those of the party. -/
theorem keys_keep (d : Directory κ α) (owner : κ → Party) (p : Party) :
    (d.keep owner p).keys = d.keys.filter fun k => decide (owner k = p) := by
  simp only [keys, keep, List.filter_map]
  rfl

/-- A value that only stands under keys of the party is kept. -/
theorem mem_values_keep {d : Directory κ α} {owner : κ → Party} {p : Party} {v : α}
    (h : d.All fun k w => w = v → owner k = p) : v ∈ (d.keep owner p).values ↔ v ∈ d.values := by
  simp only [values, keep, List.mem_map, List.mem_filter, decide_eq_true_eq]
  exact exists_congr fun entry =>
    ⟨fun hm => ⟨hm.1.1, hm.2⟩, fun hm => ⟨⟨hm.1, h entry hm.1 hm.2⟩, hm.2⟩⟩

variable [DecidableEq κ] {d : Directory κ α} {owner : κ → Party} {p : Party} {k : κ}

/-- Inserting under a key of the party commutes with keeping the party's entries; inserting under
another key is not seen. -/
theorem filter_insertIn (owner : κ → Party) (p : Party) (k : κ) (v : α) (l : List (κ × α)) :
    (insertIn k v l).filter (fun entry => decide (owner entry.1 = p)) =
      if owner k = p then insertIn k v (l.filter fun entry => decide (owner entry.1 = p))
      else l.filter fun entry => decide (owner entry.1 = p) := by
  induction l with
  | nil => by_cases h : owner k = p <;> simp [insertIn, h]
  | cons entry rest ih =>
    obtain ⟨k₀, v₀⟩ := entry
    by_cases hk : k₀ = k
    · subst hk
      by_cases h : owner k₀ = p <;> simp [insertIn, h]
    · by_cases h : owner k₀ = p <;> by_cases h' : owner k = p <;> simp_all [insertIn]

/-- What is inserted under a key of the party is inserted in its part. -/
theorem keep_insert (h : owner k = p) (v : α) :
    (d.insert k v).keep owner p = (d.keep owner p).insert k v := by
  simp only [keep, insert, filter_insertIn, h, if_true]

/-- What is inserted under a key of someone else does not show in the part. -/
theorem keep_insert_of_ne (h : owner k ≠ p) (v : α) :
    (d.insert k v).keep owner p = d.keep owner p := by
  simp only [keep, insert, filter_insertIn, h, if_false]

/-- What is erased under a key of the party is erased in its part. -/
theorem keep_erase (k : κ) : (d.erase k).keep owner p = (d.keep owner p).erase k := by
  simp only [keep, erase, List.filter_filter, Bool.and_comm]

/-- What is erased under a key of someone else does not show in the part. -/
theorem keep_erase_of_ne (h : owner k ≠ p) : (d.erase k).keep owner p = d.keep owner p := by
  simp only [keep, erase, List.filter_filter]
  congr 1
  refine List.filter_congr fun entry _ => ?_
  by_cases hk : entry.1 = k
  · simp [hk, h]
  · simp [hk]

/-- A key of the party is looked up in its part as in the whole list. -/
theorem findIn_keep (h : owner k = p) (l : List (κ × α)) :
    findIn k (l.filter fun entry => decide (owner entry.1 = p)) = findIn k l := by
  induction l with
  | nil => rfl
  | cons entry rest ih =>
    obtain ⟨k₀, v₀⟩ := entry
    by_cases hk : k₀ = k
    · subst hk
      simp [findIn, h]
    · by_cases h' : owner k₀ = p <;> simp [findIn, h', hk, ih]

/-- A party finds what is filed under its own keys. -/
theorem find?_keep (h : owner k = p) : (d.keep owner p).find? k = d.find? k :=
  findIn_keep h d.entries

/-- A key of the party is in its part iff it is in the directory. -/
theorem contains_keep (h : owner k = p) : (d.keep owner p).contains k = d.contains k := by
  unfold contains
  rw [find?_keep h]

/-- A change of a directory that concerns one party only. -/
structure Concerns (owner : κ → Party) (p : Party) (f : Directory κ α → Directory κ α) : Prop where
  own : ∀ d, (f d).keep owner p = f (d.keep owner p)
  others : ∀ d o, o ≠ p → (f d).keep owner o = d.keep owner o

/-- Inserting concerns the owner of the key only. -/
theorem concerns_insert (h : owner k = p) (v : α) : Concerns owner p (·.insert k v) :=
  ⟨fun _ => keep_insert h v, fun _ _ ho => keep_insert_of_ne (fun he => ho (he.symm.trans h)) v⟩

/-- Erasing concerns the owner of the key only. -/
theorem concerns_erase (α : Type) (h : owner k = p) :
    Concerns owner p fun d : Directory κ α => d.erase k :=
  ⟨fun _ => keep_erase k, fun _ _ ho => keep_erase_of_ne fun he => ho (he.symm.trans h)⟩

omit [DecidableEq Party]

/-- What holds of all entries, and of a new one, holds of all entries then. -/
theorem All.insert {P : κ → α → Prop} (h : d.All P) {v : α} (hv : P k v) : (d.insert k v).All P := by
  intro entry hm
  rcases mem_insertIn hm with rfl | hm
  · exact hv
  · exact h entry hm

/-- What holds of all entries holds of those that are left. -/
theorem All.erase {P : κ → α → Prop} (h : d.All P) (k : κ) : (d.erase k).All P :=
  fun entry hm => h entry (List.mem_filter.mp hm).1

/-- What holds of all entries holds of the one that is found. -/
theorem All.find? {P : κ → α → Prop} (h : d.All P) {v : α} (hf : d.find? k = some v) : P k v :=
  h (k, v) (mem_of_findIn hf)

end Directory

/-! ### Parties -/

/-- What belongs to whom: devices with their clients, switches with their streams, and the names under
which users hold clients, observe them and make requests. -/
structure Allotment (Party : Type) where
  device : DeviceId → Party
  switch : SwitchName → Party
  handle : String → Party
  observer : String → Party
  /-- A request, and the stream that it hands to its caller, go by one name. -/
  request : String → Party

namespace Allotment

variable {Party : Type} (ω : Allotment Party)

/-- Whose client it is. -/
def client (id : ClientId) : Party := ω.device id.device

/-- Whose stream it is. -/
def stream (st : StreamId) : Party := ω.switch st.switch

/-- Whose task it is. -/
def task : Task → Party
  | .serve st | .listen st => ω.stream st
  | .resume call => ω.client call.client

end Allotment

namespace System

variable {Party : Type} {ω : Allotment Party} {s : System} {id : ClientId}

/-! ### Timers -/

/-- A timer takes its place among some of the others as it does among all. -/
theorem filter_insertTimer {timers : List Timer}
    (hs : timers.Pairwise fun t u => t.deadline.nanoseconds ≤ u.deadline.nanoseconds)
    (mine : Timer → Bool) (timer : Timer) :
    (insertTimer timer timers).filter mine =
      if mine timer then insertTimer timer (timers.filter mine) else timers.filter mine := by
  induction timers with
  | nil => simp [insertTimer, List.filter_cons]
  | cons t rest ih =>
    obtain ⟨hfirst, hrest⟩ := List.pairwise_cons.mp hs
    by_cases hle : t.deadline.nanoseconds ≤ timer.deadline.nanoseconds
    · have later : ∀ l, insertTimer timer (t :: l) = t :: insertTimer timer l := fun l => if_pos hle
      rw [later, List.filter_cons, List.filter_cons, ih hrest]
      cases mine t <;> cases mine timer <;> simp [later]
    · -- what comes behind a later timer is later too
      have first : ∀ l : List Timer, (∀ v ∈ l, v ∈ t :: rest) → insertTimer timer l = timer :: l := by
        intro l hsub
        cases l with
        | nil => rfl
        | cons v l =>
          refine if_neg fun hv => hle ?_
          rcases List.mem_cons.mp (hsub v List.mem_cons_self) with rfl | hm
          · exact hv
          · exact Nat.le_trans (hfirst v hm) hv
      rw [first _ fun _ hv => hv, first _ fun v hv => (List.mem_filter.mp hv).1, List.filter_cons]

/-! ### References -/

/-- Clients lead to switches of their own party, and nothing that belongs to one party refers to what
belongs to another. -/
structure Fenced (ω : Allotment Party) (s : System) : Prop where
  clients : s.clients.All fun id c =>
    ω.device c.key.device = ω.client id ∧ ω.switch c.switch = ω.client id ∧
      ∀ st, c.scope.slot = some st → ω.stream st = ω.client id
  streams : s.streams.All fun st t =>
    ∀ id token, t.listener = some (id, token) → ω.client id = ω.stream st
  registry : s.registry.All fun device id => ω.client id = ω.device device
  handles : s.handles.All fun name id => ω.client id = ω.handle name
  finished : ∀ f ∈ s.finished, ∀ r, f.cursor = some r → ω.client r.client = ω.client f.call.client
  /-- Timers are kept soonest first. -/
  timers : s.timers.Pairwise fun t u => t.deadline.nanoseconds ≤ u.deadline.nanoseconds

/-- A client that has been created is in the table. -/
theorem find?_of_knows (hk : s.Knows id) : s.clients.find? id = some (s.client id) := by
  unfold System.client
  cases hc : s.clients.find? id with
  | none => exact absurd hk (Directory.find?_eq_none_iff.mp hc)
  | some c => rfl

/-- The key of a client names a device of its own party. -/
theorem Fenced.device (h : s.Fenced ω) (hk : s.Knows id) :
    ω.device (s.client id).key.device = ω.client id :=
  (h.clients.find? (find?_of_knows hk)).1

/-- A client uses a switch of its own party. -/
theorem Fenced.switch (h : s.Fenced ω) (hk : s.Knows id) :
    ω.switch (s.client id).switch = ω.client id :=
  (h.clients.find? (find?_of_knows hk)).2.1

/-- The stream of a client's session is one of its own party. -/
theorem Fenced.slot (h : s.Fenced ω) (hk : s.Knows id) {st : StreamId}
    (hs : (s.client id).scope.slot = some st) : ω.stream st = ω.client id :=
  (h.clients.find? (find?_of_knows hk)).2.2 st hs

/-- An inbound loop reads a stream of the party of its client. -/
theorem Fenced.listener (h : s.Fenced ω) {st : StreamId} {token : Token}
    (hl : (s.stream st).listener = some (id, token)) : ω.client id = ω.stream st := by
  unfold System.stream at hl
  cases hst : s.streams.find? st with
  | none =>
    rw [hst] at hl
    cases hl
  | some t =>
    rw [hst] at hl
    exact h.streams.find? hst id token hl

/-! ### The part of a party -/

variable [DecidableEq Party]

/-- The control plane with only what belongs to one party, and with what all share. -/
def part (ω : Allotment Party) (p : Party) (s : System) : System :=
  { s with
    switches := s.switches.keep ω.switch p
    streams := s.streams.keep ω.stream p
    clients := s.clients.keep ω.client p
    channels := s.channels.keep ω.device p
    registry := s.registry.keep ω.device p
    handles := s.handles.keep ω.handle p
    timers := s.timers.filter fun t => decide (ω.client t.call.client = p)
    ready := s.ready.filter fun task => decide (ω.task task = p)
    journal := s.journal.filter fun e => decide (ω.device e.device = p)
    finished := s.finished.filter fun f => decide (ω.client f.call.client = p) }

variable {p : Party}

/-- A switch of the party is in its part as it is. -/
theorem switch_part {n : SwitchName} (h : ω.switch n = p) : (s.part ω p).switch n = s.switch n := by
  unfold System.switch part
  rw [Directory.find?_keep h]

/-- A stream of the party is in its part as it is. -/
theorem stream_part {st : StreamId} (h : ω.stream st = p) :
    (s.part ω p).stream st = s.stream st := by
  unfold System.stream part
  rw [Directory.find?_keep h]

/-- A client of the party is in its part as it is. -/
theorem client_part (h : ω.client id = p) : (s.part ω p).client id = s.client id := by
  unfold System.client part
  rw [Directory.find?_keep h]

/-- Whoever holds a client belongs to its party. -/
theorem isHeld_part (h : s.Fenced ω) (hid : ω.client id = p) :
    (s.part ω p).isHeld id = s.isHeld id := by
  -- the entries that hold the client are all in the part
  have held : ∀ {κ : Type} {d : Directory κ ClientId} {owner : κ → Party},
      (d.All fun k id => ω.client id = owner k) →
        (d.keep owner p).values.contains id = d.values.contains id := by
    intro κ d owner hd
    rw [Bool.eq_iff_iff, List.contains_iff_mem, List.contains_iff_mem]
    exact Directory.mem_values_keep fun entry hm he => by rw [← hd entry hm, he, hid]
  unfold isHeld
  rw [client_part hid]
  simp only [part, held h.handles, held h.registry]

/-- So does whatever keeps it in use. -/
theorem isInUse_part (h : s.Fenced ω) (hid : ω.client id = p) :
    (s.part ω p).isInUse id = s.isInUse id := by
  unfold isInUse
  rw [isHeld_part h hid, client_part hid]
  congr 1
  rw [Bool.eq_iff_iff, List.any_eq_true, List.any_eq_true]
  refine exists_congr fun v => ⟨fun hv => ⟨?_, hv.2⟩, fun hv => ⟨?_, hv.2⟩⟩
  · obtain ⟨entry, hm, he⟩ := List.mem_map.mp hv.1
    exact List.mem_map.mpr ⟨entry, (List.mem_filter.mp hm).1, he⟩
  · obtain ⟨l, hl, hi⟩ := (Option.any_eq_true _ _).mp hv.2
    refine (Directory.mem_values_keep fun entry hm he => ?_).mpr hv.1
    rw [← h.streams entry hm l.1 l.2 (he ▸ hl), of_decide_eq_true hi, hid]

/-- A task that becomes runnable does so in the part of its party. -/
theorem part_wake (s : System) (task : Task) :
    (s.wake task).part ω p = if ω.task task = p then (s.part ω p).wake task else s.part ω p := by
  by_cases ht : ω.task task = p
  · have hmem : task ∈ (s.part ω p).ready ↔ task ∈ s.ready := by simp [part, ht]
    rw [if_pos ht]
    unfold wake
    by_cases hm : task ∈ s.ready
    · rw [if_pos hm, if_pos (hmem.mpr hm)]
    · rw [if_neg hm, if_neg (mt hmem.mp hm)]
      simp [part, ht]
  · rw [if_neg ht]
    unfold wake
    split
    · rfl
    · simp [part, ht]

end System

end P4Control
