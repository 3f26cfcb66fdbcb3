import P4Control.Proofs.Layering
import P4Control.Toml.Document

namespace P4Control

/-!
# Each key once

Whatever a document says, no table in it has a key twice, however it came about: by headers, by dotted
keys, or as a value.

* `Datum.Tidy` — tables within tables that have each key once.
* `Toml.Tidy` — the same while they are under construction.
* `Toml.tidy_parse` — documents.
-/

/-- A piece of data that, if it is a table, has each key once, and so do the tables in its fields.  Arrays
may hold anything. -/
inductive Datum.Tidy : Datum → Prop where
  | other (d : Datum) (h : ∀ fields, d ≠ .table fields) : Tidy d
  | table (fields : Fields) (nodup : (fields.map (·.1)).Nodup) (each : ∀ field ∈ fields, Tidy field.2) :
    Tidy (.table fields)

/-- A finished table is tidy iff its keys are distinct and its fields are tidy. -/
theorem Datum.tidy_table_iff {fields : Fields} :
    Tidy (.table fields) ↔ (fields.map (·.1)).Nodup ∧ ∀ field ∈ fields, Tidy field.2 := by
  constructor
  · intro h
    cases h with
    | other _ h => exact absurd rfl (h fields)
    | table _ nodup each => exact ⟨nodup, each⟩
  · rintro ⟨nodup, each⟩
    exact .table fields nodup each

namespace Toml

open Directory

/-! ### Tables under construction -/

/-- What a key holds, if it may grow to a table, has each key once. -/
inductive Node.Tidy : Node → Prop where
  | value (d : Datum) (h : d.Tidy) : Tidy (.value d)
  | table (origin : Origin) (entries : Entries) (nodup : (entries.map (·.1)).Nodup)
    (each : ∀ entry ∈ entries, Tidy entry.2) : Tidy (.table origin entries)
  | tables (finished : List Datum) (last : Entries) : Tidy (.tables finished last)

/-- Entries of which each has a key of its own. -/
structure Tidy (entries : Entries) : Prop where
  nodup : (entries.map (·.1)).Nodup
  each : ∀ entry ∈ entries, entry.2.Tidy

/-- The empty table is tidy. -/
theorem tidy_nil : Tidy [] := ⟨.nil, by simp⟩

/-- A tidy node under any key keeps a table tidy: an old node of that key is replaced. -/
theorem Tidy.insert {entries : Entries} (h : Tidy entries) {node : Node} (hn : node.Tidy) (key : String) :
    Tidy (insertIn key node entries) := by
  refine ⟨nodup_insertIn h.nodup node, fun entry hm => ?_⟩
  rcases mem_insertIn hm with rfl | hm
  · exact hn
  · exact h.each entry hm

/-- A tidy table is a tidy node, however it came to be there. -/
theorem Tidy.node {entries : Entries} (h : Tidy entries) (origin : Origin) : Node.Tidy (.table origin entries) :=
  .table origin entries h.nodup h.each

/-- A table within a tidy one. -/
theorem Tidy.inner {entries inner : Entries} {key : String} {origin : Origin} (h : Tidy entries)
    (hf : findIn key entries = some (.table origin inner)) : Tidy inner := by
  have ht : Node.Tidy (.table origin inner) := h.each _ (mem_of_findIn hf)
  cases ht with
  | table _ _ nodup each => exact ⟨nodup, each⟩

/-- A tidy value keeps a table tidy, wherever in it the value goes. -/
theorem Tidy.assign {value : Datum} (hv : value.Tidy) {path : Path} {entries result : Entries}
    (h : Tidy entries) (ha : assign value path entries = some result) : Tidy result := by
  fun_induction Toml.assign value path entries generalizing result with
  | case1 | case2 => cases ha
  | case3 key =>
    cases ha
    exact h.insert (.value value hv) key
  | case4 key path _ _ _ ih =>
    obtain ⟨inner, hi, rfl⟩ := Option.map_eq_some_iff.mp ha
    exact h.insert ((ih tidy_nil hi).node .dotted) key
  | case5 key path _ _ inner hf ih =>
    obtain ⟨inner', hi, rfl⟩ := Option.map_eq_some_iff.mp ha
    exact h.insert ((ih (h.inner hf) hi).node .dotted) key
  | case6 => cases ha
  | case7 key path _ _ inner hf _ ih =>
    obtain ⟨inner', hi, rfl⟩ := Option.map_eq_some_iff.mp ha
    exact h.insert ((ih (h.inner hf) hi).node .implied) key
  | case8 => cases ha
  | case9 key path _ _ finished last hf _ ih =>
    obtain ⟨last', -, rfl⟩ := Option.map_eq_some_iff.mp ha
    exact h.insert (.tables finished last') key
  | case10 | case11 => cases ha

/-- A change that keeps every table tidy does so to the tables further in. -/
theorem Tidy.descend {change : Entries → Option Entries}
    (hc : ∀ entries result, Tidy entries → change entries = some result → Tidy result) {path : Path}
    {entries result : Entries} (h : Tidy entries) (hd : descend change path entries = some result) :
    Tidy result := by
  induction path generalizing entries result with
  | nil => exact hc entries result h hd
  | cons key path ih =>
    rw [Toml.descend] at hd
    split at hd
    · obtain ⟨inner, hi, rfl⟩ := Option.map_eq_some_iff.mp hd
      exact h.insert ((ih tidy_nil hi).node .implied) key
    · next origin inner hf =>
      obtain ⟨inner', hi, rfl⟩ := Option.map_eq_some_iff.mp hd
      exact h.insert ((ih (h.inner hf) hi).node origin) key
    · obtain ⟨last', -, rfl⟩ := Option.map_eq_some_iff.mp hd
      exact h.insert (.tables _ last') key
    · cases hd

/-- Opening a table by its header adds at most an empty one. -/
theorem tidy_openTable (key : String) (entries result : Entries) (h : Tidy entries)
    (ho : openTable key entries = some result) : Tidy result := by
  unfold openTable at ho
  split at ho
  · cases ho
    exact h.insert (tidy_nil.node .header) key
  · next inner hf =>
    cases ho
    exact h.insert ((h.inner hf).node .header) key
  · cases ho

/-- Opening an element of an array of tables adds at most an empty table, at the end of an array. -/
theorem tidy_openElement (key : String) (entries result : Entries) (h : Tidy entries)
    (ho : openElement key entries = some result) : Tidy result := by
  unfold openElement at ho
  split at ho
  · cases ho
    exact h.insert (.tables [] []) key
  · cases ho
    exact h.insert (.tables _ []) key
  · cases ho

/-- A header keeps the root tidy, if what it does at the end of its path keeps the table there tidy.
-/
theorem Tidy.header {opening : String → Entries → Option Entries}
    (hc : ∀ key entries result, Tidy entries → opening key entries = some result → Tidy result)
    {path : Path} {entries result : Entries} (h : Tidy entries)
    (ha : applyHeader opening path entries = some result) : Tidy result := by
  unfold applyHeader at ha
  obtain ⟨key, -, hd⟩ := Option.bind_eq_some_iff.mp ha
  exact h.descend (hc key) hd

/-! ### Finished tables -/

/-- Finishing a table keeps its keys and their order. -/
theorem map_fst_finishEntries (entries : Entries) :
    (Node.finishEntries entries).map (·.1) = entries.map (·.1) := by
  induction entries with
  | nil => rfl
  | cons entry rest ih =>
    rw [Node.finishEntries, List.map_cons, List.map_cons, ih, Node.finishEntry]

/-- The fields of a finished table are its entries, finished. -/
theorem mem_finishEntries {entries : Entries} {field : String × Datum} (h : field ∈ Node.finishEntries entries) :
    ∃ entry ∈ entries, field = (entry.1, entry.2.finish) := by
  induction entries with
  | nil => cases h
  | cons entry rest ih =>
    rw [Node.finishEntries] at h
    rcases List.mem_cons.mp h with rfl | h
    · exact ⟨entry, List.mem_cons_self, by rw [Node.finishEntry]⟩
    · obtain ⟨entry', hm, he⟩ := ih h
      exact ⟨entry', List.mem_cons_of_mem _ hm, he⟩

/-- A tidy node has a tidy value. -/
theorem Node.Tidy.finish {node : Node} (h : node.Tidy) : node.finish.Tidy := by
  induction h with
  | value d h =>
    rw [Node.finish]
    exact h
  | table origin entries nodup _ ih =>
    rw [Node.finish]
    refine .table _ (by rw [map_fst_finishEntries]; exact nodup) fun field hm => ?_
    obtain ⟨entry, hentry, rfl⟩ := mem_finishEntries hm
    exact ih entry hentry
  | tables finished last =>
    rw [Node.finish]
    exact .other _ (by simp)

/-- A tidy table has a tidy value. -/
theorem Tidy.finish {entries : Entries} (h : Tidy entries) : Datum.Tidy (.table (Node.finishEntries entries)) := by
  have := (h.node .header).finish
  rwa [Node.finish] at this

/-- Assigning tidy values one after another keeps a table tidy. -/
theorem tidy_foldlM_assign {entries result : Entries} (ht : Tidy entries) {pairs : List (Path × Datum)}
    (hp : ∀ pair ∈ pairs, pair.2.Tidy)
    (h : pairs.foldlM (fun entries pair => assign pair.2 pair.1 entries) entries = some result) :
    Tidy result := by
  induction pairs generalizing entries with
  | nil =>
    cases h
    exact ht
  | cons pair rest ih =>
    obtain ⟨hpair, hrest⟩ := List.forall_mem_cons.mp hp
    rw [List.foldlM_cons] at h
    obtain ⟨next, hn, h⟩ := Option.bind_eq_some_iff.mp h
    exact ih (ht.assign hpair hn) hrest h

/-- Inline tables are tidy if the values in them are. -/
theorem tidy_inlineTable {pairs : List (Path × Datum)} (hp : ∀ pair ∈ pairs, pair.2.Tidy) {d : Datum}
    (h : inlineTable? pairs = some d) : d.Tidy := by
  unfold inlineTable? at h
  obtain ⟨entries, he, rfl⟩ := Option.map_eq_some_iff.mp h
  exact (tidy_foldlM_assign tidy_nil hp he).finish

/-! ### Values -/

/-- A moment is a scalar. -/
theorem tidy_momentOf (written : List Char) : (momentOf written).Tidy :=
  .table _ (by simp) (by rintro field hm; cases List.mem_singleton.mp hm; exact .other _ (by simp))

/-- A reader of values that are tidy. -/
def ReadsTidy (read : List Char → Option (Datum × List Char)) : Prop :=
  ∀ s d rest, read s = some (d, rest) → d.Tidy

/-- Numerals are read as scalars. -/
theorem readsTidy_numeral : ReadsTidy readNumeral := by
  intro s d rest h
  unfold readNumeral at h
  split at h
  · cases h
    exact tidy_momentOf _
  · split at h
    · cases h
      exact .other _ (by simp)
    · obtain ⟨_, -, he⟩ := Option.map_eq_some_iff.mp h
      cases he
      exact .other _ (by simp)

/-- Scalars are tidy, for they have no fields. -/
theorem readsTidy_scalar : ReadsTidy readScalar := by
  intro s d rest h
  unfold readScalar at h
  split at h
  · cases h
  split at h
  · obtain ⟨_, -, he⟩ := Option.map_eq_some_iff.mp h
    cases he
    exact .other _ (by simp)
  split at h
  · obtain ⟨_, -, he⟩ := Option.map_eq_some_iff.mp h
    cases he
    exact .other _ (by simp)
  split at h
  · obtain ⟨_, -, he⟩ := Option.map_eq_some_iff.mp h
    cases he
    exact .other _ (by simp)
  · exact readsTidy_numeral _ _ _ h

section

variable {readInner : List Char → Option (Datum × List Char)} (hr : ReadsTidy readInner)

include hr

/-- The value of a pair is tidy, if values are read tidily. -/
theorem tidy_readPairWith {s rest : List Char} {pair : Path × Datum}
    (h : readPairWith readInner s = some (pair, rest)) : pair.2.Tidy := by
  unfold readPairWith at h
  obtain ⟨⟨path, r⟩, -, h⟩ := Option.bind_eq_some_iff.mp h
  obtain ⟨r', -, h⟩ := Option.bind_eq_some_iff.mp h
  obtain ⟨⟨value, rest'⟩, hv, h⟩ := Option.bind_eq_some_iff.mp h
  cases h
  exact hr _ _ _ hv

/-- So are the values of all pairs between braces. -/
theorem tidy_readPairs {fuel : Nat} {s rest : List Char} {pairs : List (Path × Datum)}
    (h : readPairs readInner fuel s = some (pairs, rest)) : ∀ pair ∈ pairs, pair.2.Tidy := by
  induction fuel generalizing s rest pairs with
  | zero => cases h
  | succ fuel ih =>
    rw [readPairs] at h
    obtain ⟨⟨pair, r⟩, hp, h⟩ := Option.bind_eq_some_iff.mp h
    have hpair := tidy_readPairWith hr hp
    dsimp only at h
    split at h
    · cases h
      exact List.forall_mem_singleton.mpr hpair
    · obtain ⟨⟨pairs', rest'⟩, hps, h⟩ := Option.bind_eq_some_iff.mp h
      cases h
      exact List.forall_mem_cons.mpr ⟨hpair, ih hps⟩
    · cases h

/-- An inline table is built by assignments, so it is tidy if the values in it are. -/
theorem readsTidy_inline : ReadsTidy (readInline readInner) := by
  intro s d rest h
  unfold readInline at h
  split at h
  · cases h
    exact .table [] .nil (by simp)
  · obtain ⟨⟨pairs, r⟩, hp, h⟩ := Option.bind_eq_some_iff.mp h
    obtain ⟨table, ht, h⟩ := Option.bind_eq_some_iff.mp h
    cases h
    exact tidy_inlineTable (tidy_readPairs hr hp) ht

end

/-- Values are read tidily to any depth of nesting. -/
theorem readsTidy_within (depth : Nat) : ReadsTidy (readValueWithin depth) := by
  induction depth with
  | zero => exact readsTidy_scalar
  | succ depth ih =>
    intro s d rest h
    unfold readValueWithin at h
    split at h
    · obtain ⟨_, -, he⟩ := Option.map_eq_some_iff.mp h
      cases he
      exact .other _ (by simp)
    · exact readsTidy_inline ih _ _ _ h
    · exact readsTidy_scalar _ _ _ h

/-! ### Documents -/

/-- An item whose value, if it gives one, is tidy. -/
def Item.IsTidy : Item → Prop
  | .entry _ value => value.Tidy
  | _ => True

/-- A header brings no value. -/
theorem isTidy_readHeader {s rest : List Char} {item : Item} (h : readHeader s = some (item, rest)) :
    item.IsTidy := by
  unfold readHeader at h
  split at h
  · obtain ⟨_, -, h⟩ := Option.bind_eq_some_iff.mp h
    obtain ⟨_, -, h⟩ := Option.bind_eq_some_iff.mp h
    obtain ⟨_, -, h⟩ := Option.bind_eq_some_iff.mp h
    cases h
    trivial
  · obtain ⟨_, -, h⟩ := Option.bind_eq_some_iff.mp h
    obtain ⟨_, -, h⟩ := Option.bind_eq_some_iff.mp h
    cases h
    trivial

/-- An item of a document brings at most one value, and a tidy one. -/
theorem isTidy_readItem {s rest : List Char} {item : Item} (h : readItem s = some (item, rest)) :
    item.IsTidy := by
  unfold readItem at h
  dsimp only at h
  split at h
  · obtain ⟨⟨_, _⟩, hi, h⟩ := Option.bind_eq_some_iff.mp h
    obtain ⟨_, -, h⟩ := Option.bind_eq_some_iff.mp h
    cases h
    exact isTidy_readHeader hi
  · obtain ⟨⟨_, _⟩, hi, h⟩ := Option.bind_eq_some_iff.mp h
    obtain ⟨_, -, h⟩ := Option.bind_eq_some_iff.mp h
    cases h
    obtain ⟨_, hp, hi⟩ := Option.map_eq_some_iff.mp hi
    cases hi
    exact tidy_readPairWith (readsTidy_within depthLimit) hp

/-- All items of a document are tidy. -/
theorem isTidy_readItemsWithin {fuel : Nat} {s : List Char} {items : List Item}
    (h : readItemsWithin fuel s = some items) : ∀ item ∈ items, item.IsTidy := by
  induction fuel generalizing s items with
  | zero => cases h
  | succ fuel ih =>
    rw [readItemsWithin] at h
    split at h
    · cases h
      simp
    · exact ih h
    · exact ih h
    · obtain ⟨_, -, h⟩ := Option.bind_eq_some_iff.mp h
      exact ih h
    · obtain ⟨⟨item, r⟩, hi, h⟩ := Option.bind_eq_some_iff.mp h
      obtain ⟨items', his, h⟩ := Option.bind_eq_some_iff.mp h
      cases h
      exact List.forall_mem_cons.mpr ⟨isTidy_readItem hi, ih his⟩

/-- A tidy item keeps the draft of a document tidy. -/
theorem tidy_add {draft next : Draft} {item : Item} (h : Tidy draft.root) (hi : item.IsTidy)
    (ha : draft.add item = some next) : Tidy next.root := by
  cases item with
  | table path =>
    obtain ⟨root, hroot, rfl⟩ := Option.map_eq_some_iff.mp ha
    exact h.header tidy_openTable hroot
  | element path =>
    obtain ⟨root, hroot, rfl⟩ := Option.map_eq_some_iff.mp ha
    exact h.header tidy_openElement hroot
  | entry path value =>
    obtain ⟨root, hroot, rfl⟩ := Option.map_eq_some_iff.mp ha
    exact h.descend (fun _ _ ht => ht.assign hi) hroot

/-- Tidy items make a tidy document. -/
theorem tidy_foldlM {items : List Item} (hi : ∀ item ∈ items, item.IsTidy) {draft result : Draft}
    (h : Tidy draft.root) (hf : items.foldlM Draft.add draft = some result) : Tidy result.root := by
  induction items generalizing draft with
  | nil =>
    cases hf
    exact h
  | cons item rest ih =>
    obtain ⟨hitem, hrest⟩ := List.forall_mem_cons.mp hi
    rw [List.foldlM_cons] at hf
    obtain ⟨next, hn, hf⟩ := Option.bind_eq_some_iff.mp hf
    exact ih hrest (tidy_add h hitem hn) hf

/-- The tables of a document have each key once. -/
theorem tidy_parse {doc : String} {fields : Fields} (h : parse doc = some fields) :
    Datum.Tidy (.table fields) := by
  unfold parse at h
  obtain ⟨items, hi, h⟩ := Option.bind_eq_some_iff.mp h
  unfold fieldsOf? at h
  obtain ⟨draft, hd, rfl⟩ := Option.map_eq_some_iff.mp h
  unfold readItems at hi
  exact (tidy_foldlM (isTidy_readItemsWithin hi) tidy_nil hd).finish

end Toml

end P4Control
