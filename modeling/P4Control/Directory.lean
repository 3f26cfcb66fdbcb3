namespace P4Control

/-!
# Directories

A finite map kept as a list of pairs in the order in which the keys first came in.
Each key occurs at most once in a directory built with the operations below, and the
view of a directory is the function `find?`.

* `Directory.find?` — the value filed under a key.
* `Directory.insert` — file a value, replacing the one that was there.
* `Directory.erase` — forget a key.
-/

/-- A finite map from `κ` to `α`. -/
structure Directory (κ α : Type) where
  /-- The filed pairs, oldest key first. -/
  entries : List (κ × α) := []
deriving DecidableEq, Repr

namespace Directory

variable {κ α : Type}

/-- The directory with nothing filed. -/
def empty : Directory κ α := {}

instance : Inhabited (Directory κ α) := ⟨empty⟩

/-- The keys in use, oldest first. -/
def keys (d : Directory κ α) : List κ := d.entries.map (·.1)

/-- The filed values, oldest key first. -/
def values (d : Directory κ α) : List α := d.entries.map (·.2)

variable [DecidableEq κ]

/-- Looks a key up in a list of pairs. -/
def findIn (k : κ) : List (κ × α) → Option α
  | [] => none
  | (k', v) :: rest => if k' = k then some v else findIn k rest

/-- Replaces the pair of a key, or adds one at the end. -/
def insertIn (k : κ) (v : α) : List (κ × α) → List (κ × α)
  | [] => [(k, v)]
  | (k', v') :: rest => if k' = k then (k, v) :: rest else (k', v') :: insertIn k v rest

/-- The value filed under `k`. -/
def find? (d : Directory κ α) (k : κ) : Option α := findIn k d.entries

/-- Whether something is filed under `k`. -/
def contains (d : Directory κ α) (k : κ) : Bool := (d.find? k).isSome

/-- Files `v` under `k`. -/
def insert (d : Directory κ α) (k : κ) (v : α) : Directory κ α := ⟨insertIn k v d.entries⟩

/-- Forgets what is filed under `k`. -/
def erase (d : Directory κ α) (k : κ) : Directory κ α :=
  ⟨d.entries.filter fun entry => decide (entry.1 ≠ k)⟩

/-- The directory of a list of pairs; a later pair replaces an earlier one of the same key. -/
def ofList (pairs : List (κ × α)) : Directory κ α :=
  pairs.foldl (fun d p => d.insert p.1 p.2) empty

/-! ### What the operations do to the view -/

/-- The empty directory has no entries. -/
@[simp] theorem find?_empty (k : κ) : (empty : Directory κ α).find? k = none := rfl

/-- A key is found with its new value; the others are found as before. -/
theorem findIn_insertIn (k k' : κ) (v : α) (l : List (κ × α)) :
    findIn k' (insertIn k v l) = if k = k' then some v else findIn k' l := by
  induction l with
  | nil => simp [insertIn, findIn]
  | cons p rest ih =>
    obtain ⟨k₀, v₀⟩ := p
    by_cases h : k₀ = k <;> by_cases h' : k₀ = k' <;> grind [insertIn, findIn]

/-- After filing, the key holds the new value and every other key what it held. -/
@[simp] theorem find?_insert (d : Directory κ α) (k k' : κ) (v : α) :
    (d.insert k v).find? k' = if k = k' then some v else d.find? k' :=
  findIn_insertIn k k' v d.entries

/-- A key that is erased is not found; the others are found as before. -/
theorem findIn_filter (k k' : κ) (l : List (κ × α)) :
    findIn k' (l.filter fun entry => decide (entry.1 ≠ k)) = if k = k' then none else findIn k' l := by
  induction l with
  | nil => simp [findIn]
  | cons p rest ih =>
    obtain ⟨k₀, v₀⟩ := p
    by_cases h : k₀ = k <;> by_cases h' : k₀ = k' <;> grind [findIn]

/-- After forgetting, the key holds nothing and every other key what it held. -/
@[simp] theorem find?_erase (d : Directory κ α) (k k' : κ) :
    (d.erase k).find? k' = if k = k' then none else d.find? k' :=
  findIn_filter k k' d.entries

/-! ### What the operations do to the keys and the values -/

/-- A key is not found iff it is not there. -/
theorem findIn_eq_none_iff (k : κ) (l : List (κ × α)) :
    findIn k l = none ↔ k ∉ l.map (·.1) := by
  induction l with
  | nil => simp [findIn]
  | cons p rest ih =>
    obtain ⟨k₀, v₀⟩ := p
    by_cases h : k₀ = k <;> grind [findIn]

/-- Nothing is filed under a key that is not in use. -/
theorem find?_eq_none_iff {d : Directory κ α} {k : κ} : d.find? k = none ↔ k ∉ d.keys :=
  findIn_eq_none_iff k d.entries

/-- A new key comes behind the others; a key that is there stays in its place. -/
theorem map_fst_insertIn (k : κ) (v : α) (l : List (κ × α)) :
    (insertIn k v l).map (·.1) = if k ∈ l.map (·.1) then l.map (·.1) else l.map (·.1) ++ [k] := by
  induction l with
  | nil => simp [insertIn]
  | cons p rest ih =>
    obtain ⟨k₀, v₀⟩ := p
    by_cases h : k₀ = k <;> grind [insertIn]

/-- Filing adds a key that was not in use behind the others. -/
theorem keys_insert (d : Directory κ α) (k : κ) (v : α) :
    (d.insert k v).keys = if k ∈ d.keys then d.keys else d.keys ++ [k] :=
  map_fst_insertIn k v d.entries

/-- What is found is there. -/
theorem mem_of_findIn {k : κ} {v : α} {l : List (κ × α)} (h : findIn k l = some v) :
    (k, v) ∈ l := by
  induction l with
  | nil => simp [findIn] at h
  | cons p rest ih =>
    obtain ⟨k₀, v₀⟩ := p
    by_cases hk : k₀ = k <;> grind [findIn]

/-- What is filed under a key is one of the values. -/
theorem mem_values_of_find? {d : Directory κ α} {k : κ} {v : α} (h : d.find? k = some v) :
    v ∈ d.values :=
  List.mem_map.mpr ⟨(k, v), mem_of_findIn h, rfl⟩

/-- What is there was there before, or has been inserted. -/
theorem mem_insertIn {k : κ} {v : α} {l : List (κ × α)} {p : κ × α} (h : p ∈ insertIn k v l) :
    p = (k, v) ∨ p ∈ l := by
  induction l with
  | nil => simpa [insertIn] using h
  | cons q rest ih =>
    obtain ⟨k₀, v₀⟩ := q
    by_cases hk : k₀ = k <;> grind [insertIn]

/-- Filing brings in no value but the one filed. -/
theorem mem_values_insert {d : Directory κ α} {k : κ} {v w : α} (h : w ∈ (d.insert k v).values) :
    w = v ∨ w ∈ d.values := by
  obtain ⟨p, hp, rfl⟩ := List.mem_map.mp h
  rcases mem_insertIn hp with rfl | hp
  · exact .inl rfl
  · exact .inr (List.mem_map.mpr ⟨p, hp, rfl⟩)

/-- Forgetting brings in no value. -/
theorem mem_values_erase {d : Directory κ α} {k : κ} {w : α} (h : w ∈ (d.erase k).values) :
    w ∈ d.values := by
  obtain ⟨p, hp, rfl⟩ := List.mem_map.mp h
  exact List.mem_map.mpr ⟨p, (List.mem_filter.mp hp).1, rfl⟩

/-- Of two values for one key the second one stays. -/
theorem insertIn_insertIn (k : κ) (v v' : α) (l : List (κ × α)) :
    insertIn k v' (insertIn k v l) = insertIn k v' l := by
  induction l with
  | nil => simp [insertIn]
  | cons entry rest ih =>
    obtain ⟨k₀, v₀⟩ := entry
    by_cases h : k₀ = k <;> simp [insertIn, h, ih]

/-- Of two values that are filed under one key the second one stays. -/
theorem insert_insert (d : Directory κ α) (k : κ) (v v' : α) :
    (d.insert k v).insert k v' = d.insert k v' :=
  congrArg Directory.mk (insertIn_insertIn k v v' d.entries)

/-- A new entry comes behind the others. -/
theorem insertIn_of_not_mem {k : κ} {l : List (κ × α)} (h : k ∉ l.map (·.1)) (v : α) :
    insertIn k v l = l ++ [(k, v)] := by
  induction l with
  | nil => rfl
  | cons entry rest ih =>
    simp only [List.map_cons, List.mem_cons, not_or] at h
    rw [insertIn, if_neg (Ne.symm h.1), ih h.2, List.cons_append]

/-! ### Each key once -/

/-- Inserting repeats no key. -/
theorem nodup_insertIn {k : κ} {l : List (κ × α)} (h : (l.map (·.1)).Nodup) (v : α) :
    ((insertIn k v l).map (·.1)).Nodup := by
  rw [map_fst_insertIn]
  split
  · exact h
  · next hk =>
    rw [List.nodup_append]
    exact ⟨h, by simp, by rintro a ha b hb rfl; exact hk (List.mem_singleton.mp hb ▸ ha)⟩

/-- Filing keeps the keys distinct. -/
theorem nodup_keys_insert {d : Directory κ α} (h : d.keys.Nodup) (k : κ) (v : α) :
    (d.insert k v).keys.Nodup :=
  nodup_insertIn h v

/-- Where each key occurs once, a key holds whatever stands beside it. -/
theorem findIn_eq_some_iff {k : κ} {l : List (κ × α)} (h : (l.map (·.1)).Nodup) {v : α} :
    findIn k l = some v ↔ (k, v) ∈ l := by
  refine ⟨mem_of_findIn, fun hm => ?_⟩
  induction l with
  | nil => cases hm
  | cons entry rest ih =>
    simp only [List.map_cons, List.nodup_cons] at h
    rcases List.mem_cons.mp hm with rfl | hm
    · simp [findIn]
    · have hne : entry.1 ≠ k := by
        rintro rfl
        exact h.1 (List.mem_map.mpr ⟨_, hm, rfl⟩)
      rw [findIn, if_neg hne, ih h.2 hm]

/-- What is among the values is filed under some key. -/
theorem find?_of_mem_values {d : Directory κ α} (hn : d.keys.Nodup) {v : α} (h : v ∈ d.values) :
    ∃ k, d.find? k = some v := by
  obtain ⟨⟨k, v'⟩, hm, rfl⟩ := List.mem_map.mp h
  exact ⟨k, (findIn_eq_some_iff hn).mpr hm⟩

/-! ### A directory of pairs -/

/-- Inserting many pairs repeats no key. -/
theorem nodup_keys_foldl_insert {d : Directory κ α} (h : d.keys.Nodup) (pairs : List (κ × α)) :
    (pairs.foldl (fun d p => d.insert p.1 p.2) d).keys.Nodup := by
  induction pairs generalizing d with
  | nil => exact h
  | cons p rest ih => exact ih (nodup_keys_insert h p.1 p.2)

/-- A directory made of pairs repeats no key. -/
theorem nodup_keys_ofList (pairs : List (κ × α)) : (ofList pairs).keys.Nodup := by
  have hempty : (empty : Directory κ α).keys.Nodup := List.nodup_nil
  exact nodup_keys_foldl_insert hempty pairs

/-- Of many pairs with one key the last one counts. -/
theorem find?_foldl_insert (d : Directory κ α) (pairs : List (κ × α)) (k : κ) :
    (pairs.foldl (fun d p => d.insert p.1 p.2) d).find? k =
      ((pairs.filter fun p => decide (p.1 = k)).map (·.2)).getLast?.or (d.find? k) := by
  induction pairs generalizing d with
  | nil => rfl
  | cons p rest ih =>
    rw [List.foldl_cons, ih, find?_insert, List.filter_cons]
    by_cases hk : p.1 = k
    · -- the new pair counts unless a later one has the same key
      rw [if_pos hk, if_pos (decide_eq_true hk), List.map_cons, List.getLast?_cons]
      cases ((rest.filter fun p => decide (p.1 = k)).map (·.2)).getLast? <;> rfl
    · rw [if_neg hk, if_neg (by simpa using hk)]

/-- A key holds what the last of its pairs says. -/
theorem find?_ofList (pairs : List (κ × α)) (k : κ) :
    (ofList pairs).find? k = ((pairs.filter fun p => decide (p.1 = k)).map (·.2)).getLast? := by
  unfold ofList
  rw [find?_foldl_insert, find?_empty, Option.or_none]

end Directory

end P4Control
