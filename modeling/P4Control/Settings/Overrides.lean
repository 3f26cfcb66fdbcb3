import P4Control.Identity

namespace P4Control

/-!
# Settings of single devices

A device may override some of the general settings.  The overrides of all devices form a
table in the order of the device ids, so that two tables with the same content are equal.

* `Overrides` — what one device overrides.
* `DeviceTable` — the overrides of all devices; its view is `DeviceTable.find?`.
* `DeviceTable.insert`, `DeviceTable.ofList` — how a table is built.
-/

/-- The settings of one device; one that is not set is the general one. -/
structure Overrides where
  /-- Seconds until a short call times out. -/
  shortTimeout : Option UInt64 := none
  /-- Seconds until a long call times out. -/
  longTimeout : Option UInt64 := none
  /-- How many outbound frames may wait. -/
  queueCapacity : Option UInt64 := none
deriving DecidableEq, Repr, Inhabited

/-- The overrides of all devices, each device once, in the order of their ids. -/
structure DeviceTable where
  /-- The devices with their overrides. -/
  entries : List (DeviceId × Overrides)
  /-- The ids ascend. -/
  ascending : entries.Pairwise (fun a b => a.1.raw < b.1.raw)
deriving DecidableEq, Repr

namespace DeviceTable

/-- The table without devices. -/
def empty : DeviceTable := ⟨[], .nil⟩

instance : Inhabited DeviceTable := ⟨empty⟩

/-- Looks a device up in a list of pairs. -/
def findIn (device : DeviceId) : List (DeviceId × Overrides) → Option Overrides
  | [] => none
  | (id, overrides) :: rest => if id = device then some overrides else findIn device rest

/-- Puts a pair in its place, or in the place of the pair with the same id. -/
def insertIn (device : DeviceId) (overrides : Overrides) :
    List (DeviceId × Overrides) → List (DeviceId × Overrides)
  | [] => [(device, overrides)]
  | (id, old) :: rest =>
    if device.raw < id.raw then (device, overrides) :: (id, old) :: rest
    else if device = id then (device, overrides) :: rest
    else (id, old) :: insertIn device overrides rest

/-- An entry after an insertion is the new one or an old one. -/
theorem mem_insertIn {device : DeviceId} {overrides : Overrides} {entry : DeviceId × Overrides}
    {entries : List (DeviceId × Overrides)} (h : entry ∈ insertIn device overrides entries) :
    entry = (device, overrides) ∨ entry ∈ entries := by
  induction entries with
  | nil => simpa [insertIn] using h
  | cons head rest ih =>
    obtain ⟨id, old⟩ := head
    unfold insertIn at h
    split at h
    · simpa using h
    · split at h
      · rcases List.mem_cons.1 h with h | h
        · exact .inl h
        · exact .inr (List.mem_cons_of_mem _ h)
      · rcases List.mem_cons.1 h with h | h
        · exact .inr (h ▸ List.mem_cons_self)
        · exact (ih h).imp_right (List.mem_cons_of_mem _)

/-- An insertion keeps the devices in ascending order. -/
theorem ascending_insertIn (device : DeviceId) (overrides : Overrides)
    {entries : List (DeviceId × Overrides)}
    (h : entries.Pairwise (fun a b => a.1.raw < b.1.raw)) :
    (insertIn device overrides entries).Pairwise (fun a b => a.1.raw < b.1.raw) := by
  induction entries with
  | nil => exact List.pairwise_singleton _ _
  | cons head rest ih =>
    obtain ⟨id, old⟩ := head
    obtain ⟨below, restAscending⟩ := List.pairwise_cons.1 h
    unfold insertIn
    split
    · rename_i less
      refine List.pairwise_cons.2 ⟨fun entry mem => ?_, h⟩
      rcases List.mem_cons.1 mem with rfl | mem
      · exact less
      · exact String.lt_trans less (below entry mem)
    · split
      · rename_i same
        subst same
        exact List.pairwise_cons.2 ⟨below, restAscending⟩
      -- the device comes later: it is neither below the head nor the same
      · rename_i notLess different
        refine List.pairwise_cons.2 ⟨fun entry mem => ?_, ih restAscending⟩
        rcases mem_insertIn mem with rfl | mem
        · refine String.not_le.1 fun le => different ?_
          exact congrArg DeviceId.mk (String.le_antisymm le (String.not_lt.1 notLess))
        · exact below entry mem

/-- The overrides of a device, when it has some. -/
def find? (table : DeviceTable) (device : DeviceId) : Option Overrides := findIn device table.entries

/-- Gives a device its overrides, in the place of those it had. -/
def insert (table : DeviceTable) (device : DeviceId) (overrides : Overrides) : DeviceTable where
  entries := insertIn device overrides table.entries
  ascending := ascending_insertIn device overrides table.ascending

/-- The table of a list of pairs; a later pair replaces an earlier one of the same device. -/
def ofList (pairs : List (DeviceId × Overrides)) : DeviceTable :=
  pairs.foldl (fun table pair => table.insert pair.1 pair.2) empty

/-- The devices in the table, in the order of their ids. -/
def devices (table : DeviceTable) : List DeviceId := table.entries.map (·.1)

/-! ### What the operations do to the view -/

@[simp] theorem find?_empty (device : DeviceId) : empty.find? device = none := rfl

/-- After an insertion the device has the new overrides, and every other what it had. -/
theorem findIn_insertIn (device other : DeviceId) (overrides : Overrides)
    (entries : List (DeviceId × Overrides)) :
    findIn other (insertIn device overrides entries)
      = if device = other then some overrides else findIn other entries := by
  induction entries with
  | nil => simp [insertIn, findIn]
  | cons head rest ih =>
    obtain ⟨id, old⟩ := head
    by_cases h : device = other <;> by_cases h' : id = other <;> grind [insertIn, findIn]

/-- After an insertion the device has the new overrides, and every other device what it had. -/
@[simp] theorem find?_insert (table : DeviceTable) (device other : DeviceId) (overrides : Overrides) :
    (table.insert device overrides).find? other
      = if device = other then some overrides else table.find? other :=
  findIn_insertIn device other overrides table.entries

end DeviceTable

end P4Control
