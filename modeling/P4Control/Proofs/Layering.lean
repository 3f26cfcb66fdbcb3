import P4Control.Proofs.Usable

namespace P4Control

/-!
# Layers of settings

A layer is untyped data in which the general settings and the sections of the devices hold numbers.  What
lies on top counts, setting by setting: a layer over another one hides no setting that it does not set
itself.

* `Datum.findIn_overFields` — what a key holds when one table has been laid over another.
* `Datum.Each` — a table all of whose fields are of one kind.
* `Settings.IsLayer` — what a layer looks like.
* `Settings.general?`, `Settings.override?`, `Settings.Mentions` — what a layer sets.
* `Settings.IsLayer.over` — one layer over another.
* `Settings.ofFields_layer` — the settings that a layer stands for.
-/

open Directory

namespace Datum

/-! ### One table over another -/

/-- A key of the upper table holds what that table says, laid over what the key held below; every other
key is left alone. -/
theorem findIn_overFields {olds news : Fields} (h : (news.map (·.1)).Nodup) (k : String) :
    findIn k (overFields olds news) =
      ((findIn k news).map fun d => overField (findIn k olds) (k, d)).or (findIn k olds) := by
  induction news generalizing olds with
  | nil => rw [overFields]; rfl
  | cons field rest ih =>
    simp only [List.map_cons, List.nodup_cons] at h
    obtain ⟨key, d⟩ := field
    rw [overFields, ih h.2, findIn_insertIn]
    by_cases hk : key = k
    · subst hk
      simp [findIn, (findIn_eq_none_iff _ _).mpr h.1]
    · simp [findIn, hk]

/-- Laying a table over another repeats no key. -/
theorem nodup_overFields {olds : Fields} (h : (olds.map (·.1)).Nodup) (news : Fields) :
    ((overFields olds news).map (·.1)).Nodup := by
  induction news generalizing olds with
  | nil => rw [overFields]; exact h
  | cons field rest ih => rw [overFields]; exact ih (nodup_insertIn h _)

/-- The keys are those of both tables. -/
theorem mem_keys_overFields {olds news : Fields} {k : String} :
    k ∈ (overFields olds news).map (·.1) ↔ k ∈ olds.map (·.1) ∨ k ∈ news.map (·.1) := by
  induction news generalizing olds with
  | nil => rw [overFields]; simp
  | cons field rest ih =>
    rw [overFields, ih, map_fst_insertIn]
    split <;> grind

/-- New fields come behind the old ones. -/
theorem overFields_of_disjoint {olds news : Fields} (h : (news.map (·.1)).Nodup)
    (hd : ∀ k ∈ news.map (·.1), k ∉ olds.map (·.1)) : overFields olds news = olds ++ news := by
  induction news generalizing olds with
  | nil => rw [overFields, List.append_nil]
  | cons field rest ih =>
    simp only [List.map_cons, List.nodup_cons] at h
    have hf : field.1 ∉ olds.map (·.1) := hd field.1 (by simp)
    have hnew : overField none field = field.2 := by rw [overField]
    rw [overFields, (findIn_eq_none_iff _ _).mpr hf, hnew, insertIn_of_not_mem hf, ih h.2]
    · simp
    · intro k hk
      simp only [List.map_append, List.map_cons, List.map_nil, List.mem_append, List.mem_singleton, not_or]
      exact ⟨hd k (List.mem_cons_of_mem _ hk), fun he => h.1 (he ▸ hk)⟩

/-- Over an empty table a table stays as it is. -/
theorem overFields_nil {news : Fields} (h : (news.map (·.1)).Nodup) : overFields [] news = news :=
  overFields_of_disjoint h (by simp)

/-! ### Tables of one kind of data -/

/-- A table with one field for each key, all of whose data are of one kind. -/
structure Each (kind : Datum → Prop) (fields : Fields) : Prop where
  nodup : (fields.map (·.1)).Nodup
  each : ∀ k d, findIn k fields = some d → kind d

/-- A piece of data is such a table. -/
def IsTable (kind : Datum → Prop) (d : Datum) : Prop := ∃ fields, d = .table fields ∧ Each kind fields

/-- A piece of data is a number of 64 bits. -/
def IsNumber (d : Datum) : Prop := ∃ n : UInt64, d = .integer n.toNat

variable {kind : Datum → Prop}

/-- The empty table holds no data of another kind. -/
theorem each_nil : Each kind [] := ⟨by simp, by intro k d h; cases h⟩

/-- A kind of data stays what it is when one piece is laid over another. -/
def Stable (kind : Datum → Prop) : Prop := ∀ old new, kind old → kind new → kind (layOver old new)

/-- Tables of a stable kind make a table of that kind. -/
theorem Each.over (hs : Stable kind) {olds news : Fields} (ho : Each kind olds) (hn : Each kind news) :
    Each kind (overFields olds news) := by
  refine ⟨nodup_overFields ho.nodup news, fun k d h => ?_⟩
  rw [findIn_overFields hn.nodup] at h
  cases hnew : findIn k news with
  | none =>
    rw [hnew] at h
    exact ho.each k d h
  | some new =>
    rw [hnew] at h
    cases hold : findIn k olds with
    | none =>
      rw [hold, Option.map_some, Option.some_or, overField] at h
      exact Option.some.inj h ▸ hn.each k new hnew
    | some old =>
      rw [hold, Option.map_some, Option.some_or, overField] at h
      exact Option.some.inj h ▸ hs old new (ho.each k old hold) (hn.each k new hnew)

/-- A number replaces a number. -/
theorem stable_isNumber : Stable IsNumber := by
  rintro old new - ⟨n, rfl⟩
  exact ⟨n, by rw [layOver]⟩

/-- A table merges with a table. -/
theorem stable_isTable (hs : Stable kind) : Stable (IsTable kind) := by
  rintro old new ⟨olds, rfl, ho⟩ ⟨news, rfl, hn⟩
  exact ⟨overFields olds news, by rw [layOver], ho.over hs hn⟩

/-- The fields of a table at a key; where there is no table there are none. -/
def tableAt (key : String) (fields : Fields) : Fields :=
  match findIn key fields with
  | some (.table inner) => inner
  | _ => []

/-- The table that is there. -/
theorem tableAt_of_findIn {key : String} {fields inner : Fields}
    (h : findIn key fields = some (.table inner)) : tableAt key fields = inner := by
  unfold tableAt
  rw [h]

/-- Without an entry the table counts as empty. -/
theorem tableAt_of_none {key : String} {fields : Fields} (h : findIn key fields = none) :
    tableAt key fields = [] := by
  unfold tableAt
  rw [h]

/-- A key holds a table of one kind of data, if it holds anything. -/
def HasTable (kind : Datum → Prop) (key : String) (fields : Fields) : Prop :=
  ∀ d, findIn key fields = some d → IsTable kind d

/-- The table under the key, even where it is missing, has data of the kind. -/
theorem HasTable.each {key : String} {fields : Fields} (h : HasTable kind key fields) :
    Each kind (tableAt key fields) := by
  cases hf : findIn key fields with
  | none =>
    rw [tableAt_of_none hf]
    exact each_nil
  | some d =>
    obtain ⟨inner, rfl, hi⟩ := h d hf
    rw [tableAt_of_findIn hf]
    exact hi

/-- Tables at the same key are laid over each other. -/
theorem tableAt_overFields {key : String} {olds news : Fields} (hnodup : (news.map (·.1)).Nodup)
    (ho : HasTable kind key olds) (hn : HasTable kind key news) :
    tableAt key (overFields olds news) = overFields (tableAt key olds) (tableAt key news) := by
  have hfind := @findIn_overFields olds _ hnodup key
  cases hnew : findIn key news with
  | none =>
    rw [hnew] at hfind
    rw [tableAt_of_none hnew, overFields]
    unfold tableAt
    rw [hfind]
    rfl
  | some new =>
    obtain ⟨inner, rfl, hi⟩ := hn new hnew
    cases hold : findIn key olds with
    | none =>
      rw [hnew, hold, Option.map_some, Option.some_or, overField] at hfind
      rw [tableAt_of_findIn hfind, tableAt_of_none hold, tableAt_of_findIn hnew, overFields_nil hi.nodup]
    | some old =>
      obtain ⟨inner', rfl, -⟩ := ho old hold
      rw [hnew, hold, Option.map_some, Option.some_or, overField] at hfind
      simp only [layOver] at hfind
      rw [tableAt_of_findIn hfind, tableAt_of_findIn hold, tableAt_of_findIn hnew]

/-- Two tables of a kind under one key make one of that kind. -/
theorem HasTable.over (hs : Stable kind) {key : String} {olds news : Fields}
    (hnodup : (news.map (·.1)).Nodup) (ho : HasTable kind key olds) (hn : HasTable kind key news) :
    HasTable kind key (overFields olds news) := by
  intro d hd
  rw [findIn_overFields hnodup] at hd
  cases hnew : findIn key news with
  | none =>
    rw [hnew] at hd
    exact ho d hd
  | some new =>
    rw [hnew] at hd
    cases hold : findIn key olds with
    | none =>
      rw [hold, Option.map_some, Option.some_or, overField] at hd
      exact Option.some.inj hd ▸ hn new hnew
    | some old =>
      rw [hold, Option.map_some, Option.some_or, overField] at hd
      exact Option.some.inj hd ▸ stable_isTable hs old new (ho old hold) (hn new hnew)

end Datum

namespace Settings

open Datum

/-! ### Numbers -/

/-- The number that fields hold for a setting. -/
def numberIn (fields : Fields) (setting : Setting) : Option UInt64 :=
  match findIn setting.name fields with
  | some (.integer n) => some (UInt64.ofNat n.toNat)
  | _ => none

/-- The number that is written there. -/
theorem numberIn_of_some {fields : Fields} {setting : Setting} {n : UInt64}
    (h : findIn setting.name fields = some (.integer n.toNat)) : numberIn fields setting = some n := by
  unfold numberIn
  rw [h]
  simp

/-- Without an entry there is no number. -/
theorem numberIn_of_none {fields : Fields} {setting : Setting}
    (h : findIn setting.name fields = none) : numberIn fields setting = none := by
  unfold numberIn
  rw [h]

/-- Of two tables of numbers, the upper one counts where it sets a number. -/
theorem numberIn_overFields {olds news : Fields} (hn : Each IsNumber news) (setting : Setting) :
    numberIn (overFields olds news) setting = (numberIn news setting).or (numberIn olds setting) := by
  have hfind := @findIn_overFields olds _ hn.nodup setting.name
  cases hnew : findIn setting.name news with
  | none =>
    rw [hnew] at hfind
    rw [numberIn_of_none hnew, Option.none_or]
    unfold numberIn
    rw [hfind]
    rfl
  | some new =>
    obtain ⟨n, rfl⟩ := hn.each _ new hnew
    have hover : overField (findIn setting.name olds) (setting.name, .integer n.toNat)
        = .integer n.toNat := by
      cases findIn setting.name olds <;> simp only [overField, layOver]
    rw [hnew, Option.map_some, Option.some_or, hover] at hfind
    rw [numberIn_of_some hfind, numberIn_of_some hnew, Option.some_or]

/-- A number of 64 bits is read as it was written. -/
theorem readNumber_of_isNumber (path : List String) (n : UInt64) :
    readNumber path (.integer n.toNat) = .ok n := by
  have hsize : (n.toNat : Int) < UInt64.size := by exact_mod_cast n.toNat_lt
  simp only [readNumber]
  rw [if_pos (Int.natCast_nonneg _), if_pos hsize]
  simp

/-- Where all fields are numbers, the number of a setting can be read. -/
theorem readField_each {fields : Fields} (h : Each IsNumber fields) (path : List String)
    (setting : Setting) : readField path fields setting = .ok (numberIn fields setting) := by
  unfold readField
  cases hf : findIn setting.name fields with
  | none => rw [numberIn_of_none hf]
  | some d =>
    obtain ⟨n, rfl⟩ := h.each _ d hf
    dsimp only
    rw [readNumber_of_isNumber, numberIn_of_some hf]
    rfl

end Settings

/-! ### Settings by name -/

/-- The number of a general setting. -/
def Defaults.get (defaults : Defaults) : Setting → UInt64
  | .shortTimeout => defaults.shortTimeout
  | .longTimeout => defaults.longTimeout
  | .queueCapacity => defaults.queueCapacity
  | .eventCapacity => defaults.eventCapacity

/-- Defaults are told apart by their settings. -/
theorem Defaults.ext_get {a b : Defaults} (h : ∀ setting, a.get setting = b.get setting) : a = b := by
  have hs := h .shortTimeout
  have hl := h .longTimeout
  have hq := h .queueCapacity
  have he := h .eventCapacity
  cases a
  cases b
  simp only [Defaults.get] at hs hl hq he
  rw [hs, hl, hq, he]

/-- The number of a setting that a device overrides.  No device has an event sink of its own. -/
def Overrides.get (overrides : Overrides) : Setting → Option UInt64
  | .shortTimeout => overrides.shortTimeout
  | .longTimeout => overrides.longTimeout
  | .queueCapacity => overrides.queueCapacity
  | .eventCapacity => none

/-- Overrides are told apart by their settings. -/
theorem Overrides.ext_get {a b : Overrides} (h : ∀ setting, a.get setting = b.get setting) : a = b := by
  have hs := h .shortTimeout
  have hl := h .longTimeout
  have hq := h .queueCapacity
  cases a
  cases b
  simp only [Overrides.get] at hs hl hq
  rw [hs, hl, hq]

/-- The settings that a device can override. -/
def Setting.isOverridable : Setting → Bool
  | .eventCapacity => false
  | _ => true

namespace DeviceTable

/-- Each device occurs once. -/
theorem nodup_devices (table : DeviceTable) : table.devices.Nodup := by
  rw [devices, List.Nodup, List.pairwise_map]
  refine table.ascending.imp fun hlt he => ?_
  rw [he] at hlt
  exact String.lt_irrefl _ hlt

/-- The sections of a table of devices, in any order, are of distinct devices. -/
theorem nodup_of_perm {table : DeviceTable} {sections : List (DeviceId × Overrides)}
    (h : sections.Perm table.entries) : (sections.map (·.1)).Nodup := by
  rw [(h.map (·.1)).nodup_iff]
  exact table.nodup_devices

/-- No section stands twice. -/
theorem nodup_entries (table : DeviceTable) : table.entries.Nodup := by
  refine table.ascending.imp fun hlt he => ?_
  rw [he] at hlt
  exact String.lt_irrefl _ hlt

/-- A device has the overrides of its section. -/
theorem find?_eq_some_iff {table : DeviceTable} {device : DeviceId} {overrides : Overrides} :
    table.find? device = some overrides ↔ (device, overrides) ∈ table.entries := by
  have found : ∀ l : List (DeviceId × Overrides), findIn device l = Directory.findIn device l := by
    intro l
    induction l with
    | nil => rfl
    | cons entry rest ih => rw [findIn, Directory.findIn, ih]
  rw [find?, found, Directory.findIn_eq_some_iff table.nodup_devices]

/-- A table is what its devices override. -/
theorem ext_find? {a b : DeviceTable} (h : ∀ device, a.find? device = b.find? device) : a = b := by
  have hperm : a.entries.Perm b.entries :=
    (List.perm_ext_iff_of_nodup a.nodup_entries b.nodup_entries).mpr fun entry => by
      obtain ⟨device, overrides⟩ := entry
      rw [← find?_eq_some_iff, ← find?_eq_some_iff, h]
  have heq : a.entries = b.entries := by
    refine List.Perm.eq_of_pairwise ?_ a.ascending b.ascending hperm
    intro x y _ _ hxy hyx
    exact absurd (String.lt_trans hxy hyx) (String.lt_irrefl _)
  cases a
  cases b
  simp only at heq
  subst heq
  rfl

end DeviceTable

namespace Settings

open Datum

/-! ### Layers -/

/-- Untyped data that hold nothing but numbers for the general settings and for those of devices. -/
structure IsLayer (fields : Fields) : Prop where
  nodup : (fields.map (·.1)).Nodup
  general : HasTable IsNumber defaultsKey fields
  devices : HasTable (IsTable IsNumber) devicesKey fields

/-- The number that a layer sets for a general setting. -/
def general? (fields : Fields) (setting : Setting) : Option UInt64 :=
  numberIn (tableAt defaultsKey fields) setting

/-- The number that a layer sets for a setting of a device. -/
def override? (fields : Fields) (device : DeviceId) (setting : Setting) : Option UInt64 :=
  numberIn (tableAt device.raw (tableAt devicesKey fields)) setting

/-- A layer has a section for a device, be it an empty one. -/
def Mentions (fields : Fields) (device : DeviceId) : Prop :=
  device.raw ∈ (tableAt devicesKey fields).map (·.1)

variable {olds news fields : Fields}

/-- Where a device is mentioned, its section is a table of numbers. -/
theorem IsLayer.hasSection (h : IsLayer fields) (device : DeviceId) :
    HasTable IsNumber device.raw (tableAt devicesKey fields) := h.devices.each.each device.raw

/-- A layer over a layer is a layer. -/
theorem IsLayer.over (ho : IsLayer olds) (hn : IsLayer news) : IsLayer (overFields olds news) :=
  ⟨nodup_overFields ho.nodup news, ho.general.over stable_isNumber hn.nodup hn.general,
    ho.devices.over (stable_isTable stable_isNumber) hn.nodup hn.devices⟩

/-- The upper layer decides on a default, where it has one. -/
theorem IsLayer.general?_over (ho : IsLayer olds) (hn : IsLayer news) (setting : Setting) :
    general? (overFields olds news) setting = (general? news setting).or (general? olds setting) := by
  unfold general?
  rw [tableAt_overFields hn.nodup ho.general hn.general, numberIn_overFields hn.general.each]

/-- The upper layer decides on an override of a device, where it has one. -/
theorem IsLayer.override?_over (ho : IsLayer olds) (hn : IsLayer news) (device : DeviceId)
    (setting : Setting) :
    override? (overFields olds news) device setting =
      (override? news device setting).or (override? olds device setting) := by
  unfold override?
  rw [tableAt_overFields hn.nodup ho.devices hn.devices,
    tableAt_overFields hn.devices.each.nodup (ho.hasSection device) (hn.hasSection device),
    numberIn_overFields (hn.hasSection device).each]

/-- A device is mentioned if one of the layers mentions it. -/
theorem IsLayer.mentions_over (ho : IsLayer olds) (hn : IsLayer news) (device : DeviceId) :
    Mentions (overFields olds news) device ↔ Mentions olds device ∨ Mentions news device := by
  unfold Mentions
  rw [tableAt_overFields hn.nodup ho.devices hn.devices, mem_keys_overFields]

/-! ### Reading a layer -/

/-- Reading the defaults fills in the built-in values of those that are not given. -/
theorem readDefaults_each (h : Each IsNumber fields) (path : List String) :
    ∃ defaults, readDefaults path (.table fields) = .ok defaults ∧
      ∀ setting, defaults.get setting =
        (numberIn fields setting).getD (Defaults.get {} setting) := by
  refine ⟨readDefaults.defaultsOf (numberIn fields .shortTimeout) (numberIn fields .longTimeout)
    (numberIn fields .queueCapacity) (numberIn fields .eventCapacity), ?_, fun setting => ?_⟩
  · simp only [readDefaults, readField_each h]
    rfl
  · cases setting <;> rfl

/-- What a section overrides. -/
def overridesIn (fields : Fields) : Overrides :=
  ⟨numberIn fields .shortTimeout, numberIn fields .longTimeout, numberIn fields .queueCapacity⟩

/-- Reading a section gives the overrides that stand in it. -/
theorem readOverrides_each (h : Each IsNumber fields) (path : List String) :
    readOverrides path (.table fields) = .ok (overridesIn fields) := by
  simp only [readOverrides, readField_each h]
  rfl

/-- Inserting in order adds one field. -/
theorem perm_insertField (field : String × Datum) (fields : Fields) :
    (insertField field fields).Perm (field :: fields) := by
  induction fields with
  | nil => exact .refl _
  | cons first rest ih =>
    rw [insertField]
    split
    · exact (ih.cons first).trans (.swap field first rest)
    · exact .refl _

/-- Sorting only moves fields. -/
theorem perm_sortFields (fields : Fields) : (sortFields fields).Perm fields := by
  induction fields with
  | nil => exact .refl _
  | cons first rest ih => exact (perm_insertField first (sortFields rest)).trans (ih.cons first)

/-- The sections are put into the table one after the other. -/
theorem foldlM_readOverrides (path : List String) {sections : Fields}
    (hn : (sections.map (·.1)).Nodup) (h : ∀ field ∈ sections, IsTable IsNumber field.2)
    (table : DeviceTable) :
    ∃ result, sections.foldlM
        (fun table field => do
          let overrides ← readOverrides (path ++ [field.1]) field.2
          return table.insert ⟨field.1⟩ overrides) table = Except.ok (ε := SettingsError) result ∧
      ∀ device : DeviceId, result.find? device =
        if device.raw ∈ sections.map (·.1) then some (overridesIn (tableAt device.raw sections))
        else table.find? device := by
  induction sections generalizing table with
  | nil => exact ⟨table, rfl, fun device => by simp⟩
  | cons field rest ih =>
    obtain ⟨key, d⟩ := field
    obtain ⟨⟨inner, rfl, hinner⟩, hrest⟩ := List.forall_mem_cons.mp h
    simp only [List.map_cons, List.nodup_cons] at hn
    obtain ⟨result, hresult, hfind⟩ := ih hn.2 hrest (table.insert ⟨key⟩ (overridesIn inner))
    refine ⟨result, ?_, fun device => ?_⟩
    · rw [List.foldlM_cons, readOverrides_each hinner]
      exact hresult
    · rw [hfind device, DeviceTable.find?_insert]
      -- The names differ, so the section that comes first is not written over by the rest.
      by_cases hk : key = device.raw
      · subst hk
        have hat : tableAt device.raw ((device.raw, Datum.table inner) :: rest) = inner :=
          tableAt_of_findIn (by simp [findIn])
        simp [hn.1, hat]
      · have hat : tableAt device.raw ((key, Datum.table inner) :: rest) = tableAt device.raw rest := by
          unfold tableAt
          rw [findIn, if_neg hk]
        have hne : (⟨key⟩ : DeviceId) ≠ device := by rintro rfl; exact hk rfl
        have hmem : device.raw ∈ ((key, Datum.table inner) :: rest).map (·.1) ↔
            device.raw ∈ rest.map (·.1) := by simp [Ne.symm hk]
        simp only [hmem, hat, if_neg hne]

/-- Reading the sections, in whatever order, gives each device what its own section says. -/
theorem readDevices_each {sections : Fields} (h : Each (IsTable IsNumber) sections)
    (path : List String) :
    ∃ table, readDevices path (.table sections) = .ok table ∧
      ∀ device : DeviceId, table.find? device =
        if device.raw ∈ sections.map (·.1) then some (overridesIn (tableAt device.raw sections))
        else none := by
  have hperm := perm_sortFields sections
  have hkeys := hperm.map (·.1)
  have hn := hkeys.nodup_iff.mpr h.nodup
  have hsame : ∀ k, findIn k (sortFields sections) = findIn k sections := by
    intro k
    ext d
    rw [findIn_eq_some_iff hn, findIn_eq_some_iff h.nodup, hperm.mem_iff]
  obtain ⟨table, htable, hfind⟩ := foldlM_readOverrides path hn
    (fun field hm => h.each field.1 field.2 ((findIn_eq_some_iff h.nodup).mpr (hperm.mem_iff.mp hm)))
    .empty
  refine ⟨table, htable, fun device => ?_⟩
  rw [hfind device, DeviceTable.find?_empty, show tableAt device.raw (sortFields sections) =
    tableAt device.raw sections by unfold tableAt; rw [hsame]]
  simp only [hkeys.mem_iff]

/-- The defaults are read first, so their error is the one that is told. -/
theorem ofFields_eq (fields : Fields) :
    ofFields fields =
      (match findIn defaultsKey fields with
        | none => Except.ok ({} : Defaults)
        | some datum => readDefaults [defaultsKey] datum).bind fun defaults =>
      (match findIn devicesKey fields with
        | none => Except.ok DeviceTable.empty
        | some datum => readDevices [devicesKey] datum).bind fun devices => .ok ⟨defaults, devices⟩ := by
  unfold ofFields
  cases findIn defaultsKey fields <;> cases findIn devicesKey fields <;> rfl

/-- The settings that a layer stands for: what it sets counts, and where it sets nothing the general
settings are the built-in ones.  The devices are those it has a section for. -/
theorem ofFields_layer (h : IsLayer fields) :
    ∃ settings, ofFields fields = .ok settings ∧
      (∀ setting, settings.defaults.get setting =
        (general? fields setting).getD (Defaults.get {} setting)) ∧
      (∀ device, (settings.devices.find? device).isSome = true ↔ Mentions fields device) ∧
      ∀ device overrides, settings.devices.find? device = some overrides →
        ∀ setting, setting.isOverridable = true →
          overrides.get setting = override? fields device setting := by
  -- A section that is missing counts as one that sets nothing.
  have hdefaults : ∃ defaults, (match findIn defaultsKey fields with
        | none => Except.ok {}
        | some datum => readDefaults [defaultsKey] datum) = Except.ok (ε := SettingsError) defaults ∧
      ∀ setting, defaults.get setting = (general? fields setting).getD (Defaults.get {} setting) := by
    cases hf : findIn defaultsKey fields with
    | none =>
      refine ⟨{}, rfl, fun setting => ?_⟩
      rw [general?, tableAt_of_none hf]
      rfl
    | some d =>
      obtain ⟨inner, rfl, hinner⟩ := h.general d hf
      rw [show general? fields = numberIn inner from funext fun _ => by rw [general?, tableAt_of_findIn hf]]
      exact readDefaults_each hinner [defaultsKey]
  have hdevices : ∃ table, (match findIn devicesKey fields with
        | none => Except.ok DeviceTable.empty
        | some datum => readDevices [devicesKey] datum) = Except.ok (ε := SettingsError) table ∧
      ∀ device, table.find? device = if device.raw ∈ (tableAt devicesKey fields).map (·.1)
        then some (overridesIn (tableAt device.raw (tableAt devicesKey fields))) else none := by
    cases hf : findIn devicesKey fields with
    | none =>
      refine ⟨.empty, rfl, fun device => ?_⟩
      rw [tableAt_of_none hf]
      rfl
    | some d =>
      obtain ⟨inner, rfl, hinner⟩ := h.devices d hf
      rw [tableAt_of_findIn hf]
      exact readDevices_each hinner [devicesKey]
  obtain ⟨defaults, hd, hget⟩ := hdefaults
  obtain ⟨devices, ht, hfind⟩ := hdevices
  refine ⟨⟨defaults, devices⟩, ?_, hget, fun device => ?_, fun device overrides ho setting hs => ?_⟩
  · rw [ofFields_eq, hd, ht]
    rfl
  · rw [hfind device]
    unfold Mentions
    split
    · next hm => exact iff_of_true rfl hm
    · next hm => exact iff_of_false (by simp) hm
  · rw [hfind device] at ho
    split at ho
    · cases ho
      cases setting
      · rfl
      · rfl
      · rfl
      · cases hs
    · cases ho

end Settings

end P4Control
