import Mathlib
import P4Control.Proofs.Documents

namespace P4Control

/-!
# Saving settings and loading them again

Settings can be saved if their numbers are not too large, and then loading gives them back, whatever the
devices are called and whichever order their sections come in.

* `Environment.TakesPart` — the variables that count.
* `Settings.ofLayers_written` — the settings that have been written down.
* `Settings.save_load` — saved settings are loaded again.
-/

/-! ### The environment -/

namespace Environment

/-- The name of a variable begins in the way of those that count, in whatever case. -/
def TakesPart (name : String) : Prop :=
  nameStart <+: (trim name.toList).map Char.toLower

instance (name : String) : Decidable (TakesPart name) := inferInstanceAs (Decidable (_ <+: _))

/-- A variable that does not take part leads nowhere. -/
theorem path?_eq_none {name : String} (h : ¬ TakesPart name) : path? name = none := by
  unfold path?
  rw [if_neg]
  intro htake
  exact h (List.prefix_iff_eq_take.mpr htake.symm)

/-- Variables that do not count set nothing. -/
theorem fields_eq_nil {environment : Environment} (h : ∀ v ∈ environment, ¬ TakesPart v.1) :
    environment.fields = [] := by
  unfold fields
  induction environment with
  | nil => rfl
  | cons v rest ih =>
    obtain ⟨hv, hrest⟩ := List.forall_mem_cons.mp h
    rw [List.foldl_cons]
    simp only [path?_eq_none hv]
    exact ih hrest

end Environment

/-- A text can be made out of its bytes again. -/
theorem fromUTF8?_toUTF8 (text : String) : String.fromUTF8? text.toUTF8 = some text := by
  unfold String.fromUTF8?
  rw [String.toUTF8_eq_toByteArray, dif_pos text.isValidUTF8]
  rfl

namespace Settings

open Datum Directory

/-! ### Written settings as a layer -/

/-- Lines of numbers with distinct names make a table of numbers. -/
theorem each_fieldsOf {numbers : List (Setting × UInt64)}
    (hn : ((fieldsOf numbers).map (·.1)).Nodup) : Each IsNumber (fieldsOf numbers) := by
  refine ⟨hn, fun k d h => ?_⟩
  obtain ⟨number, -, hd⟩ := List.mem_map.mp (mem_of_findIn h)
  cases hd
  exact ⟨number.2, rfl⟩

/-- The defaults make a table of numbers. -/
theorem each_defaultsFields (defaults : Defaults) : Each IsNumber (defaultsFields defaults) := by
  rw [← fieldsOf_defaults]
  exact each_fieldsOf (nodup_name_defaults defaults)

/-- A section makes a table of numbers. -/
theorem each_overridesFields (overrides : Overrides) : Each IsNumber (overridesFields overrides) := by
  have hn := nodup_name_overrides overrides
  rw [← fieldsOf_overrides] at hn ⊢
  exact each_fieldsOf hn

/-- Each default is found under its name. -/
theorem numberIn_defaultsFields (defaults : Defaults) (setting : Setting) :
    numberIn (defaultsFields defaults) setting = some (defaults.get setting) := by
  refine numberIn_of_some ((findIn_eq_some_iff (nodup_name_defaults defaults)).mpr ?_)
  cases setting <;> simp [defaultsFields, numberField, Defaults.get]

/-- Each override is found under its name, if it is given. -/
theorem numberIn_overridesFields (overrides : Overrides) (setting : Setting) :
    numberIn (overridesFields overrides) setting = overrides.get setting := by
  cases overrides with
  | mk short long queue =>
    cases setting <;> cases short <;> cases long <;> cases queue <;>
      simp [overridesFields, numberIn, findIn, numberField, Setting.name, Overrides.get]

/-- Settings as data, with the sections of the devices in the given order. -/
def fieldsWith (defaults : Defaults) (sections : List (DeviceId × Overrides)) : Fields :=
  [(defaultsKey, .table (defaultsFields defaults)), (devicesKey, .table (sections.map sectionField))]

variable (defaults : Defaults) {sections : List (DeviceId × Overrides)}

/-- Sections of distinct devices have distinct names. -/
theorem nodup_sections (hn : (sections.map (·.1)).Nodup) :
    ((sections.map sectionField).map (·.1)).Nodup := by
  have hraw : ((sections.map sectionField).map (·.1)) = (sections.map (·.1)).map DeviceId.raw := by
    simp [sectionField]
  rw [hraw, List.Nodup, List.pairwise_map]
  exact hn.imp fun hne he => hne (congrArg DeviceId.mk he)

/-- Settings as data are a layer. -/
theorem isLayer_fieldsWith (hn : (sections.map (·.1)).Nodup) : IsLayer (fieldsWith defaults sections) := by
  refine ⟨by simp [fieldsWith, defaultsKey, devicesKey], fun d h => ?_, fun d h => ?_⟩
  · cases h
    exact ⟨_, rfl, each_defaultsFields defaults⟩
  · cases h
    refine ⟨_, rfl, nodup_sections hn, fun k d hd => ?_⟩
    obtain ⟨entry, -, he⟩ := List.mem_map.mp (mem_of_findIn hd)
    cases he
    exact ⟨_, rfl, each_overridesFields entry.2⟩

/-- The layer that is written has all defaults. -/
theorem general?_fieldsWith (setting : Setting) :
    general? (fieldsWith defaults sections) setting = some (defaults.get setting) :=
  numberIn_defaultsFields defaults setting

/-- It mentions the devices that have sections. -/
theorem mentions_fieldsWith {device : DeviceId} :
    Mentions (fieldsWith defaults sections) device ↔ device ∈ sections.map (·.1) := by
  have hat : tableAt devicesKey (fieldsWith defaults sections) = sections.map sectionField :=
    tableAt_of_findIn rfl
  unfold Mentions
  rw [hat, List.map_map]
  simp only [List.mem_map, Function.comp_def, sectionField]
  constructor
  · rintro ⟨entry, hm, he⟩
    exact ⟨entry, hm, congrArg DeviceId.mk he⟩
  · rintro ⟨entry, hm, rfl⟩
    exact ⟨entry, hm, rfl⟩

/-- It has the overrides of each section. -/
theorem override?_fieldsWith (hn : (sections.map (·.1)).Nodup) {device : DeviceId}
    {overrides : Overrides} (hm : (device, overrides) ∈ sections) (setting : Setting) :
    override? (fieldsWith defaults sections) device setting = overrides.get setting := by
  have hat : tableAt devicesKey (fieldsWith defaults sections) = sections.map sectionField :=
    tableAt_of_findIn rfl
  have hsection : tableAt device.raw (sections.map sectionField) = overridesFields overrides :=
    tableAt_of_findIn ((findIn_eq_some_iff (nodup_sections hn)).mpr
      (List.mem_map_of_mem hm))
  unfold override?
  rw [hat, hsection, numberIn_overridesFields]

/-- Settings that have been written down are read as what they are, whichever order the sections come in. -/
theorem ofLayers_written (settings : Settings) (hp : sections.Perm settings.devices.entries) :
    ofLayers (fieldsWith settings.defaults sections) [] = .ok settings := by
  have hn := DeviceTable.nodup_of_perm hp
  have hbuilt : IsLayer ({} : Settings).toFields := isLayer_fieldsWith {} List.nodup_nil
  have hfile := isLayer_fieldsWith settings.defaults hn
  obtain ⟨loaded, hloaded, hget, hmentions, hfind⟩ := ofFields_layer (hbuilt.over hfile)
  have hmentioned : ∀ device, (loaded.devices.find? device).isSome = true ↔
      device ∈ sections.map (·.1) := by
    intro device
    rw [hmentions, hbuilt.mentions_over hfile, mentions_fieldsWith]
    exact or_iff_right List.not_mem_nil
  -- Both parts of the settings are determined by what they answer, setting by setting.
  have hdefaults : loaded.defaults = settings.defaults := Defaults.ext_get fun setting => by
    rw [hget, hbuilt.general?_over hfile, general?_fieldsWith]
    rfl
  have hdevices : loaded.devices = settings.devices := DeviceTable.ext_find? fun device => by
    cases hl : loaded.devices.find? device with
    | none =>
      have hm : device ∉ settings.devices.devices := by
        rw [DeviceTable.devices, ← (hp.map (·.1)).mem_iff, ← hmentioned, hl]
        simp
      exact (DeviceTable.find?_eq_none_iff.mpr hm).symm
    | some overrides =>
      obtain ⟨⟨_, written⟩, hm, rfl⟩ := List.mem_map.mp ((hmentioned device).mp (by rw [hl]; rfl))
      have hlisted := hp.mem_iff.mp hm
      rw [DeviceTable.find?_eq_some_iff.mpr hlisted]
      refine congrArg some (Overrides.ext_get fun setting => ?_)
      by_cases hs : setting.isOverridable = true
      · rw [hfind _ overrides hl setting hs, hbuilt.override?_over hfile,
          override?_fieldsWith settings.defaults hn hm]
        cases written.get setting <;> rfl
      · cases setting
        all_goals first | rfl | exact absurd rfl hs
  have hsame : loaded = settings := by
    cases loaded
    cases settings
    simp only at hdefaults hdevices
    rw [hdefaults, hdevices]
  unfold ofLayers
  rw [overFields, hloaded, hsame]

/-! ### Checks -/

/-- A chain of checks fails where the first part does, or else the rest. -/
theorem bind_eq_error {ε α β : Type} {x : Except ε α} {f : α → Except ε β} {e : ε} :
    x >>= f = .error e ↔ x = .error e ∨ ∃ a, x = .ok a ∧ f a = .error e := by
  cases x with
  | error e' =>
    constructor
    · intro h
      cases h
      exact .inl rfl
    · rintro (h | ⟨a, h, -⟩)
      · cases h
        rfl
      · cases h
  | ok a =>
    constructor
    · intro h
      exact .inr ⟨a, rfl, h⟩
    · rintro (h | ⟨a', h, hf⟩)
      · cases h
      · cases h
        exact hf

/-- The check of a number fails only on zero. -/
theorem zero_of_positive {setting : Setting} {device : Option DeviceId} {n : UInt64} {e : SettingsError}
    (h : positive setting device n = .error e) : ∃ setting device, e = .zero setting device := by
  unfold positive at h
  split at h
  · cases h
    exact ⟨setting, device, rfl⟩
  · cases h

/-- A client cannot be configured only because a number is zero. -/
theorem zero_of_clientConfig {settings : Settings} {device : DeviceId} {e : SettingsError}
    (h : settings.clientConfig device = .error e) : ∃ setting device, e = .zero setting device := by
  unfold clientConfig at h
  rcases bind_eq_error.mp h with h | ⟨_, _, h⟩
  · exact zero_of_positive h
  rcases bind_eq_error.mp h with h | ⟨_, _, h⟩
  · exact zero_of_positive h
  rcases bind_eq_error.mp h with h | ⟨_, _, h⟩
  · exact zero_of_positive h
  · cases h

/-- The devices are checked one by one, up to the first that fails. -/
theorem zero_of_devices {settings : Settings} {devices : List DeviceId} {e : SettingsError}
    (h : (devices.forM fun device => do let _ ← settings.clientConfig device) = .error e) :
    ∃ setting device, e = .zero setting device := by
  induction devices with
  | nil => cases h
  | cons device rest ih =>
    rw [List.forM_eq_forM, List.forM_cons] at h
    rcases bind_eq_error.mp h with h | ⟨_, _, h⟩
    · rcases bind_eq_error.mp h with h | ⟨_, _, h⟩
      · exact zero_of_clientConfig h
      · cases h
    · exact ih h

/-- A check that fails has found a number that is zero. -/
theorem zero_of_validate {settings : Settings} {e : SettingsError} (h : settings.validate = .error e) :
    ∃ setting device, e = .zero setting device := by
  unfold validate at h
  rcases bind_eq_error.mp h with h | ⟨_, _, h⟩
  · exact zero_of_positive h
  rcases bind_eq_error.mp h with h | ⟨_, _, h⟩
  · exact zero_of_clientConfig h
  · exact zero_of_devices h

/-- Settings that do not pass the check are refused for a zero. -/
theorem map_validate_of_ne {settings : Settings} (hv : settings.validate ≠ .ok ()) :
    ∃ setting device, (settings.validate.map fun _ => settings) = .error (.zero setting device) := by
  cases he : settings.validate with
  | ok u => exact absurd he hv
  | error e =>
    obtain ⟨setting, device, rfl⟩ := zero_of_validate he
    exact ⟨setting, device, rfl⟩

/-! ### The theorem -/

/-- What has been written down is loaded as it is, if it passes the check. -/
theorem load_writtenIn {settings : Settings} {text : String}
    (hp : sections.Perm settings.devices.entries)
    (hw : writtenIn? settings.defaults sections = some text) {environment : Environment}
    (he : ∀ v ∈ environment, ¬ Environment.TakesPart v.1) :
    load (.file text.toUTF8) environment = settings.validate.map fun _ => settings := by
  have hn := DeviceTable.nodup_of_perm hp
  have hfile : fileFields (.file text.toUTF8) = .ok (fieldsWith settings.defaults sections) := by
    unfold fileFields
    simp only [fromUTF8?_toUTF8, Option.bind_some, parse_writtenIn hw hn]
    rfl
  simp only [load, hfile, Environment.fields_eq_nil he, ofLayers_written settings hp, bind, Except.bind]
  cases settings.validate <;> rfl

/-- A number fits if it is a signed one of 64 bits. -/
theorem fits_iff (n : UInt64) : Fits n ↔ n.toNat < 2 ^ 63 := by
  unfold Fits Toml.integerBound
  omega

/-- Settings can be written down if all their numbers fit, and it does not matter in which order. -/
theorem writtenIn?_isSome {settings : Settings} (hp : sections.Perm settings.devices.entries) :
    (∃ doc, writtenIn? settings.defaults sections = some doc) ↔
      ∀ n ∈ settings.numbers, n.toNat < 2 ^ 63 := by
  simp only [writtenIn?_eq_some, numbers, List.mem_append, List.mem_map, List.mem_flatMap, ← fits_iff]
  constructor
  · rintro ⟨_, hd, hs, -⟩ n (⟨number, hm, rfl⟩ | ⟨entry, he, number, hm, rfl⟩)
    · exact hd number hm
    · exact hs entry (hp.mem_iff.mpr he) number hm
  · intro h
    exact ⟨_, fun number hm => h _ (.inl ⟨number, hm, rfl⟩),
      fun entry he number hm => h _ (.inr ⟨entry, hp.mem_iff.mp he, number, hm, rfl⟩), rfl⟩

/-- A place where a file can stand. -/
def IsWritable (place : Place) : Prop := place = .vacant ∨ ∃ content, place = .file content

/-- Settings that can be written are saved where a file can be. -/
theorem save_of_some {settings : Settings} {place : Place} (hplace : IsWritable place) {doc : String}
    (hw : settings.written? = some doc) : save settings place = (.file doc.toUTF8, .ok ()) := by
  unfold save
  rcases hplace with rfl | ⟨content, rfl⟩ <;> rw [hw]

/-- Settings that cannot be written are not saved, and what is there stays. -/
theorem save_of_none {settings : Settings} {place : Place} (hplace : IsWritable place)
    (hw : settings.written? = none) : save settings place = (place, .error .unwritable) := by
  unfold save
  rcases hplace with rfl | ⟨content, rfl⟩ <;> rw [hw]

/-- Settings can be saved, in place of a file or where there is none, exactly if all their numbers are below
2 to the power of 63.  If one is not, nothing is written.  What has been saved is loaded as it is if it passes
the check, and else the zero that the check has found is reported; and so it would be with the sections of
the devices in any other order. -/
theorem save_load (settings : Settings) (place : Place) (hplace : IsWritable place)
    (environment : Environment) (henv : ∀ v ∈ environment, ¬ Environment.TakesPart v.1) :
    ((save settings place).2 = .ok () ↔ ∀ n ∈ settings.numbers, n.toNat < 2 ^ 63) ∧
    ((save settings place).2 ≠ .ok () → save settings place = (place, .error .unwritable)) ∧
    ((save settings place).2 = .ok () →
      (settings.validate = .ok () → load (save settings place).1 environment = .ok settings) ∧
      (settings.validate ≠ .ok () → ∃ setting device,
        load (save settings place).1 environment = .error (.zero setting device))) ∧
    ∀ sections doc, sections.Perm settings.devices.entries →
      writtenIn? settings.defaults sections = some doc →
        load (.file doc.toUTF8) environment = load (save settings place).1 environment := by
  have hwritable : (∃ doc, settings.written? = some doc) ↔ ∀ n ∈ settings.numbers, n.toNat < 2 ^ 63 :=
    writtenIn?_isSome (.refl _)
  cases hw : settings.written? with
  | none =>
    -- some number does not fit, so nothing is written
    have hno : ¬ ∀ n ∈ settings.numbers, n.toNat < 2 ^ 63 := by
      rw [← hwritable, hw]
      simp
    rw [save_of_none hplace hw]
    refine ⟨iff_of_false (by simp) hno, fun _ => rfl, fun h => (by cases h), fun sections doc hp hdoc => ?_⟩
    exact absurd ((writtenIn?_isSome hp).mp ⟨doc, hdoc⟩) hno
  | some doc =>
    -- what is written reads back as the settings, up to their check
    have hload : load (.file doc.toUTF8) environment = settings.validate.map fun _ => settings :=
      load_writtenIn (.refl _) hw henv
    rw [save_of_some hplace hw]
    refine ⟨iff_of_true rfl (hwritable.mp ⟨doc, hw⟩), fun h => absurd rfl h,
      fun _ => ⟨fun hv => ?_, fun hv => ?_⟩,
      fun sections doc' hp hdoc => (load_writtenIn hp hdoc henv).trans hload.symm⟩
    · rw [hload, hv]
      rfl
    · rw [hload]
      exact map_validate_of_ne hv

/-- Devices with awkward names. -/
def awkward : Settings where
  devices := .ofList [(⟨""⟩, {}), (⟨"rack [7].\"a\"\n"⟩, { queueCapacity := some 9223372036854775807 }),
    (⟨"it's"⟩, { shortTimeout := some 3, longTimeout := some 40 })]

theorem save_load_awkward :
    IsWritable .vacant ∧ (∀ v ∈ [("PATH", "/bin")], ¬ Environment.TakesPart v.1) ∧
      (save awkward .vacant).2 = .ok () ∧ awkward.validate = .ok () ∧
      load (save awkward .vacant).1 [("PATH", "/bin")] = .ok awkward := by
  have hplace : IsWritable .vacant := .inl rfl
  have henv : ∀ v ∈ [("PATH", "/bin")], ¬ Environment.TakesPart v.1 := by decide
  have htried : awkward.numbers.all (fun n => decide (n.toNat < 2 ^ 63)) = true := by decide
  have hfits : ∀ n ∈ awkward.numbers, n.toNat < 2 ^ 63 := fun n hn =>
    of_decide_eq_true (List.all_eq_true.mp htried n hn)
  have hvalid : awkward.validate = .ok () := by cbv
  obtain ⟨hsaves, -, hloads, -⟩ := save_load awkward .vacant hplace _ henv
  exact ⟨hplace, henv, hsaves.mpr hfits, hvalid, (hloads (hsaves.mpr hfits)).1 hvalid⟩

end Settings

end P4Control
