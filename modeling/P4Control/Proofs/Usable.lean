import P4Control.Settings.File

namespace P4Control

/-!
# What a check of the settings vouches for

A check of the settings tries out finitely many devices: those that override something, and one with
the empty id that stands for all the others.  It vouches for every device, as long as the one that
stands for the others overrides nothing itself.

* `Settings.Usable` — a device gets its client settings.
* `Settings.usable_of_unlisted` — devices that override nothing all fare alike.
* `Settings.validate_iff` — what is tried out.
* `Settings.validate_vouches` — what the check vouches for, and so what can be loaded.
* `Settings.validate_overlooks` — a device that is overlooked.
-/

/-! ### Chains of checks -/

/-- A check goes through exactly if the first part does, and then the rest. -/
theorem Except.bind_eq_ok {ε α β : Type} {x : Except ε α} {f : α → Except ε β} {b : β} :
    x >>= f = .ok b ↔ ∃ a, x = .ok a ∧ f a = .ok b := by
  cases x with
  | error e =>
    constructor
    · intro h; cases h
    · rintro ⟨a, h, -⟩; cases h
  | ok a =>
    constructor
    · intro h; exact ⟨a, rfl, h⟩
    · rintro ⟨a', h, hf⟩
      cases h
      exact hf

/-- Trying out all elements goes through exactly if each one does. -/
theorem Except.forM_eq_ok {ε α : Type} {check : α → Except ε Unit} {l : List α} :
    l.forM check = .ok () ↔ ∀ a ∈ l, check a = .ok () := by
  induction l with
  | nil => exact ⟨fun _ a ha => absurd ha (by simp), fun _ => rfl⟩
  | cons a rest ih =>
    rw [List.forM_eq_forM, List.forM_cons, Except.bind_eq_ok]
    constructor
    · rintro ⟨⟨⟩, ha, hrest⟩ b hb
      rcases List.mem_cons.mp hb with rfl | hb
      · exact ha
      · exact ih.mp hrest b hb
    · intro h
      exact ⟨(), h a (by simp), ih.mpr fun b hb => h b (by simp [hb])⟩

namespace DeviceTable

/-- A device has an entry exactly if it is among the devices of the table. -/
theorem find?_eq_none_iff {table : DeviceTable} {device : DeviceId} :
    table.find? device = none ↔ device ∉ table.devices := by
  unfold find? devices
  induction table.entries with
  | nil => simp [findIn]
  | cons entry rest ih =>
    by_cases h : entry.1 = device
    · simp [findIn, h]
    · simp [findIn, h, Ne.symm h, ih]

end DeviceTable

namespace Settings

/-! ### What is tried out -/

/-- What the device overrides: nothing, if it is not listed. -/
def overridesOf (settings : Settings) (device : DeviceId) : Overrides :=
  (settings.devices.find? device).getD {}

/-- The devices that are not listed override nothing. -/
theorem overridesOf_of_unlisted {settings : Settings} {device : DeviceId}
    (h : device ∉ settings.devices.devices) : settings.overridesOf device = {} := by
  unfold overridesOf
  rw [DeviceTable.find?_eq_none_iff.mpr h]
  rfl

/-- The device gets its client settings. -/
def Usable (settings : Settings) (device : DeviceId) : Prop :=
  ∃ config, settings.clientConfig device = .ok config

/-- A number is accepted exactly if it is not zero. -/
theorem positive_eq_ok {setting : Setting} {device : Option DeviceId} {n m : UInt64} :
    positive setting device n = .ok m ↔ n ≠ 0 ∧ m = n := by
  unfold positive
  by_cases h : n = 0
  · simp [h]
  · simp [h, eq_comm]

/-- A device gets its client settings exactly if none of the numbers that apply to it is zero. -/
theorem usable_iff {settings : Settings} {device : DeviceId} :
    settings.Usable device ↔
      (settings.overridesOf device).shortTimeout.getD settings.defaults.shortTimeout ≠ 0 ∧
      (settings.overridesOf device).longTimeout.getD settings.defaults.longTimeout ≠ 0 ∧
      (settings.overridesOf device).queueCapacity.getD settings.defaults.queueCapacity ≠ 0 := by
  unfold Usable clientConfig
  simp only [Except.bind_eq_ok, positive_eq_ok]
  constructor
  · rintro ⟨-, short, ⟨hs, -⟩, long, ⟨hl, -⟩, queue, ⟨hq, -⟩, -⟩
    exact ⟨hs, hl, hq⟩
  · rintro ⟨hs, hl, hq⟩
    exact ⟨_, _, ⟨hs, rfl⟩, _, ⟨hl, rfl⟩, _, ⟨hq, rfl⟩, rfl⟩

/-- The devices that override nothing all fare alike. -/
theorem usable_of_unlisted {settings : Settings} {device other : DeviceId}
    (hd : device ∉ settings.devices.devices) (ho : other ∉ settings.devices.devices)
    (h : settings.Usable device) : settings.Usable other := by
  rw [usable_iff, overridesOf_of_unlisted hd] at h
  rw [usable_iff, overridesOf_of_unlisted ho]
  exact h

/-- The check tries out the event sink, the device with the empty id and every device that overrides
something. -/
theorem validate_iff {settings : Settings} :
    settings.validate = .ok () ↔
      (∃ n, settings.eventCapacity = .ok n) ∧ settings.Usable ⟨""⟩ ∧
        ∀ device ∈ settings.devices.devices, settings.Usable device := by
  have tried : ∀ device, (do let _ ← settings.clientConfig device) = Except.ok (ε := SettingsError) ()
      ↔ settings.Usable device := by
    intro device
    rw [Except.bind_eq_ok]
    exact ⟨fun ⟨config, h, _⟩ => ⟨config, h⟩, fun ⟨config, h⟩ => ⟨config, h, rfl⟩⟩
  unfold validate
  simp only [Except.bind_eq_ok]
  constructor
  · rintro ⟨n, hn, config, hc, hd⟩
    exact ⟨⟨n, hn⟩, ⟨config, hc⟩, fun device hm =>
      (tried device).mp (Except.forM_eq_ok.mp hd device hm)⟩
  · rintro ⟨⟨n, hn⟩, ⟨config, hc⟩, hd⟩
    exact ⟨n, hn, config, hc, Except.forM_eq_ok.mpr fun device hm => (tried device).mpr (hd device hm)⟩

/-- Whatever has been loaded has been checked. -/
theorem validate_of_load {place : Place} {environment : Environment} {settings : Settings}
    (h : load place environment = .ok settings) : settings.validate = .ok () := by
  unfold load at h
  simp only [Except.bind_eq_ok] at h
  obtain ⟨-, -, loaded, -, ⟨⟩, hv, hl⟩ := h
  cases hl
  exact hv

/-! ### What the check vouches for -/

/-- The check goes through exactly if the event sink and every device can be served, where devices
without a section of their own count only as long as there is no section for the empty id.  So
whatever has been loaded serves all those devices. -/
theorem validate_vouches (settings : Settings) :
    (settings.validate = .ok () ↔
      (∃ n, settings.eventCapacity = .ok n) ∧
        ∀ device, (⟨""⟩ ∈ settings.devices.devices → device ∈ settings.devices.devices) →
          ∃ config, settings.clientConfig device = .ok config) ∧
    ∀ place environment, load place environment = .ok settings →
      ∀ device, (⟨""⟩ ∈ settings.devices.devices → device ∈ settings.devices.devices) →
        ∃ config, settings.clientConfig device = .ok config := by
  have vouched : settings.validate = .ok () → ∀ device,
      (⟨""⟩ ∈ settings.devices.devices → device ∈ settings.devices.devices) →
        settings.Usable device := by
    intro h device hd
    obtain ⟨-, hempty, hlisted⟩ := validate_iff.mp h
    by_cases hm : device ∈ settings.devices.devices
    · exact hlisted device hm
    · -- the device with the empty id stands for it, and overrides nothing either
      exact usable_of_unlisted (fun he => hm (hd he)) hm hempty
  refine ⟨⟨fun h => ⟨(validate_iff.mp h).1, vouched h⟩, fun h => ?_⟩,
    fun place environment hl => vouched (validate_of_load hl)⟩
  obtain ⟨hn, hall⟩ := h
  exact validate_iff.mpr ⟨hn, hall _ id, fun device hm => hall device fun _ => hm⟩

/-- Where nothing is written down, every device gets its client settings. -/
theorem validate_vouches_vacant :
    load .vacant [] = .ok {} ∧
      ∀ device, ∃ config, Settings.clientConfig {} device = .ok config := by
  refine ⟨rfl, fun device => ?_⟩
  refine (validate_vouches {}).2 .vacant [] rfl device fun h => ?_
  exact absurd h (by decide)

/-- A file in which the empty id has a section that hides a zero among the general settings. -/
def veil : String :=
  "[defaults]\nshort_timeout_secs = 0\n[devices.\"\"]\nshort_timeout_secs = 5\n"

/-- What that file holds. -/
def veiled : Settings where
  defaults := { shortTimeout := 0 }
  devices := .ofList [(⟨""⟩, { shortTimeout := some 5 })]

/-- The file can be loaded and its check goes through, but a device without a section does not get
its client settings. -/
theorem validate_overlooks :
    (load (.file veil.toUTF8) []).toOption = some veiled ∧
      veiled.validate = .ok () ∧ veiled.eventCapacity = .ok 1024 ∧
      veiled.clientConfig ⟨"leaf"⟩ = .error (.zero .shortTimeout (some ⟨"leaf"⟩)) := by
  refine ⟨by decide +kernel, ?_⟩
  exact ⟨rfl, rfl, rfl⟩

end Settings

end P4Control
