import P4Control.Proofs.Holders
import P4Control.Proofs.Outcomes

namespace P4Control

/-!
# What is filed in the registry

The registry holds the clients that have been created through it and not been removed since, each under
the device of its key.

* `Scenario.filing`, `Scenario.filed` — who is on file for a device, told from what users do.
* `registry_make` — what a move does to the registry.
* `registered_after` — the registry holds who is on file.
* `Scenario.Enrolled` — each device has one entry, and each entry is that of a client of the device.
* `Scenario.Struck` — a client that is off the registry for good.
-/

/-! ### The keys of a directory -/

namespace Directory

variable {κ α : Type} [DecidableEq κ] {d : Directory κ α}

/-- Erasing repeats no key. -/
theorem nodup_keys_erase (h : d.keys.Nodup) (k : κ) : (d.erase k).keys.Nodup :=
  h.sublist (List.filter_sublist.map _)

/-- A key is found iff it is there. -/
theorem isSome_find?_iff {k : κ} : (d.find? k).isSome = true ↔ k ∈ d.keys := by
  rw [← Option.ne_none_iff_isSome, ne_eq, find?_eq_none_iff, Classical.not_not]

end Directory

namespace System

variable {s t : System} {id : ClientId} {device : DeviceId}

/-! ### The list of devices -/

/-- Inserting in order adds one device. -/
theorem perm_insertDevice (d : DeviceId) (l : List DeviceId) : (insertDevice d l).Perm (d :: l) := by
  induction l with
  | nil => exact .refl _
  | cons e rest ih =>
    unfold insertDevice
    split
    · exact .refl _
    · exact (ih.cons e).trans (.swap d e rest)

/-- The devices listed are those with an entry. -/
theorem perm_deviceIds (s : System) : s.deviceIds.Perm s.registry.keys := by
  unfold deviceIds
  induction s.registry.keys with
  | nil => exact .refl _
  | cons d rest ih => exact (perm_insertDevice d _).trans (ih.cons d)

/-- The devices that are listed are those with a client on file. -/
theorem mem_deviceIds : device ∈ s.deviceIds ↔ (s.registered? device).isSome = true :=
  s.perm_deviceIds.mem_iff.trans Directory.isSome_find?_iff.symm

/-! ### Clients on file -/

/-- The registry holds its clients. -/
theorem isHeld_of_registered (h : s.registered? device = some id) : s.isHeld id = true := by
  have hm := List.contains_iff_mem.mpr (Directory.mem_values_of_find? h)
  rw [isHeld, hm, Bool.or_true, Bool.true_or]

/-- A handle leads to the client that it was given. -/
theorem find?_setHandle (s : System) (name : String) (id : ClientId) :
    (s.setHandle name id).handles.find? name = some id := by
  rw [(setHandle_parts s name id).2, Directory.find?_insert, if_pos rfl]

end System

namespace Scenario

variable {x : Scenario} {id : ClientId} {device : DeviceId} {key : ClientKey}

/-! ### What comes of a creation -/

/-- The client of the device is there: it is handed out under its own key, and refused under any other. -/
theorem act_create_registered (handle : String) (change : Option ConfigChange)
    (h : x.system.registered? key.device = some id) :
    x.act (.create key handle change) =
      if (x.system.client id).key = key then (x.withSystem (x.system.setHandle handle id), .key (some key))
      else (x, .error (.clientExists key.device (x.system.client id).key)) := by
  simp only [act, System.createClient, h]
  by_cases hk : (x.system.client id).key = key
  · rw [if_pos hk, if_pos hk]
    dsimp only
    rw [hk]
  · rw [if_neg hk, if_neg hk]
    rfl

/-- There is no client of the device, and none can be made without a channel. -/
theorem act_create_of_no_channel (handle : String) (change : Option ConfigChange)
    (h : x.system.registered? key.device = none)
    (hc : x.system.channels.find? key.device = none) :
    x.act (.create key handle change) = (x, .error (.channelNotFound key.device)) := by
  simp only [act, System.createClient, h, hc]
  rfl

/-- The control plane with a new client on file. -/
def enlist (x : Scenario) (key : ClientKey) (switch : SwitchName) (config : ClientConfig) :
    System × ClientId :=
  let made := x.system.newClient key switch config
  ({ made.1 with registry := x.system.registry.insert key.device made.2 }, made.2)

/-- A client is made for the device. -/
theorem act_create_fresh (handle : String) (change : Option ConfigChange) {switch : SwitchName}
    (h : x.system.registered? key.device = none)
    (hc : x.system.channels.find? key.device = some switch) :
    x.act (.create key handle change) =
      (x.withSystem ((x.enlist key switch (x.settings change)).1.setHandle handle
        (x.enlist key switch (x.settings change)).2), .key (some key)) := by
  have hkey : ((x.enlist key switch (x.settings change)).1.client
      (x.enlist key switch (x.settings change)).2).key = key := by
    show ((x.system.newClient key switch (x.settings change)).1.client
      (x.system.newClient key switch (x.settings change)).2).key = key
    rw [System.client_newClient, if_pos rfl]
  have hcreate : x.system.createClient key (x.settings change) =
      ((x.enlist key switch (x.settings change)).1, .ok (x.enlist key switch (x.settings change)).2) := by
    unfold System.createClient
    rw [h, hc]
    rfl
  simp only [act, hcreate]
  rw [hkey]

/-! ### What a move does to the registry -/

/-- What a move does to the registry. -/
inductive Files (x : Scenario) : Move → Prop
  /-- A client is created for a device that has none. -/
  | joins (key : ClientKey) (handle : String) (change : Option ConfigChange) (id : ClientId)
      (hn : x.system.registered? key.device = none) (hk : ¬ x.system.Knows id)
      (hd : id.device = key.device)
      (hr : (x.act (.create key handle change)).2 = .key (some key))
      (hh : (x.make (.act (.create key handle change))).system.handles.find? handle = some id)
      (he : (x.make (.act (.create key handle change))).system.registry =
        x.system.registry.insert key.device id) : Files x (.act (.create key handle change))
  /-- The client of a device is handed out. -/
  | joined (key : ClientKey) (handle : String) (change : Option ConfigChange) (id : ClientId)
      (hi : x.system.registered? key.device = some id)
      (hr : (x.act (.create key handle change)).2 = .key (some key))
      (hh : (x.make (.act (.create key handle change))).system.handles.find? handle = some id)
      (he : (x.make (.act (.create key handle change))).system.registry = x.system.registry) :
      Files x (.act (.create key handle change))
  /-- No client is handed out. -/
  | refused (key : ClientKey) (handle : String) (change : Option ConfigChange) (error : ClientError)
      (hr : x.act (.create key handle change) = (x, .error error)) :
      Files x (.act (.create key handle change))
  /-- The client of a device is removed. -/
  | leaves (device : DeviceId) (id : ClientId) (hi : x.system.registered? device = some id)
      (he : (x.make (.act (.remove device))).system.registry = x.system.registry.erase device) :
      Files x (.act (.remove device))
  /-- There is no client to be removed. -/
  | absent (device : DeviceId) (hi : x.system.registered? device = none)
      (he : x.make (.act (.remove device)) = x) : Files x (.act (.remove device))
  /-- Nothing is created or removed. -/
  | stays (m : Move) (hc : ∀ key handle change, m ≠ .act (.create key handle change))
      (hr : ∀ device, m ≠ .act (.remove device))
      (he : (x.make m).system.registry = x.system.registry) : Files x m

/-- Creating a client files a fresh one, unless the device has one on file or no channel. -/
theorem files_create (hv : x.Valid) (key : ClientKey) (handle : String)
    (change : Option ConfigChange) : x.Files (.act (.create key handle change)) := by
  cases hr : x.system.registered? key.device with
  | some id =>
    have hact := act_create_registered handle change hr
    -- the client on file is handed out under its own key only
    by_cases hk : (x.system.client id).key = key
    · rw [if_pos hk] at hact
      refine .joined key handle change id hr (by rw [hact]) ?_ ?_
      · rw [make, hact]
        exact System.find?_setHandle x.system handle id
      · rw [make, hact]
        exact (System.setHandle_parts x.system handle id).1
    · rw [if_neg hk] at hact
      exact .refused key handle change _ hact
  | none =>
    cases hc : x.system.channels.find? key.device with
    | none => exact .refused key handle change _ (act_create_of_no_channel handle change hr hc)
    | some switch =>
      have hact := act_create_fresh handle change hr hc
      refine .joins key handle change _ hr
        (hv.system.not_knows_newClient key switch (x.settings change)) rfl (by rw [hact]) ?_ ?_
      · rw [make, hact]
        exact System.find?_setHandle _ handle _
      · rw [make, hact]
        exact (System.setHandle_parts _ handle _).1

/-- Removing a device takes its client off file. -/
theorem files_remove (device : DeviceId) : x.Files (.act (.remove device)) := by
  cases hr : x.system.registered? device with
  | some id => exact .leaves device id hr (System.removeClient_parts x.system device hr).2.2.1
  | none =>
    refine .absent device hr ?_
    show x.withSystem (x.system.removeClient device).1 = x
    rw [System.removeClient_of_none hr]
    rfl

/-- Only a creation and a removal touch the registry. -/
theorem Effect.registry {action : Action} {t : System} (h : x.Effect action t)
    (hc : ∀ key handle change, action ≠ .create key handle change)
    (hr : ∀ device, action ≠ .remove device) : t.registry = x.system.registry := by
  have same : Move.files (.act action) = false → System.SameHolders x.system t := h.holders
  cases h with
  | stays | files => rfl
  | creates => exact absurd rfl (hc _ _ _)
  | removes => exact absurd rfl (hr _)
  | makes | finds | clones => exact (System.setHandle_parts _ _ _).1
  | drops h => exact (System.dropHandle_parts h).2.1
  | _ => exact (same rfl).registry

/-- What a move does to the registry. -/
theorem registry_make (hv : x.Valid) (m : Move) : x.Files m := by
  cases m with
  | act action =>
    cases action with
    | create key handle change => exact files_create hv key handle change
    | remove device => exact files_remove device
    | _ => exact .stays _ (by simp) (by simp) ((x.effect_act _).registry (by simp) (by simp))
  | _ => exact .stays _ (by simp) (by simp) (holders_make hv rfl).registry

/-! ### Who is on file -/

/-- Who is on file for a device after a move, told from what users do: whom a creation for the device
hands out, and nobody after a removal. -/
def filing (x : Scenario) (device : DeviceId) (before : Option ClientId) : Move → Option ClientId
  | .act (.create key handle change) =>
    match (x.act (.create key handle change)).2 with
    | .key _ =>
      if key.device = device then
        (x.make (.act (.create key handle change))).system.handles.find? handle
      else before
    | _ => before
  | .act (.remove device') => if device' = device then none else before
  | _ => before

/-- Who is on file for a device after all moves. -/
def filed (x : Scenario) (device : DeviceId) (before : Option ClientId) : List Move → Option ClientId
  | [] => before
  | m :: rest => (x.make m).filed device (x.filing device before m) rest

/-- A move files and removes what it says. -/
theorem registered_make (hv : x.Valid) (device : DeviceId) (m : Move) :
    (x.make m).system.registered? device = x.filing device (x.system.registered? device) m := by
  unfold System.registered?
  cases registry_make hv m with
  | joins key handle change id hn hk hd hr hh he =>
    rw [he, Directory.find?_insert, filing, hr, ← hh]
  | joined key handle change id hi hr hh he =>
    rw [he, filing, hr]
    dsimp only
    split
    · next hd => rw [hh, ← hd]; exact hi
    · rfl
  | refused key handle change error hr => rw [make, filing, hr]
  | leaves device' id hi he => rw [he, Directory.find?_erase, filing]
  | absent device' hi he =>
    rw [he, filing]
    split
    · next hd => rw [← hd]; exact hi
    · rfl
  | stays _ hc hr he =>
    -- neither a creation nor a removal
    have hsame : x.filing device (x.system.registry.find? device) m = x.system.registry.find? device := by
      unfold filing
      split
      · exact absurd rfl (hc _ _ _)
      · exact absurd rfl (hr _)
      · rfl
    rw [he, hsame]

/-- The registry holds who is on file. -/
theorem registered_after (hv : x.Valid) (device : DeviceId) (ms : List Move) :
    (x.after ms).system.registered? device = x.filed device (x.system.registered? device) ms := by
  induction ms generalizing x with
  | nil => rfl
  | cons m rest ih => rw [after_cons, ih (hv.make m), registered_make hv, filed]

/-- Whoever comes on file is a new client of the device. -/
theorem registered_cases (hv : x.Valid) {m : Move}
    (h : (x.make m).system.registered? device = some id) :
    x.system.registered? device = some id ∨ ¬ x.system.Knows id ∧ id.device = device := by
  unfold System.registered? at h ⊢
  cases registry_make hv m with
  | joins key handle change id' hn hk hd hr hh he =>
    rw [he, Directory.find?_insert] at h
    split at h
    · next hdev =>
      cases h
      -- the entry is the one that is new
      exact .inr ⟨hk, hd.trans hdev⟩
    · exact .inl h
  | joined key handle change id' hi hr hh he =>
    rw [he] at h
    exact .inl h
  | refused key handle change error hr =>
    rw [make, hr] at h
    exact .inl h
  | leaves device' id' hi he =>
    rw [he, Directory.find?_erase] at h
    split at h
    · cases h
    · exact .inl h
  | absent device' hi he =>
    rw [he] at h
    exact .inl h
  | stays _ hc hr he =>
    rw [he] at h
    exact .inl h

/-! ### One entry per device -/

/-- Each device has one entry in the registry, and each entry is that of a client of the device. -/
structure Enrolled (x : Scenario) : Prop where
  nodup : x.system.registry.keys.Nodup
  named : x.system.Named
  device : ∀ {device id}, x.system.registered? device = some id → id.device = device

/-- A move keeps one entry per device, under its own name. -/
theorem Enrolled.make (h : x.Enrolled) (hv : x.Valid) (m : Move) : (x.make m).Enrolled where
  nodup := by
    cases registry_make hv m with
    | joins key handle change id hn hk hd hr hh he =>
      rw [he]
      exact Directory.nodup_keys_insert h.nodup _ _
    | joined key handle change id hi hr hh he =>
      rw [he]
      exact h.nodup
    | refused key handle change error hr =>
      rw [Scenario.make, hr]
      exact h.nodup
    | leaves device id hi he =>
      rw [he]
      exact Directory.nodup_keys_erase h.nodup _
    | absent device hi he =>
      rw [he]
      exact h.nodup
    | stays _ hc hr he =>
      rw [he]
      exact h.nodup
  named := by
    rcases observes_or_leads hv m with ⟨posted, outcome, rfl⟩ | ⟨is, -, hl⟩
    · exact h.named
    · exact hl.named hv.system h.named
  device := by
    intro device id hr
    rcases registered_cases hv hr with hr | ⟨-, hd⟩
    · exact h.device hr
    · exact hd

/-- So does a run. -/
theorem Enrolled.after (h : x.Enrolled) (hv : x.Valid) (ms : List Move) : (x.after ms).Enrolled := by
  induction ms generalizing x with
  | nil => exact h
  | cons m rest ih => exact ih (h.make hv m) (hv.make m)

/-- Nobody is on file at the start. -/
theorem enrolled_initial (devices : List String) (confs : List Pipeconf)
    (bindings : List (String × PipeconfId)) (config : ConfigChange) (capacity : Nat) :
    (initial devices confs bindings config capacity).Enrolled := by
  refine ⟨List.nodup_nil, fun id hk => ?_, fun hr => ?_⟩
  · cases hk
  · cases hr

/-- A client on file has a key that names the device. -/
theorem Enrolled.device_key (h : x.Enrolled) (hv : x.Valid) (hr : x.system.registered? device = some id) :
    (x.system.client id).key.device = device :=
  (h.named id (hv.system.knows_of_registered hr)).trans (h.device hr)

/-! ### Off the registry -/

/-- A client that exists and is on file nowhere. -/
def Struck (x : Scenario) (id : ClientId) : Prop :=
  x.system.Knows id ∧ ∀ device, x.system.registered? device ≠ some id

/-- A client that is off the registry stays off it. -/
theorem Struck.after (h : x.Struck id) (hv : x.Valid) (ms : List Move) : (x.after ms).Struck id := by
  induction ms generalizing x with
  | nil => exact h
  | cons m rest ih =>
    refine ih ⟨(key_make hv h.1 m).1, fun device hr => ?_⟩ (hv.make m)
    rcases registered_cases hv hr with hr | ⟨hk, -⟩
    · exact h.2 device hr
    · exact hk h.1

/-- A client that has been removed is off the registry. -/
theorem Enrolled.struck (h : x.Enrolled) (hv : x.Valid) (hr : x.system.registered? device = some id) :
    (x.make (.act (.remove device))).Struck id := by
  refine ⟨(key_make hv (hv.system.knows_of_registered hr) _).1, fun device' hr' => ?_⟩
  rw [registered_make hv, filing] at hr'
  split at hr'
  · cases hr'
  · next hne => exact hne ((h.device hr).symm.trans (h.device hr'))

end Scenario

end P4Control
