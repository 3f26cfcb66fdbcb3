import P4Control.Datum
import P4Control.Settings.Basic

namespace P4Control

/-!
# Settings from layers

Settings come from three sources: the built-in ones, a file, and the environment.  Each
source is untyped; the later ones are laid over the earlier ones, and the result is read.

* `Settings.toFields` — settings as untyped data.
* `Settings.ofFields` — the settings that untyped data hold; keys without a meaning are
  passed over.
* `Settings.ofLayers` — the settings of all sources together.

Where several pieces of data are not what they should be, the one with the least path, key
by key, is reported.
-/

namespace Settings

/-! ### Reading -/

/-- Reads a number. -/
def readNumber (path : List String) : Datum → Except SettingsError UInt64
  | .integer n =>
    if 0 ≤ n then
      if n < UInt64.size then .ok (UInt64.ofNat n.toNat) else .error (.mismatch .type path)
    else if -0x8000000000000000 ≤ n then .error (.mismatch .value path)
    else .error (.mismatch .type path)
  | _ => .error (.mismatch .type path)

/-- Reads the number of a setting, when the fields hold one. -/
def readField (path : List String) (fields : Fields) (setting : Setting) :
    Except SettingsError (Option UInt64) :=
  match Directory.findIn setting.name fields with
  | none => .ok none
  | some datum => (readNumber (path ++ [setting.name]) datum).map some

/-- Reads the number at a place of an array, when the array is long enough. -/
def readItem (path : List String) (items : List Datum) (index : Nat) :
    Except SettingsError (Option UInt64) :=
  match items[index]? with
  | none => .ok none
  | some datum => (readNumber (path ++ [toString index]) datum).map some

/-- Reads the general settings, from a table or from an array in the order short, long,
queue, events.  Those that are missing are the built-in ones. -/
def readDefaults (path : List String) : Datum → Except SettingsError Defaults
  | .table fields => do
    let events ← readField path fields .eventCapacity
    let long ← readField path fields .longTimeout
    let queue ← readField path fields .queueCapacity
    let short ← readField path fields .shortTimeout
    return defaultsOf short long queue events
  | .array items => do
    let short ← readItem path items 0
    let long ← readItem path items 1
    let queue ← readItem path items 2
    let events ← readItem path items 3
    return defaultsOf short long queue events
  | _ => .error (.mismatch .type path)
where
  /-- The general settings of which some are given. -/
  defaultsOf (short long queue events : Option UInt64) : Defaults :=
    let builtIn : Defaults := {}
    { shortTimeout := short.getD builtIn.shortTimeout
      longTimeout := long.getD builtIn.longTimeout
      queueCapacity := queue.getD builtIn.queueCapacity
      eventCapacity := events.getD builtIn.eventCapacity }

/-- Reads what one device overrides, from a table, or from an array of all three settings in
the order short, long, queue. -/
def readOverrides (path : List String) : Datum → Except SettingsError Overrides
  | .table fields => do
    let long ← readField path fields .longTimeout
    let queue ← readField path fields .queueCapacity
    let short ← readField path fields .shortTimeout
    return ⟨short, long, queue⟩
  | .array items => do
    let short ← readItem path items 0
    let long ← readItem path items 1
    let queue ← readItem path items 2
    if items.length < 3 then .error (.mismatch .length path)
    return ⟨short, long, queue⟩
  | _ => .error (.mismatch .type path)

/-- Puts a field in its place in the order of keys. -/
def insertField (field : String × Datum) : Fields → Fields
  | [] => [field]
  | first :: rest =>
    if first.1 < field.1 then first :: insertField field rest else field :: first :: rest

/-- Fields in the order of their keys. -/
def sortFields (fields : Fields) : Fields := fields.foldr insertField []

/-- Reads what the devices override, one device after the other. -/
def readDevices (path : List String) : Datum → Except SettingsError DeviceTable
  | .table fields =>
    (sortFields fields).foldlM
      (fun table field => do
        let overrides ← readOverrides (path ++ [field.1]) field.2
        return table.insert ⟨field.1⟩ overrides)
      .empty
  | _ => .error (.mismatch .type path)

/-- The key of the general settings. -/
def defaultsKey : String := "defaults"

/-- The key of what the devices override. -/
def devicesKey : String := "devices"

/-- Reads all settings; a part that is missing is the built-in one. -/
def ofFields (fields : Fields) : Except SettingsError Settings := do
  let defaults ← match Directory.findIn defaultsKey fields with
    | none => .ok {}
    | some datum => readDefaults [defaultsKey] datum
  let devices ← match Directory.findIn devicesKey fields with
    | none => .ok .empty
    | some datum => readDevices [devicesKey] datum
  return { defaults, devices }

/-! ### Settings as data -/

/-- A number as data. -/
def numberField (setting : Setting) (n : UInt64) : String × Datum :=
  (setting.name, .integer n.toNat)

/-- The general settings as data. -/
def defaultsFields (defaults : Defaults) : Fields :=
  [numberField .shortTimeout defaults.shortTimeout,
    numberField .longTimeout defaults.longTimeout,
    numberField .queueCapacity defaults.queueCapacity,
    numberField .eventCapacity defaults.eventCapacity]

/-- What a device overrides, as data. -/
def overridesFields (overrides : Overrides) : Fields :=
  (overrides.shortTimeout.map (numberField .shortTimeout)).toList ++
    (overrides.longTimeout.map (numberField .longTimeout)).toList ++
    (overrides.queueCapacity.map (numberField .queueCapacity)).toList

/-- Settings as data. -/
def toFields (settings : Settings) : Fields :=
  [(defaultsKey, .table (defaultsFields settings.defaults)),
    (devicesKey, .table (settings.devices.entries.map fun (device, overrides) =>
      (device.raw, .table (overridesFields overrides))))]

/-! ### Layers -/

/-- The settings of a file and of the environment, laid over the built-in ones. -/
def ofLayers (file environment : Fields) : Except SettingsError Settings :=
  ofFields (Datum.overFields (Datum.overFields ({} : Settings).toFields file) environment)

end Settings

end P4Control
