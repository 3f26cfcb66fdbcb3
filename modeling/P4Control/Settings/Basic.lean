import P4Control.ClientConfig
import P4Control.Settings.Error
import P4Control.Settings.Overrides

namespace P4Control

/-!
# Settings

The numbers that tune clients: general ones, and those that single devices override.

* `Defaults`, `Settings` — the general settings, and all settings.
* `Settings.clientConfig` — what applies to one device.
* `Settings.validate` — whether the settings are usable.
-/

/-- The general settings. -/
structure Defaults where
  /-- Seconds until a short call times out. -/
  shortTimeout : UInt64 := 10
  /-- Seconds until a long call times out. -/
  longTimeout : UInt64 := 60
  /-- How many outbound frames may wait. -/
  queueCapacity : UInt64 := 256
  /-- How many events the shared event sink keeps. -/
  eventCapacity : UInt64 := 1024
deriving DecidableEq, Repr

instance : Inhabited Defaults := ⟨{}⟩

/-- All settings. -/
structure Settings where
  /-- What applies to every device that does not override it. -/
  defaults : Defaults := {}
  /-- What single devices override. -/
  devices : DeviceTable := .empty
deriving DecidableEq, Repr

instance : Inhabited Settings := ⟨{}⟩

namespace Settings

/-- A number that must not be zero. -/
def positive (setting : Setting) (device : Option DeviceId) (n : UInt64) : Except SettingsError UInt64 :=
  if n = 0 then .error (.zero setting device) else .ok n

/-- The client settings of a device, unless one of the numbers that apply to it is zero. -/
def clientConfig (settings : Settings) (device : DeviceId) : Except SettingsError ClientConfig := do
  let overrides := (settings.devices.find? device).getD {}
  let short ← positive .shortTimeout device (overrides.shortTimeout.getD settings.defaults.shortTimeout)
  let long ← positive .longTimeout device (overrides.longTimeout.getD settings.defaults.longTimeout)
  let queue ← positive .queueCapacity device (overrides.queueCapacity.getD settings.defaults.queueCapacity)
  return {
    shortTimeout := .ofSeconds short.toNat
    longTimeout := .ofSeconds long.toNat
    queueCapacity := queue.toNat }

/-- The capacity of the event sink, unless it is zero. -/
def eventCapacity (settings : Settings) : Except SettingsError UInt64 :=
  positive .eventCapacity none settings.defaults.eventCapacity

/-- Checks that the settings are usable: for the event sink, for a device with the empty id,
which stands for every device that overrides nothing, and for every device that overrides
something. -/
def validate (settings : Settings) : Except SettingsError Unit := do
  let _ ← settings.eventCapacity
  let _ ← settings.clientConfig ⟨""⟩
  settings.devices.devices.forM fun device => do
    let _ ← settings.clientConfig device

end Settings

end P4Control
