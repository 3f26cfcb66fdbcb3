import P4Control.Identity

namespace P4Control

/-!
# Errors of the settings

* `Setting` — the numbers that can be set, with the names under which sources hold them.
* `MismatchKind` — how a piece of configuration can fail to be what a setting needs.
* `SettingsError` — why settings could not be loaded, saved or used.
-/

/-- The numbers that can be set. -/
inductive Setting where
  | shortTimeout
  | longTimeout
  | queueCapacity
  | eventCapacity
deriving DecidableEq, Repr

/-- The name of a setting in a configuration source. -/
def Setting.name : Setting → String
  | shortTimeout => "short_timeout_secs"
  | longTimeout => "long_timeout_secs"
  | queueCapacity => "outbound_queue_capacity"
  | eventCapacity => "event_channel_capacity"

/-- How a piece of configuration can fail to be what is needed. -/
inductive MismatchKind where
  /-- It is of another type, or too large a number. -/
  | type
  /-- It is a number, and below zero. -/
  | value
  /-- It is an array with too few elements. -/
  | length
deriving DecidableEq, Repr

/-- Why settings could not be loaded, saved or used. -/
inductive SettingsError where
  /-- A number is zero; for a setting of devices, with the device it would apply to. -/
  | zero (setting : Setting) (device : Option DeviceId)
  /-- The file is not text, or the text is malformed. -/
  | unreadable
  /-- What stands at a path of keys is not what is needed there. -/
  | mismatch (kind : MismatchKind) (path : List String)
  /-- A number is too large to be written. -/
  | unwritable
  /-- The file or its directory could not be made. -/
  | storage
deriving DecidableEq, Repr

/-- What is said about a number that is zero. -/
def SettingsError.zeroMessage (setting : Setting) (device : Option DeviceId) : String :=
  "invalid " ++ setting.name ++ ": must be greater than zero" ++
    match device with
    | some id => " (device '" ++ id.raw ++ "')"
    | none => ""

end P4Control
