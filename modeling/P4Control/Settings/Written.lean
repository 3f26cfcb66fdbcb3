import P4Control.Settings.Basic
import P4Control.Toml.Item

namespace P4Control

/-!
# Settings in writing

Settings are written as a document with one table for the general settings and one for each
device.

* `Toml.writeKey` — a key, in the plainest style that can hold it.
* `Settings.written?` — the document, when every number fits it.
-/

namespace Toml

/-- Whether a character is plain and yet takes a backslash between double quotes. -/
def isMarked (c : Char) : Bool := c = '"' || c = '\\'

/-- A key in writing: bare where possible; else between double quotes, unless that took
backslashes and single quotes do not. -/
def writeKey (key : String) : List Char :=
  let chars := key.toList
  if !chars.isEmpty && chars.all isBare then chars
  else if chars.all isPlain && chars.any isMarked && !chars.contains '\'' then writeLiteral chars
  else writeBasic chars

end Toml

namespace Settings

/-- A number in writing, with its name, when it fits a document. -/
def writeNumber (setting : Setting) (n : UInt64) : Option (List Char) :=
  if (n.toNat : Int) < Toml.integerBound then
    some (setting.name.toList ++ [' ', '=', ' '] ++ Toml.writeNatural n.toNat ++ ['\n'])
  else none

/-- A number in writing, or nothing when it is not set. -/
def writeOverride (setting : Setting) : Option UInt64 → Option (List Char)
  | none => some []
  | some n => writeNumber setting n

/-- The general settings in writing. -/
def writeDefaults (defaults : Defaults) : Option (List Char) := do
  let short ← writeNumber .shortTimeout defaults.shortTimeout
  let long ← writeNumber .longTimeout defaults.longTimeout
  let queue ← writeNumber .queueCapacity defaults.queueCapacity
  let events ← writeNumber .eventCapacity defaults.eventCapacity
  some ("[defaults]\n".toList ++ short ++ long ++ queue ++ events)

/-- What a device overrides, in writing. -/
def writeDevice (device : DeviceId) (overrides : Overrides) : Option (List Char) := do
  let short ← writeOverride .shortTimeout overrides.shortTimeout
  let long ← writeOverride .longTimeout overrides.longTimeout
  let queue ← writeOverride .queueCapacity overrides.queueCapacity
  some ("[devices.".toList ++ Toml.writeKey device.raw ++ [']', '\n'] ++ short ++ long ++ queue)

/-- What the devices override, in writing: a table for each, or an empty table when there
is none, each behind an empty line. -/
def writeDevices : List (DeviceId × Overrides) → Option (List Char)
  | [] => some "\n[devices]\n".toList
  | entries => do
    let tables ← entries.mapM fun entry => (writeDevice entry.1 entry.2).map ('\n' :: ·)
    some tables.flatten

/-- The settings in writing, unless a number does not fit the document. -/
def written? (settings : Settings) : Option String := do
  let defaults ← writeDefaults settings.defaults
  let devices ← writeDevices settings.devices.entries
  some (String.ofList (defaults ++ devices))

end Settings

end P4Control
