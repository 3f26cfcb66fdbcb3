import P4Control.Settings.Environment
import P4Control.Settings.Layers
import P4Control.Settings.Written
import P4Control.Toml.Document

namespace P4Control

/-!
# Settings in a file

* `Place` — what stands at a path.
* `Settings.load`, `Settings.save` — settings from and to such a place.
* `Settings.canonicalPath` — where the settings are kept.
-/

/-- What stands at a path. -/
inductive Place where
  /-- Nothing; the directories above it exist or can be made. -/
  | vacant
  /-- Nothing, and nothing can be: a plain file stands where a directory is needed. -/
  | blocked
  /-- A directory. -/
  | directory
  /-- A file. -/
  | file (content : ByteArray)

namespace Settings

/-- The fields that a place holds; where there is no file there are none. -/
def fileFields (place : Place) : Except SettingsError Fields :=
  match place with
  | .file content =>
    match (String.fromUTF8? content).bind Toml.parse with
    | some fields => .ok fields
    | none => .error .unreadable
  | _ => .ok []

/-- Loads the settings from a place and the environment, and checks them. -/
def load (place : Place) (environment : Environment) : Except SettingsError Settings := do
  let file ← fileFields place
  let settings ← ofLayers file environment.fields
  settings.validate
  return settings

/-- Loads the settings, or falls back to the built-in ones. -/
def loadOrDefault (place : Place) (environment : Environment) : Settings :=
  match load place environment with
  | .ok settings => settings
  | .error _ => {}

/-- Saves the settings to a place.  The first part of the answer is what then stands there;
a place where nothing could be saved is left as it was. -/
def save (settings : Settings) (place : Place) : Place × Except SettingsError Unit :=
  match place, settings.written? with
  | .blocked, _ => (place, .error .storage)
  | _, none => (place, .error .unwritable)
  | .directory, some _ => (place, .error .storage)
  | _, some text => (.file text.toUTF8, .ok ())

/-! ### The path -/

/-- A path below a directory. -/
def joinPath (directory name : String) : String :=
  if directory.toList.getLast? = some '/' then directory ++ name else directory ++ "/" ++ name

/-- Where the settings are kept: below the directory for configuration, if an absolute one
is named, else below the one of that kind in the home directory. -/
def canonicalPath (home : String) (configuration : Option String) : String :=
  let base := match configuration with
    | some directory =>
      if directory.toList.head? = some '/' then directory else joinPath home ".config"
    | none => joinPath home ".config"
  joinPath (joinPath base "p4rt") "config.toml"

end Settings

end P4Control
