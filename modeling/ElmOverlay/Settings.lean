import ElmOverlay.Json
import ElmOverlay.Toml.Document

/-!
Settings of a workspace. One flag tells whether the editor runs the commands of exposure
lenses. It comes from the settings file, and the editor's own word goes before the file.
-/
namespace ElmOverlay

structure Settings where
  canToggle : Bool := false
  deriving DecidableEq, Repr

inductive SettingsFile where
  | absent
  | unreadable
  | bytes (content : ByteArray)

inductive SettingsError where
  | unreadable
  | malformed
  deriving DecidableEq, Repr

namespace Settings

/-- The flag as read from a value: absent means off, and anything but a boolean is refused. -/
def flag? : Option Toml.Value → Option Bool
  | none => some false
  | some (.bool b) => some b
  | some _ => none

/-- The settings in a capabilities section. An array counts as its fields in order. -/
def ofSection? : Toml.Value → Option Settings
  | .table fields => (flag? ((Toml.Value.table fields).get? "expose_unexpose")).map Settings.mk
  | .array items => (flag? items.head?).map Settings.mk
  | .dateTime => some {}
  | _ => none

def ofValue? (root : Toml.Value) : Option Settings :=
  match root.get? "capabilities" with
  | none => some {}
  | some v => ofSection? v

def ofText? (text : String) : Except SettingsError Settings :=
  match (Toml.parse? text).bind ofValue? with
  | none => .error .malformed
  | some s => .ok s

/-- Without a file all settings have their defaults. -/
def ofFile? : SettingsFile → Except SettingsError Settings
  | .absent => .ok {}
  | .unreadable => .error .unreadable
  | .bytes content =>
    match String.fromUTF8? content with
    | none => .error .unreadable
    | some text => ofText? text

/-- The flag as the editor announces it in its initialization options. -/
def announcedToggle (options : Json) : Option Bool :=
  ((options.field? "extendedCapabilities").bind (·.field? "exposeUnexposeSupport")).bind
    Json.bool?

/-- Only what the editor announces replaces a setting. -/
def withOptions (s : Settings) (options : Json) : Settings :=
  { s with canToggle := (announcedToggle options).getD s.canToggle }

end Settings

end ElmOverlay
