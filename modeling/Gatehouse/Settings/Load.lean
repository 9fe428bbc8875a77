import Gatehouse.Settings.Codec
import Gatehouse.Trace

/-!
# Loading settings

Settings are loaded from a file. A file that is not there leaves all settings at their
defaults; one that is there must hold usable settings.
-/

set_option autoImplicit false

namespace Gatehouse

/-- What is found at a path. -/
inductive FileContent where
  | missing
  /-- Something that has no content, such as a directory. -/
  | unreadable
  | bytes (content : Bytes)

/-- The settings of a file, which is logged if it is used or missing. -/
def Settings.load (path : String) : FileContent → Traced (Except SettingsFault Settings)
  | .missing => do
    Traced.log (.settingsMissing path)
    pure (.ok {})
  | .unreadable => pure (.error (.unreadable path))
  | .bytes content =>
    match Utf8.decode content with
    | none => pure (.error (.unreadable path))
    | some text =>
      match Settings.ofToml text with
      | .error fault => pure (.error (.inFile path fault))
      | .ok s => do
        Traced.log (.settingsLoaded path)
        pure (.ok s)

end Gatehouse
