import Caption.FileTree
import Caption.Settings.Json
import Caption.Text.Utf8

/-!
# Settings from files
-/
namespace Caption

namespace Settings

def parse (json : String) : Except SettingsError Settings :=
  match ofJson json with
  | .ok s => .ok s
  | .error cause => .error (.malformed cause)

/-- The bytes of a settings file must be text throughout. -/
def ofBytes (path : String) (bytes : ByteArray) : Except SettingsError Settings :=
  match Utf8.decode? bytes.toList with
  | some text => parse (String.ofList text)
  | none => .error (.unreadable path .notText)

def ofFile (files : FileTree) (path : String) : Except SettingsError Settings :=
  match files.read path with
  | .ok bytes => ofBytes path bytes
  | .error cause => .error (.unreadable path cause)

end Settings

end Caption
