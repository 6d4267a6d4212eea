import Caption.Json.Error

/-!
# Errors

What can go wrong with fonts, pictures, textures, settings, images and files, and how each
is worded.

## Main definitions

* `Error`: all causes, by the part they arise in
* `Cause`: kinds of causes that are errors
* `Error.message`: the wording
-/
namespace Caption

inductive FontError where
  | familyNotFound (family : String)
  | emptyName
  | invalidData
  | fileNotFound (path : String)
deriving DecidableEq, Repr

inductive DrawError where
  | noPicture (width height : UInt32)
  | noPath
  | invalidRect (rect : String)
deriving DecidableEq, Repr

inductive TextureError where
  | creationFailed (width height : UInt32)
  | unknownTexture (id : Nat)
  | sizeMismatch (expected actual : UInt64)
deriving DecidableEq, Repr

inductive ExportError where
  | bufferTooSmall (width height : UInt32) (expected actual : UInt64)
  | encodingFailed (reason : String)
deriving DecidableEq, Repr

/-- Why a file could not be used. -/
inductive FileError where
  | notFound
  | isDirectory
  | notDirectory
  /-- The bytes are no text. -/
  | notText
  /-- Something is missing that is not a file. -/
  | noEntity
  /-- A path cannot hold a zero character. -/
  | zeroInPath
deriving DecidableEq, Repr

inductive SettingsError where
  | malformed (cause : Json.Error)
  | unreadable (path : String) (cause : FileError)
deriving Repr

inductive Error where
  | font (cause : FontError)
  | draw (cause : DrawError)
  | texture (cause : TextureError)
  | settings (cause : SettingsError)
  | image (cause : ExportError)
  | file (cause : FileError)
deriving Repr

/-- What may be the cause of an error. -/
class Cause (ε : Type) where
  toError : ε → Error

instance : Cause FontError := ⟨.font⟩

instance : Cause Error := ⟨id⟩

def extent (width height : UInt32) : String := toString width ++ "x" ++ toString height

def FontError.message : FontError → String
  | familyNotFound family => "Font family not found: " ++ family
  | emptyName => "Empty font face name"
  | invalidData => "Invalid font data"
  | fileNotFound path => "Font file not found: " ++ path

def DrawError.message : DrawError → String
  | noPicture width height => "Pixmap creation failed for " ++ extent width height
  | noPath => "Path building failed"
  | invalidRect rect => "Invalid rectangle: " ++ rect

def TextureError.message : TextureError → String
  | creationFailed width height => "Texture creation failed for " ++ extent width height
  | unknownTexture id => "Unknown texture handle: " ++ toString id
  | sizeMismatch expected actual =>
    "Pixel data has " ++ toString actual ++ " bytes, expected " ++ toString expected

def ExportError.message : ExportError → String
  | bufferTooSmall width height expected actual =>
    "Buffer too small: expected " ++ toString expected ++ " bytes for " ++ extent width height ++
      ", got " ++ toString actual
  | encodingFailed reason => "Encoding failed: " ++ reason

def FileError.message : FileError → String
  | notFound => "No such file or directory (os error 2)"
  | isDirectory => "Is a directory (os error 21)"
  | notDirectory => "Not a directory (os error 20)"
  | notText => "stream did not contain valid UTF-8"
  | noEntity => "entity not found"
  | zeroInPath => "file name contained an unexpected NUL byte"

def SettingsError.message : SettingsError → String
  | malformed cause => "Malformed settings: " ++ cause.message
  | unreadable path cause => "Cannot read settings file " ++ path ++ ": " ++ cause.message

def Error.message : Error → String
  | font cause => "Font loading failed: " ++ cause.message
  | draw cause => "Rendering failed: " ++ cause.message
  | texture cause => "Texture operation failed: " ++ cause.message
  | settings cause => "Configuration error: " ++ cause.message
  | image cause => "Export failed: " ++ cause.message
  | file cause => "IO error: " ++ cause.message

end Caption
