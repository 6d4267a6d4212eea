import Caption.Json.Record
import Caption.Settings.Basic

/-!
# Settings in JSON

## Main definitions

* `Settings.ofJson`: reads settings from a text
* `Settings.toJson`: writes them, one member a line
-/
namespace Caption

namespace Settings

/-! ## Values -/

def readWord (cs : List Char) : Except Json.Error (UInt32 × List Char) :=
  (Json.readWhole "u32" 0 0xFFFFFFFF cs).map fun r => (r.1.toNat.toUInt32, r.2)

def readSize (cs : List Char) : Except Json.Error (Int64 × List Char) :=
  (Json.readWhole "i64" (-0x8000000000000000) 0x7FFFFFFFFFFFFFFF cs).map
    fun r => (Int64.ofInt r.1, r.2)

def writeText (s : String) : List Char := Json.textLiteral s.toList

def writeFlag (b : Bool) : List Char :=
  if b then ['t', 'r', 'u', 'e'] else ['f', 'a', 'l', 's', 'e']

def writeWhole (n : Int) : List Char :=
  if n < 0 then '-' :: Nat.toDigits 10 n.natAbs else Nat.toDigits 10 n.natAbs

def writeWord (n : UInt32) : List Char := writeWhole n.toNat

/-! ## The font -/

inductive FontField where
  | face | size | flags
deriving DecidableEq, Repr

namespace FontField

def all : List FontField := [face, size, flags]

def key : FontField → String
  | face => "face"
  | size => "size"
  | flags => "flags"

def read (f : FontField) (x : FontSettings) (cs : List Char) :
    Except Json.Error (FontSettings × List Char) :=
  match f with
  | face => (Json.readText cs).map fun r => ({ x with face := r.1 }, r.2)
  | size => (readSize cs).map fun r => ({ x with size := r.1 }, r.2)
  | flags => (readWord cs).map fun r => ({ x with flags := r.1 }, r.2)

def write (f : FontField) (_depth : Nat) (x : FontSettings) : List Char :=
  match f with
  | face => writeText x.face
  | size => writeWhole x.size.toInt
  | flags => writeWord x.flags

end FontField

def fontRecord : Json.Record FontField FontSettings where
  expected := "struct FontSettings"
  fields := FontField.all
  key := FontField.key
  start := .default
  readField := FontField.read
  writeField := FontField.write

/-! ## The settings -/

inductive Field where
  | text | readFromFile | file | font | color | opacity | backColor | backOpacity
  | align | valign | vertical | outline | outlineSize | outlineColor | outlineOpacity
  | extents | extentsWrap | extentsWidth | extentsHeight
deriving DecidableEq, Repr

namespace Field

def all : List Field :=
  [text, readFromFile, file, font, color, opacity, backColor, backOpacity, align, valign,
    vertical, outline, outlineSize, outlineColor, outlineOpacity, extents, extentsWrap,
    extentsWidth, extentsHeight]

def key : Field → String
  | text => "text"
  | readFromFile => "read_from_file"
  | file => "file"
  | font => "font"
  | color => "color"
  | opacity => "opacity"
  | backColor => "bk_color"
  | backOpacity => "bk_opacity"
  | align => "align"
  | valign => "valign"
  | vertical => "vertical"
  | outline => "outline"
  | outlineSize => "outline_size"
  | outlineColor => "outline_color"
  | outlineOpacity => "outline_opacity"
  | extents => "extents"
  | extentsWrap => "extents_wrap"
  | extentsWidth => "extents_cx"
  | extentsHeight => "extents_cy"

def read (f : Field) (x : Settings) (cs : List Char) :
    Except Json.Error (Settings × List Char) :=
  match f with
  | text => (Json.readText cs).map fun r => ({ x with text := r.1 }, r.2)
  | readFromFile => (Json.readFlag cs).map fun r => ({ x with readFromFile := r.1 }, r.2)
  | file => (Json.readText cs).map fun r => ({ x with file := r.1 }, r.2)
  | font => (fontRecord.read cs).map fun r => ({ x with font := r.1 }, r.2)
  | color => (readWord cs).map fun r => ({ x with color := r.1 }, r.2)
  | opacity => (readWord cs).map fun r => ({ x with opacity := r.1 }, r.2)
  | backColor => (readWord cs).map fun r => ({ x with backColor := r.1 }, r.2)
  | backOpacity => (readWord cs).map fun r => ({ x with backOpacity := r.1 }, r.2)
  | align => (Json.readText cs).map fun r => ({ x with align := r.1 }, r.2)
  | valign => (Json.readText cs).map fun r => ({ x with valign := r.1 }, r.2)
  | vertical => (Json.readFlag cs).map fun r => ({ x with vertical := r.1 }, r.2)
  | outline => (Json.readFlag cs).map fun r => ({ x with outline := r.1 }, r.2)
  | outlineSize => (readWord cs).map fun r => ({ x with outlineSize := r.1 }, r.2)
  | outlineColor => (readWord cs).map fun r => ({ x with outlineColor := r.1 }, r.2)
  | outlineOpacity => (readWord cs).map fun r => ({ x with outlineOpacity := r.1 }, r.2)
  | extents => (Json.readFlag cs).map fun r => ({ x with extents := r.1 }, r.2)
  | extentsWrap => (Json.readFlag cs).map fun r => ({ x with extentsWrap := r.1 }, r.2)
  | extentsWidth => (readWord cs).map fun r => ({ x with extentsWidth := r.1 }, r.2)
  | extentsHeight => (readWord cs).map fun r => ({ x with extentsHeight := r.1 }, r.2)

def write (f : Field) (depth : Nat) (x : Settings) : List Char :=
  match f with
  | text => writeText x.text
  | readFromFile => writeFlag x.readFromFile
  | file => writeText x.file
  | font => fontRecord.write depth x.font
  | color => writeWord x.color
  | opacity => writeWord x.opacity
  | backColor => writeWord x.backColor
  | backOpacity => writeWord x.backOpacity
  | align => writeText x.align
  | valign => writeText x.valign
  | vertical => writeFlag x.vertical
  | outline => writeFlag x.outline
  | outlineSize => writeWord x.outlineSize
  | outlineColor => writeWord x.outlineColor
  | outlineOpacity => writeWord x.outlineOpacity
  | extents => writeFlag x.extents
  | extentsWrap => writeFlag x.extentsWrap
  | extentsWidth => writeWord x.extentsWidth
  | extentsHeight => writeWord x.extentsHeight

end Field

def record : Json.Record Field Settings where
  expected := "struct TextSettings"
  fields := Field.all
  key := Field.key
  start := .default
  readField := Field.read
  writeField := Field.write

def ofJson (json : String) : Except Json.Error Settings := record.ofText json.toList

def toJson (s : Settings) : String := String.ofList (record.write 0 s)

end Settings

end Caption
