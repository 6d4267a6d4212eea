import Caption.Error
import Caption.OpenType.CharacterMap
import Caption.OpenType.Outline

/-!
# Typefaces from font files
-/
namespace Caption

namespace OpenType

variable {α : Type} [Scalar α]

/-- The face of a font under a family name. Tables that are missing or broken leave their
part of the face empty. -/
def Directory.face (d : Directory) (family : String) : Typeface α :=
  let chart := d.characterMap?
  let glyphs := d.glyphTable?
  { family := family
    unitsPerEm := d.unitsPerEm
    metrics := d.lineMetrics
    glyph? := fun c => chart.bind (·.glyph? c)
    advance := d.advance
    outline := fun g => glyphs.bind (·.outline? g)
    bold := false
    italic := false }

/-- A face of a font file, upright and of normal weight until something else is known. -/
def readFace (data : ByteArray) (index : Nat) (family : String) : Except FontError (Typeface α) :=
  match Directory.ofBytes? data index with
  | some d => .ok (d.face family)
  | none => .error .invalidData

end OpenType

namespace Typeface

def withDesign {α : Type} (f : Typeface α) (bold italic : Bool) : Typeface α :=
  { f with bold := bold, italic := italic }

end Typeface

end Caption
