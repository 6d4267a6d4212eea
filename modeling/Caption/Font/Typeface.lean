import Caption.Path
import Caption.Scalar
import Caption.Text.Blank

/-!
# Typefaces

One face of a family: its metrics, its map from characters to glyphs and its outlines, all in
font units with `y` upwards.

## Main definitions

* `Typeface`: what measuring and drawing ask of a face
* `Typeface.block`: a face whose glyphs are solid blocks
-/
namespace Caption

abbrev GlyphId := UInt32

/-- A bar along a line of text. -/
structure Bar (α : Type) where
  offset : α
  thickness : α
deriving DecidableEq, Repr

/-- The descent is negative below the baseline. -/
structure LineMetrics (α : Type) where
  ascent : α
  descent : α
  lineGap : α
  underline : Option (Bar α)
  strikeout : Option (Bar α)
deriving DecidableEq, Repr

structure Typeface (α : Type) where
  family : String
  unitsPerEm : UInt16
  metrics : LineMetrics α
  glyph? : Char → Option GlyphId
  advance : GlyphId → α
  /-- Blank and missing glyphs have no outline. -/
  outline : GlyphId → Option (Path Float)
  /-- Whether the design itself is bold. -/
  bold : Bool
  /-- Whether the design itself is slanted. -/
  italic : Bool

/-- The character with a code point, if there is one. -/
def charOfCodePoint? (n : UInt32) : Option Char :=
  if h : n.isValidChar then some ⟨n, h⟩ else none

namespace Typeface

/-- The rectangle from `(50, 0)` to `(450, 700)`. -/
def blockOutline : Path Float :=
  [.move ⟨50, 0⟩, .line ⟨450, 0⟩, .line ⟨450, 700⟩, .line ⟨50, 700⟩, .close]

def hasShape (g : GlyphId) : Bool :=
  match charOfCodePoint? g with
  | some c => !(isBlank c || isControl c)
  | none => false

/-- A face in which every character is its own glyph, half an em wide. -/
def block {α : Type} [Scalar α] (family : String) (bold italic : Bool) (ascent descent : α) :
    Typeface α where
  family := family
  unitsPerEm := 1000
  metrics :=
    { ascent := ascent
      descent := descent
      lineGap := Scalar.zero
      underline := some ⟨Scalar.ofInt (-100), Scalar.ofInt 50⟩
      strikeout := some ⟨Scalar.ofInt 300, Scalar.ofInt 50⟩ }
  glyph? c := some c.val
  advance _ := Scalar.ofInt 500
  outline g := if hasShape g then some blockOutline else none
  bold := bold
  italic := italic

/-- An upright block face with the usual heights. -/
def plainBlock {α : Type} [Scalar α] (family : String) : Typeface α :=
  block family false false (Scalar.ofInt 800) (Scalar.ofInt (-200))

end Typeface

end Caption
