import Caption.Decimal.Shortest
import Caption.Font.Typeface
import Caption.Style
import Caption.Text.Quoted

/-!
# Fonts

A face at a size and in a style. The size is the height of a character cell, ascent and
descent together, and not the em.

## Main definitions

* `Font`: face, size and style
* `Font.scale`: from font units to pixels
* `Font.underline`, `Font.strikeout`: the bars of a line in pixels
-/
namespace Caption

structure Font (α : Type) where
  face : Typeface α
  size : α
  style : Style

namespace Font

variable {α : Type} [Scalar α]

open Scalar

/-- A negative size counts as zero. -/
def ofFace (face : Typeface α) (size : α) (style : Style) : Font α :=
  ⟨face, larger size zero, style⟩

/-- Bold is asked for and the face is not a bold design. -/
def fakesBold (f : Font α) : Bool := f.style.bold && !f.face.bold

def fakesItalic (f : Font α) : Bool := f.style.italic && !f.face.italic

/-- Units per em, at least one. -/
def emUnits (f : Font α) : α := ofInt (max f.face.unitsPerEm.toNat 1 : Nat)

/-- The height of a cell in font units; the em stands in for a face without one. -/
def cellUnits (f : Font α) : α :=
  let cell := f.face.metrics.ascent - f.face.metrics.descent
  if lt zero cell then cell else f.emUnits

/-- Pixels per font unit. -/
def scale (f : Font α) : α := f.size / f.cellUnits

/-- Pixels per em. -/
def emSize (f : Font α) : α := f.size * f.emUnits / f.cellUnits

def ascent (f : Font α) : α := f.face.metrics.ascent * f.scale

/-- The depth below the baseline, positive. -/
def descent (f : Font α) : α := -f.face.metrics.descent * f.scale

/-- From one baseline to the next. -/
def lineHeight (f : Font α) : α :=
  (f.face.metrics.ascent - f.face.metrics.descent + f.face.metrics.lineGap) * f.scale

/-- The height of a cell in text that runs downwards. -/
def cellHeight (f : Font α) : α := f.ascent + f.descent

/-- The glyph of a character, zero where the face has none. -/
def glyph (f : Font α) (c : Char) : GlyphId := (f.face.glyph? c).getD 0

def advance (f : Font α) (c : Char) : α := f.face.advance (f.glyph c) * f.scale

/-- A bar of a face that gives none. -/
def defaultThickness (f : Font α) : α := larger (f.size / ofInt 14) one

/-- The offset is below the baseline. -/
def underline (f : Font α) : Bar α :=
  match f.face.metrics.underline with
  | some b => ⟨-b.offset * f.scale, larger b.thickness one * f.scale⟩
  | none => ⟨f.descent * decimal 5 1, f.defaultThickness⟩

/-- The offset is above the baseline. -/
def strikeout (f : Font α) : Bar α :=
  match f.face.metrics.strikeout with
  | some b => ⟨b.offset * f.scale, larger b.thickness one * f.scale⟩
  | none => ⟨f.ascent * decimal 3 1, f.defaultThickness⟩

end Font

namespace Font

def flagText (b : Bool) : String := if b then "true" else "false"

/-- How the log shows a font. -/
def logText (f : Font Float32) : String :=
  "ResolvedFont \x7b family: " ++ String.ofList (quoted f.face.family.toList) ++ ", size: " ++
    logNumber f.size ++ ", flags: " ++ f.style.logText ++ ", synthetic_bold: " ++
    flagText f.fakesBold ++ ", synthetic_italic: " ++ flagText f.fakesItalic ++ " \x7d"

end Font

end Caption
