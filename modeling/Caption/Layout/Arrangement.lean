import Caption.Layout.Basic

/-!
# Arrangement

Every glyph and every bar of a layout at its place. Each line is placed on its own; lines
that lie wholly outside the clip are left out.

## Main definitions

* `Arrangement`: glyphs and bars
* `Layout.arrange`: places the lines in a box
-/
namespace Caption

structure PlacedGlyph (α : Type) where
  glyph : GlyphId
  char : Char
  /-- The left edge of the cell. -/
  x : α
  baseline : α
deriving DecidableEq, Repr

structure Arrangement (α : Type) where
  glyphs : List (PlacedGlyph α)
  bars : List (Rect α)
deriving DecidableEq, Repr

namespace Arrangement

variable {α : Type}

def empty : Arrangement α := ⟨[], []⟩

def isEmpty (a : Arrangement α) : Bool := a.glyphs.isEmpty && a.bars.isEmpty

/-- Several arrangements one after another. -/
def concat (as : List (Arrangement α)) : Arrangement α :=
  ⟨as.flatMap glyphs, as.flatMap bars⟩

end Arrangement

variable {α : Type} [Scalar α]

open Scalar

namespace Layout

/-! ## Which lines -/

/-- The clip's span on the axis across the lines. -/
def clipSpan (p : Placement) (clip : Rect α) : α × α :=
  if p.vertical then (clip.x, clip.right) else (clip.y, clip.bottom)

/-- Whether a line that starts here overlaps the clip. -/
def keepsSpan (l : Layout α) (start extent : α) : Bool :=
  match l.clip with
  | none => true
  | some clip =>
    let (low, high) := clipSpan l.placement clip
    lt start high && lt low (start + extent)

/-! ## One line -/

/-- Glyphs from left to right, each an advance after the one before. -/
def placeRun (font : Font α) (baseline : α) : α → List Char → List (PlacedGlyph α)
  | _, [] => []
  | x, c :: cs => ⟨font.glyph c, c, x, baseline⟩ :: placeRun font baseline (x + font.advance c) cs

/-- Glyphs from the top down, each in the middle of its column. -/
def placeColumn (font : Font α) (column top : α) (s : List Char) : List (PlacedGlyph α) :=
  s.mapIdx fun row c =>
    ⟨font.glyph c, c, column + half (font.lineHeight - font.advance c),
      top + font.cellHeight * ofInt row + font.ascent⟩

/-- The bars below and through a line. -/
def runBars (font : Font α) (start baseline advance : α) : List (Rect α) :=
  (if font.style.underline then
    let b := font.underline
    [⟨start, baseline + b.offset - half b.thickness, advance, b.thickness⟩]
  else []) ++
  (if font.style.strikeout then
    let b := font.strikeout
    [⟨start, baseline - b.offset - half b.thickness, advance, b.thickness⟩]
  else [])

/-- The bars left of and through a column. -/
def columnBars (font : Font α) (column top advance : α) : List (Rect α) :=
  (if font.style.underline then [⟨column, top, font.underline.thickness, advance⟩] else []) ++
  (if font.style.strikeout then
    let t := font.strikeout.thickness
    [⟨column + half (font.lineHeight - t), top, t, advance⟩]
  else [])

def placeLine (l : Layout α) (font : Font α) (box : Rect α) (edge : α) (line : Line α) :
    Arrangement α :=
  if l.placement.vertical then
    let top := box.y + l.placement.flowOffset box.height line.advance
    { glyphs := placeColumn font edge top line.chars
      bars := if lt zero line.advance then columnBars font edge top line.advance else [] }
  else
    let start := box.x + l.placement.flowOffset box.width line.advance
    let baseline := edge + font.ascent
    { glyphs := placeRun font baseline start line.chars
      bars := if lt zero line.advance then runBars font start baseline line.advance else [] }

/-! ## All lines -/

/-- Where the line of an index starts on the axis across the lines. -/
def lineEdge (l : Layout α) (font : Font α) (box : Rect α) (index : Nat) : α :=
  let block := font.lineHeight * ofInt l.lines.length
  if l.placement.vertical then
    let left := box.x + l.placement.acrossOffset box.width block
    left + block - font.lineHeight * ofInt (index + 1 : Nat)
  else
    let top := box.y + l.placement.acrossOffset box.height block
    top + font.lineHeight * ofInt index

def arrangeLine (l : Layout α) (font : Font α) (box : Rect α) (index : Nat) (line : Line α) :
    Arrangement α :=
  let edge := l.lineEdge font box index
  if l.keepsSpan edge font.lineHeight then l.placeLine font box edge line else .empty

def arrange (l : Layout α) (box : Rect α) : Arrangement α :=
  match l.font with
  | none => .empty
  | some font => .concat (l.lines.mapIdx (l.arrangeLine font box))

end Layout

end Caption
