import Caption.Font.Typeface
import Caption.OpenType.Directory

/-!
# Metrics of a font

Heights, bars and advances in font units.

Heights have three homes, and fonts fill them in differently. A font may say outright that its
typographic heights are meant. Otherwise the horizontal header has them; where it has zeros,
the typographic heights step in, or else the ones for clipping.

## Main definitions

* `Directory.unitsPerEm`, `Directory.lineMetrics`
* `HorizontalMetrics`: advances and left side bearings
-/
namespace Caption

namespace OpenType

open Bytes
open Scalar (ofInt)

namespace Directory

def head? (d : Directory) : Option ByteArray := d.table? "head" >>= ofLength? 54

def header? (d : Directory) : Option ByteArray := d.table? "hhea" >>= ofLength? 36

/-- The length depends on the version. -/
def style? (d : Directory) : Option ByteArray := do
  let t ← d.table? "OS/2"
  let version ← u16? t 0
  ofLength?
    (if version = 0 then 78 else if version = 1 then 86 else if version < 5 then 96 else 100) t

/-- The second version carries names of glyphs behind the fixed part. -/
def post? (d : Directory) : Option ByteArray := do
  let t ← d.table? "post" >>= ofLength? 32
  if (← u16? t 0) = 2 then ofLength? (34 + 2 * (← u16? t 32)) t else some t

def defaultUnitsPerEm : UInt16 := 1000

def unitsPerEm (d : Directory) : UInt16 :=
  match d.head? >>= (u16? · 18) with
  | some n => n.toUInt16
  | none => defaultUnitsPerEm

/-- The number of glyphs, if the table that has it is complete. -/
def glyphCount? (d : Directory) : Option Nat := do
  let t ← d.table? "maxp" >>= ofLength? 6
  let t ← if (← u16? t 0) = 1 then ofLength? 32 t else some t
  u16? t 4

end Directory

/-- Ascent, descent and gap between lines. -/
structure Heights (α : Type) where
  ascent : α
  descent : α
  gap : α

namespace Heights

variable {α : Type} [Scalar α]

def ofHeader? (header : ByteArray) : Option (Heights α) := do
  return ⟨ofInt (← i16? header 4), ofInt (← i16? header 6), ofInt (← i16? header 8)⟩

def typographic? (style : ByteArray) : Option (Heights α) := do
  return ⟨ofInt (← i16? style 68), ofInt (← i16? style 70), ofInt (← i16? style 72)⟩

/-- The depth for clipping is given without a sign; the gap is kept. -/
def clipping? (style : ByteArray) (gap : α) : Option (Heights α) := do
  return ⟨ofInt (← u16? style 74), -ofInt (← u16? style 76), gap⟩

def zero : Heights α := ⟨Scalar.zero, Scalar.zero, Scalar.zero⟩

/-- Whether ascent and descent are both zero, as far as files can say it. -/
def isFlat? (table : ByteArray) (i : Nat) : Option Bool := do
  return (← u16? table i) = 0 ∧ (← u16? table (i + 2)) = 0

def wantsTypographic (style : ByteArray) : Bool :=
  match u16? style 62 with
  | some flags => flags.testBit 7
  | none => false

def ofTables (header? style? : Option ByteArray) : Heights α :=
  let own := (header? >>= ofHeader?).getD zero
  let flat := (header? >>= (isFlat? · 4)).getD true
  match style? with
  | none => own
  | some style =>
    if wantsTypographic style then (typographic? style).getD own
    else if !flat then own
    else if (isFlat? style 68).getD true then (clipping? style own.gap).getD own
    else (typographic? style).getD own

end Heights

def bar? {α : Type} [Scalar α] (table : ByteArray) (offset thickness : Nat) : Option (Bar α) := do
  return ⟨ofInt (← i16? table offset), ofInt (← i16? table thickness)⟩

namespace Directory

variable {α : Type} [Scalar α]

def lineMetrics (d : Directory) : LineMetrics α :=
  let h := Heights.ofTables d.header? d.style?
  { ascent := h.ascent
    descent := h.descent
    lineGap := h.gap
    underline := d.post? >>= (bar? · 8 10)
    strikeout := d.style? >>= (bar? · 28 26) }

end Directory

/-- The first `count` glyphs have an advance and a bearing each; those after them share the
last advance and have a bearing only. -/
structure HorizontalMetrics where
  count : Nat
  table : ByteArray

namespace HorizontalMetrics

def advance (m : HorizontalMetrics) (g : Nat) : Nat :=
  (u16? m.table (4 * min g (m.count - 1))).getD 0

/-- The distance from the origin to the left edge of a glyph. -/
def bearing (m : HorizontalMetrics) (g : Nat) : Int :=
  (if g < m.count then i16? m.table (4 * g + 2)
    else i16? m.table (4 * m.count + 2 * (g - m.count))).getD 0

end HorizontalMetrics

namespace Directory

variable {α : Type} [Scalar α]

def horizontal? (d : Directory) : Option HorizontalMetrics := do
  let count ← d.header? >>= (u16? · 34)
  return ⟨count, ← d.table? "hmtx" >>= ofLength? (4 * count)⟩

/-- What a glyph that the font does not count advances by: half an em. -/
def fallbackAdvance (d : Directory) : α := Scalar.half (ofInt d.unitsPerEm.toNat)

/-- Advances are zero in a font that lists none. -/
def advance (d : Directory) (g : GlyphId) : α :=
  if g.toNat < d.glyphCount?.getD 0 then
    match d.horizontal? with
    | some m => ofInt (if m.count = 0 then 0 else m.advance g.toNat)
    | none => Scalar.zero
  else d.fallbackAdvance

end Directory

end OpenType

end Caption
