import Caption.OpenType.Glyph

/-!
# Outlines of glyphs

A contour as a closed path of lines and quadratic curves. Between two points off the curve
lies one on it, halfway.
-/
namespace Caption

namespace OpenType

namespace Knot

def point (p : Knot) : Point Float := ⟨Float.ofInt p.x, Float.ofInt p.y⟩

def middle (p q : Knot) : Point Float :=
  ⟨(Float.ofInt p.x + Float.ofInt q.x) / 2, (Float.ofInt p.y + Float.ofInt q.y) / 2⟩

end Knot

namespace Contour

/-- The steps through the rest of a contour and back to its start. The first argument is a
point off the curve that waits for the end of its arc. -/
def walk (start : Point Float) : Option Knot → Contour → Path Float
  | none, [] => [.close]
  | some c, [] => [.quad c.point start, .close]
  | none, p :: ps =>
    if p.onCurve then .line p.point :: walk start none ps else walk start (some p) ps
  | some c, p :: ps =>
    if p.onCurve then .quad c.point p.point :: walk start none ps
    else .quad c.point (c.middle p) :: walk start (some p) ps

/-- Where the pen is put down, and the points it then passes. A contour that begins off the
curve is entered at its last point, or halfway between last and first. -/
def entry (first : Knot) (rest : Contour) : Point Float × Contour :=
  if first.onCurve then (first.point, rest)
  else
    let last := (first :: rest).getLast (List.cons_ne_nil first rest)
    if last.onCurve then (last.point, (first :: rest).dropLast)
    else (last.middle first, first :: rest)

def path : Contour → Path Float
  | [] => []
  | first :: rest =>
    let (start, passed) := entry first rest
    .move start :: walk start none passed

end Contour

/-- A glyph without contours has no outline, and neither has one that cannot be read. -/
def GlyphTable.outline? (t : GlyphTable) (g : GlyphId) : Option (Path Float) := do
  let s ← t.shape? g.toNat
  match (s.map (·.translate (-s.origin) 0)).contours.flatMap Contour.path with
  | [] => none
  | path => some path

end OpenType

end Caption
