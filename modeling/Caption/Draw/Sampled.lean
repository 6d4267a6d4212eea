import Caption.Draw.Area
import Caption.Draw.Backend
import Caption.Draw.Coverage
import Caption.Draw.Hairline
import Caption.Draw.Stroke

/-!
# Drawing by samples

A backend that counts the samples of each pixel inside a shape. Upright rectangles on pictures of
moderate size and strokes of at most one pixel are drawn without samples.

## Main definitions

* `Backend.sampled`: the backend
-/
namespace Caption

/-! ## Masks -/

namespace Mask

/-- A length in 64ths, cut toward zero. -/
def sixtyFourths (x : Float32) : Int := (x * 64).toModel.toInt32.toInt

/-- The first pixel whose centre is not before an edge. -/
def edge (x : Float32) : Int := Int.fdiv (sixtyFourths x + 32) 64

/-- Columns and rows from the first up to but not including the second. -/
def ofEdges (left right top bottom : Int) : Mask :=
  ⟨fun x y => left ≤ x && x < right && top ≤ y && y < bottom⟩

/-- The pixels whose centres lie in bounds; bounds without room have none. -/
def ofBounds (b : Trace.Bounds) : Mask :=
  if Coverage.isVisible b then ofEdges (edge b.left) (edge b.right) (edge b.top) (edge b.bottom)
  else ofEdges 0 0 0 0

end Mask

namespace Sampled

/-! ## Areas -/

/-- The longest edge of a picture that is drawn in one piece. -/
def pieceEdge : Nat := 8191

/-- The corners of bounds in drawing order. -/
def corners (b : Trace.Bounds) : List Spot :=
  [⟨b.left, b.top⟩, ⟨b.right, b.top⟩, ⟨b.right, b.bottom⟩, ⟨b.left, b.bottom⟩]

def fillRect (c : NativeColor) (b : Trace.Bounds) (p : Picture) : Picture :=
  if p.width ≤ pieceEdge ∧ p.height ≤ pieceEdge then
    p.paint (.ofColor c) none (Area.ofBounds p.width p.height b).coverage
  else if Coverage.isVisible b then
    p.paint (.ofColor c) none (Coverage.ofPolygons p.width p.height [corners b]).get
  else p

def fillTrace (c : NativeColor) (mask : Option Mask) (t : Trace) (b : Trace.Bounds) (p : Picture) :
    Picture :=
  if Coverage.isVisible b then
    p.paint (.ofColor c) mask
      (Coverage.ofPolygons p.width p.height (t.contours.map Contour.polyline)).get
  else p

/-! ## Strokes -/

/-- Thin strokes are hairlines in thinned ink: the part that a width below one leaves. -/
def hairInk (c : NativeColor) (width : Float32) : Ink :=
  if width == 0 || width == 1 then .ofColor c
  else
    let part := (width * 256).toInt32.toInt
    .thinned c (Float32.ofInt (Int.fdiv (255 * part) 256) / 255)

def strokeTrace (c : NativeColor) (mask : Option Mask) (t : Trace) (width : Float32)
    (p : Picture) : Picture :=
  if width ≤ 1 then
    p.dab (hairInk c width) mask (t.contours.flatMap (Hairline.dabs p.width p.height))
  else
    p.paint (.ofColor c) mask
      (Coverage.ofPolygons p.width p.height
        (t.contours.flatMap (Stroke.polygons (width / 2)))).get

end Sampled

/-- Draws by samples; a mask does not depend on the canvas. -/
def Backend.sampled : Backend where
  mask _ := Mask.ofBounds
  fillRect := Sampled.fillRect
  fillTrace := Sampled.fillTrace
  strokeTrace := Sampled.strokeTrace
  edges_fillRect c b p := by
    unfold Sampled.fillRect
    split
    · rfl
    · split <;> rfl
  edges_fillTrace c mask t b p := by
    unfold Sampled.fillTrace
    split <;> rfl
  edges_strokeTrace c mask t width p := by
    unfold Sampled.strokeTrace
    split
    · exact p.edges_dab _ mask _
    · rfl

end Caption
