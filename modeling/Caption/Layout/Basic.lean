import Caption.Canvas
import Caption.Layout.Line
import Caption.Layout.Placement

/-!
# Layout

A caption is measured before it is drawn: its lines, the box they fill, the box they are
drawn in and the canvas that holds it. A canvas follows the text unless the extents fix it.

## Main definitions

* `Layout`: the result
* `Layout.compute`: measures a state
* `placeInBox`: where a block of lines lies in a fixed box
-/
namespace Caption

variable {α : Type} [Scalar α]

open Scalar

structure Layout (α : Type) where
  placement : Placement
  lines : List (Line α)
  /-- What the background fills if not the whole canvas. -/
  boundingBox : Rect α
  /-- What the lines are placed in. -/
  drawBox : Rect α
  canvas : Canvas
  /-- What wrapped text is kept within. -/
  clip : Option (Rect α)
  font : Option (Font α)

/-- Added before a measured length is cut to whole pixels. -/
def pixelSlack : α := decimal 1 4

def wholePixels (length : α) : Int64 := whole (length + pixelSlack)

/-- Where a block of a size lies in a box at the origin, cut to the box. -/
def placeInBox (p : Placement) (size box : Size α) : Rect α :=
  let x := if p.vertical then p.acrossOffset box.width size.width
    else p.flowOffset box.width size.width
  let y := if p.vertical then p.flowOffset box.height size.height
    else p.acrossOffset box.height size.height
  let left := larger x zero
  let top := larger y zero
  let right := smaller (x + size.width) box.width
  let bottom := smaller (y + size.height) box.height
  ⟨left, top, larger (right - left) zero, larger (bottom - top) zero⟩

/-- A length on the axis across the lines is at least the font's size: the length and its
whole pixels. -/
def floorToSize (size : Int32) (length : α) : α × Int64 :=
  let least : α := ofInt size.toInt
  if lt length least then (least, size.toInt64) else (length, wholePixels length)

namespace Layout

def hasText (l : Layout α) : Bool := l.font.isSome && !l.lines.isEmpty

/-- Whether the caption is wrapped to a fixed box. -/
def isFixed (st : State) : Bool := st.extents && st.wrap

/-- The outline's width. -/
def insetOf (st : State) : α := ofInt st.inset.toNat

/-- The box that is left for wrapped text beside the outline. -/
def wrapBox (st : State) : Size α :=
  let edge (n : UInt32) : α := larger (ofInt n.toNat - insetOf st) zero
  ⟨edge st.extentsWidth, edge st.extentsHeight⟩

/-- The limit of wrapped lines. -/
def wrapLimit (st : State) : α :=
  if st.vertical then (wrapBox st).height else (wrapBox st).width

/-- The lines of a text, wrapped where a segmenter cuts it. -/
def linesOf (cut : Segmenter) (st : State) (font : Font α) : List (Line α) :=
  let limit := if isFixed st then some (wrapLimit st) else none
  breakLines (font.flow st.vertical) limit st.text cut

/-- The box that lines fill, before it is raised to the font's size. -/
def boxOf (st : State) (font : Font α) (lines : List (Line α)) : Rect α :=
  let size := blockSize font st.vertical lines
  if isFixed st then placeInBox (.ofState st) size (wrapBox st)
  else ⟨zero, zero, size.width + insetOf st, size.height + insetOf st⟩

/-- The box raised to the font's size across the lines, and its whole pixels. -/
def measureBox (st : State) (box : Rect α) : Rect α × Int64 × Int64 :=
  if st.vertical then
    let (width, cx) := floorToSize st.font.size box.width
    ({ box with width := width }, cx, wholePixels box.height)
  else
    let (height, cy) := floorToSize st.font.size box.height
    ({ box with height := height }, wholePixels box.width, cy)

/-- What the extents make of a measured size: they fix it for wrapped text; for other text
they raise the width or, if it is wide enough, the height. -/
def applyExtents (st : State) (cx cy : Int64) : Int64 × Int64 :=
  let width := st.extentsWidth.toUInt64.toInt64
  let height := st.extentsHeight.toUInt64.toInt64
  if !st.extents then (cx, cy)
  else if st.wrap then (width, height)
  else if cx < width then (width, cy)
  else if cy < height then (cx, height)
  else (cx, cy)

/-- Half of the outline stands before the text. -/
def drawBoxOf (st : State) (box : Rect α) : Rect α :=
  if st.outline then
    let d : α := half (ofInt st.outlineSize.toNat)
    box.translate d d
  else box

/-- Measures a state. Without a font or a text only the background is sized. There is no layout
if the canvas that is asked for cannot be rounded. -/
def compute (cut : Segmenter) (st : State) (font : Option (Font α)) : Checked (Layout α) := do
  let font := if st.text = [] then none else font
  let lines := match font with
    | some f => linesOf cut st f
    | none => []
  let content := match font with
    | some f => boxOf st f lines
    | none => Rect.zero
  let (box, cx, cy) := measureBox st content
  let (cx, cy) := applyExtents st cx cy
  let canvas ← Canvas.quantized cx cy
  let drawBox := drawBoxOf st box
  return {
    placement := .ofState st
    lines := lines
    boundingBox := box
    drawBox := drawBox
    canvas := canvas
    clip := if isFixed st then some drawBox else none
    font := font }

end Layout

/-- How the log shows a rectangle. -/
def Rect.logText (r : Rect Float32) : String :=
  "RectF \x7b x: " ++ logNumber r.x ++ ", y: " ++ logNumber r.y ++ ", width: " ++
    logNumber r.width ++ ", height: " ++ logNumber r.height ++ " \x7d"

/-- What the log says about a layout. -/
def Layout.logText (l : Layout Float32) : String :=
  "Layout: " ++ toString l.lines.length ++ " lines, box " ++ l.boundingBox.logText ++
    ", canvas " ++ toString l.canvas.width ++ "x" ++ toString l.canvas.height

/-- Measures a state and reports the result, if there is one. -/
def layOut (cut : Segmenter) (st : State) (font : Option (Font Float32)) :
    Logged (Checked (Layout Float32)) := do
  let measured := Layout.compute cut st font
  if let .ok l := measured then Logged.detail l.logText
  return measured

end Caption
