import Caption.Draw.Backend
import Caption.Error
import Caption.Layout.Arrangement
import Caption.State

/-!
# Drawing a caption

The background first, then the outline, the letters and, where a bold face is missing, a thin
outline in the letters' own colour. Letters and bars are one path. A step that cannot be done
is reported and left out. There is always a picture, unless its bytes cannot be counted.

## Main definitions

* `textPath`: the glyphs and bars of an arrangement on the canvas
* `Plan`: what is drawn of the text, decided before anything is drawn
* `rasterize`: the picture of a state and its layout
-/
namespace Caption

/-! ## Background -/

/-- A rectangle that can be drawn: finite, and no edge before its opposite. -/
def drawableRect? (r : Rect Float32) : Except DrawError Trace.Bounds :=
  match Trace.Bounds.ofEdges? r.x r.y r.right r.bottom with
  | some b => .ok b
  | none => .error (.invalidRect r.logText)

/-- Whether the canvas is larger than the text's box. -/
def growsPast (l : Layout Float32) : Bool :=
  l.boundingBox.width < Float32.ofNat l.canvas.width.toNat ||
    l.boundingBox.height < Float32.ofNat l.canvas.height.toNat

/-- What a failed step of a named caption reports. -/
def failure (name step : String) (cause : String) : Logged Unit :=
  Logged.warn ("[" ++ name ++ "] " ++ step ++ ": call failed (" ++ cause ++ ")")

/-- The background: the whole canvas, or the text's box on a canvas that grew past it. -/
def drawBackground (d : Backend) (name : String) (st : State) (l : Layout Float32) :
    Logged Picture :=
  let width := l.canvas.width.toNat
  let height := l.canvas.height.toNat
  if growsPast l && !st.extents then
    let clear := Picture.filled width height .clear
    if l.boundingBox.isEmpty then pure clear
    else
      match drawableRect? l.boundingBox with
      | .ok b => pure (d.fillRect st.backgroundColor b clear)
      | .error e => do
        failure name "fill_rect" e.message
        return clear
  else pure (.filled width height (Ink.ofColor st.backgroundColor).color)

/-! ## Text -/

/-- The slant of letters that stand in for an italic face. -/
def slant : Float32 := 0.2

/-- The width of the outline that stands in for a bold face, per pixel of the font's size. -/
def boldPart : Float32 := 1.0 / 24.0

/-- A glyph's outline on the canvas, where `y` grows downwards. -/
def placeOutline (font : Font Float32) (g : PlacedGlyph Float32) (outline : Path Float) :
    Path Float :=
  let scale := font.scale.toFloat
  let skew := if font.fakesItalic then slant.toFloat else 0
  outline.map (PathStep.map fun p =>
    ⟨scale * p.x + skew * scale * p.y + g.x.toFloat, 0 * p.x + -scale * p.y + g.baseline.toFloat⟩)

def barPath (r : Rect Float32) : Path Float :=
  let left := r.x.toFloat
  let top := r.y.toFloat
  let right := r.right.toFloat
  let bottom := r.bottom.toFloat
  [.move ⟨left, top⟩, .line ⟨right, top⟩, .line ⟨right, bottom⟩, .line ⟨left, bottom⟩, .close]

/-- The path of all letters and bars. -/
def textPath (font : Font Float32) (a : Arrangement Float32) : Path Float :=
  (a.glyphs.flatMap fun g =>
    match font.face.outline g.glyph with
    | some outline => placeOutline font g outline
    | none => []) ++ a.bars.flatMap barPath

/-- The path on the canvas in single precision. -/
def canvasPath (path : Path Float) : Path Float32 :=
  path.map (PathStep.map fun p => ⟨p.x.toFloat32, p.y.toFloat32⟩)

/-- What is drawn of a text. -/
inductive Plan where
  /-- There is nothing to see. -/
  | blank
  /-- The clip leaves no room. -/
  | clipped
  | draw (trace : Trace) (bounds : Trace.Bounds) (mask : Option Mask)

/-- Decides what is drawn, or why nothing can be. -/
def planText (d : Backend) (l : Layout Float32) (font : Font Float32) :
    Except DrawError Plan := do
  let path := textPath font (l.arrange l.drawBox)
  if path.isEmpty then return .blank
  let trace := Trace.ofPath (canvasPath path)
  match trace.drawable? with
  | none => .error .noPath
  | some bounds =>
    match l.clip with
    | none => return .draw trace bounds none
    | some clip =>
      if clip.isEmpty then return .clipped
      let b ← drawableRect? clip
      return .draw trace bounds (some (d.mask l.canvas b))

/-- Draws a text over a background. -/
def drawPlan (d : Backend) (st : State) (font : Font Float32) (plan : Plan) (p : Picture) :
    Picture :=
  match plan with
  | .blank => p
  | .clipped => p
  | .draw trace bounds mask =>
    let p := if st.outline ∧ st.outlineSize ≠ 0 then
        d.strokeTrace st.strokeColor mask trace (Float32.ofNat st.outlineSize.toNat) p
      else p
    let p := d.fillTrace st.fillColor mask trace bounds p
    if font.fakesBold then d.strokeTrace st.fillColor mask trace (font.size * boldPart) p else p

/-- The text over a background; if it cannot be drawn, the background alone. -/
def drawText (d : Backend) (name : String) (st : State) (l : Layout Float32) (p : Picture) :
    Logged Picture :=
  match l.font with
  | none => pure p
  | some font =>
    if !l.hasText then pure p
    else
      match planText d l font with
      | .ok .blank => do
        Logged.detail ("[" ++ name ++ "] nothing visible to draw")
        return p
      | .ok plan => pure (drawPlan d st font plan p)
      | .error e => do
        failure name "draw_text" e.message
        return p

/-! ## The picture -/

/-- Whether a picture of this size can be drawn: no edge is zero and the bytes of a row are
counted in 31 bits. -/
def canDraw (c : Canvas) : Bool :=
  c.width ≠ 0 && c.height ≠ 0 && c.width.toNat * 4 < 0x80000000

/-- The picture of a state as it is laid out, blank if it cannot be drawn on. -/
def rasterize (d : Backend) (name : String) (st : State) (l : Layout Float32) :
    Logged (Checked Pixels) :=
  if canDraw l.canvas then do
    let background ← drawBackground d name st l
    let p ← drawText d name st l background
    return .ok p.toPixels
  else do
    failure name "Pixmap::new" (DrawError.noPicture l.canvas.width l.canvas.height).message
    return Pixels.blank l.canvas

end Caption
