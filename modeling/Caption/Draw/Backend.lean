import Caption.Canvas
import Caption.Draw.Contour
import Caption.Draw.Picture

/-!
# Backends

What puts shapes on a picture. Which pixels a shape covers, and by how much, is the backend's own
affair; that a picture keeps its edges is part of what a backend is.
-/
namespace Caption

structure Backend where
  /-- The pixels of a canvas that bounds let through. -/
  mask : Canvas → Trace.Bounds → Mask
  fillRect : NativeColor → Trace.Bounds → Picture → Picture
  /-- Fills the inside of a trace, given its bounds. -/
  fillTrace : NativeColor → Option Mask → Trace → Trace.Bounds → Picture → Picture
  /-- Draws along a trace with a round pen of a width. -/
  strokeTrace : NativeColor → Option Mask → Trace → Float32 → Picture → Picture
  edges_fillRect : ∀ c b p, (fillRect c b p).edges = p.edges
  edges_fillTrace : ∀ c mask t b p, (fillTrace c mask t b p).edges = p.edges
  edges_strokeTrace : ∀ c mask t width p, (strokeTrace c mask t width p).edges = p.edges

attribute [simp] Backend.edges_fillRect Backend.edges_fillTrace Backend.edges_strokeTrace

end Caption
