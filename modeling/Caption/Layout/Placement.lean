import Caption.State
import Caption.Scalar

/-!
# Placement

Where text stands in its box: along the direction in which it is read and across it. Text
that runs downwards has its columns from right to left, so there the two settings change
places and `left` means the far side.

## Main definitions

* `Anchor.offset`: where a run starts in a space
* `Placement`: direction and anchors of a text
-/
namespace Caption

/-- A position in reading order. -/
inductive Anchor where
  | near | center | far
deriving DecidableEq, Repr, Inhabited

namespace Anchor

/-- Negative when the run is longer than the space. -/
def offset {α : Type} [Scalar α] (a : Anchor) (available used : α) : α :=
  match a with
  | near => Scalar.zero
  | center => Scalar.half (available - used)
  | far => available - used

/-- The same position seen from the other end. -/
def reversed : Anchor → Anchor
  | near => far
  | center => center
  | far => near

def ofHorizontal : HorizontalAlign → Anchor
  | .left => near
  | .center => center
  | .right => far

def ofVertical : VerticalAlign → Anchor
  | .top => near
  | .center => center
  | .bottom => far

end Anchor

structure Placement where
  vertical : Bool
  /-- Of each line in the direction of reading. -/
  flow : Anchor
  /-- Of the block of lines across it. -/
  across : Anchor
deriving DecidableEq, Repr

namespace Placement

def ofAligns (align : HorizontalAlign) (valign : VerticalAlign) (vertical : Bool) : Placement :=
  if vertical then ⟨true, .ofVertical valign, (Anchor.ofHorizontal align).reversed⟩
  else ⟨false, .ofHorizontal align, .ofVertical valign⟩

def ofState (st : State) : Placement := ofAligns st.align st.valign st.vertical

variable {α : Type} [Scalar α]

def flowOffset (p : Placement) (available used : α) : α := p.flow.offset available used

/-- The left or top edge of the block of lines. -/
def acrossOffset (p : Placement) (available used : α) : α :=
  if p.vertical then p.across.reversed.offset available used else p.across.offset available used

end Placement

end Caption
