import Caption.Proofs.Layout.Request
import Caption.Proofs.Layout.Unsigned

/-!
# Where the sign of a zero does not matter

A box without an outline may start at the negative zero only if it has no extent there, since what
is placed in at least one pixel never does. The box may then be raised to the font's size. So
either the sign of a zero changes no place in the box, or the box is empty and, as the clip of
wrapped text, hides all of it. An outline of no width adds the positive zero to where the box
starts and changes nothing else.

## Main definitions

* `Settled`: a start and an extent that place the same with either zero
* `Grounded`: a start and an extent as they come out of cutting to a room
* `Layout.SignFree`: no sign of a zero decides what is drawn of a layout

## Main statements

* `Layout.arrange_unsigned`: arrangements in settled boxes are equal
* `Layout.signFree_compute`: layouts without an outline
* `Layout.compute_of_outlineSize_eq_zero`: layouts with an outline of no width
-/
namespace Caption

open Scalar Single

/-! ## Places that are settled -/

/-- A start and an extent that place the same whatever the sign of the start: it is not the
negative zero, or there is at least one pixel of room. -/
def Settled (start extent : Float32) : Prop :=
  start ≠ -zero ∨ AtLeast (-23) extent.toModel.unpack

namespace Settled

variable {start extent : Float32} (h : Settled start extent)
include h

theorem add_offset (a : Anchor) (used : Float32) :
    Single.unsigned start + a.offset extent used = start + a.offset extent used := by
  rcases h with hstart | hextent
  · rw [unsigned_of_ne hstart]
  · exact unsigned_add_of_ne start (offset_ne a hextent used)

theorem add_acrossOffset (p : Placement) (used : Float32) :
    Single.unsigned start + p.acrossOffset extent used = start + p.acrossOffset extent used := by
  unfold Placement.acrossOffset
  split <;> exact h.add_offset _ used

theorem add_extent : Single.unsigned start + extent = start + extent := by
  rcases h with hstart | hextent
  · rw [unsigned_of_ne hstart]
  · exact unsigned_add_of_ne start (ne_neg_zero_of_atLeast hextent)

end Settled

/-- Both axes are settled. -/
structure Rect.Settled (r : Rect Float32) : Prop where
  x : Caption.Settled r.x r.width
  y : Caption.Settled r.y r.height

namespace Layout

variable (l : Layout Float32) (font : Font Float32) {box : Rect Float32}

theorem lineEdge_unsigned (h : box.Settled) (index : Nat) :
    l.unsigned.lineEdge font box.unsigned index = l.lineEdge font box index := by
  have hx (used : Float32) : box.unsigned.x + l.placement.acrossOffset box.width used =
      box.x + l.placement.acrossOffset box.width used := h.x.add_acrossOffset _ _
  have hy (used : Float32) : box.unsigned.y + l.placement.acrossOffset box.height used =
      box.y + l.placement.acrossOffset box.height used := h.y.add_acrossOffset _ _
  unfold lineEdge
  dsimp only
  exact if_congr Iff.rfl (by rw [← hx]; rfl) (by rw [← hy]; rfl)

theorem placeLine_unsigned (h : box.Settled) (edge : Float32) (line : Line Float32) :
    l.unsigned.placeLine font box.unsigned edge line = l.placeLine font box edge line := by
  have hx : box.unsigned.x + l.placement.flowOffset box.width line.advance =
      box.x + l.placement.flowOffset box.width line.advance := h.x.add_offset _ _
  have hy : box.unsigned.y + l.placement.flowOffset box.height line.advance =
      box.y + l.placement.flowOffset box.height line.advance := h.y.add_offset _ _
  unfold placeLine
  dsimp only
  exact if_congr Iff.rfl (by rw [← hy]; rfl) (by rw [← hx]; rfl)

theorem arrange_unsigned (h : box.Settled) :
    l.unsigned.arrange box.unsigned = l.arrange box := by
  have hline (font : Font Float32) :
      l.unsigned.arrangeLine font box.unsigned = l.arrangeLine font box := by
    funext index line
    unfold arrangeLine
    dsimp only
    rw [l.lineEdge_unsigned font h, l.placeLine_unsigned font h, l.keepsSpan_unsigned rfl]
  have hfont : l.unsigned.font = l.font := rfl
  have hlines : l.unsigned.lines = l.lines := rfl
  unfold arrange
  simp only [hfont, hlines, hline]

end Layout

/-! ## Boxes without an outline -/

/-- A room without extent or of at least one pixel. -/
def Roomy (extent : Float32) : Prop := extent = zero ∨ AtLeast (-23) extent.toModel.unpack

theorem roomy_edge (n : Nat) : Roomy (larger (ofInt n - zero) zero) := by
  rw [Single.sub_zero]
  rcases Nat.eq_zero_or_pos n with rfl | hn
  · exact .inl (by decide)
  · have hatLeast := atLeast_ofInt (Int.natCast_pos.2 hn)
    rw [larger_of_atLeast hatLeast]
    exact .inr hatLeast

/-- The negative zero starts nothing but what has no extent. -/
def Grounded (start extent : Float32) : Prop := start = -zero → le extent zero = true

theorem grounded_of_ne {start : Float32} (h : start ≠ -zero) (extent : Float32) :
    Grounded start extent :=
  fun hstart => absurd hstart h

/-- What is placed in a room and cut to it. -/
theorem grounded_cut (a : Anchor) {available : Float32} (h : Roomy available) (used : Float32) :
    let start := a.offset available used
    Grounded (larger start zero)
      (larger (smaller (start + used) available - larger start zero) zero) := by
  intro start
  rcases h with rfl | h
  · intro hstart
    rw [hstart, sub_neg_zero]
    refine larger_zero_le ?_
    rw [le_unsigned_left]
    exact smaller_zero_le _
  · exact grounded_of_ne (larger_zero_ne (offset_ne a h used)) _

namespace Grounded

variable {start extent : Float32} (h : Grounded start extent)
include h

theorem settled_or_le : Settled start extent ∨ le extent zero = true := by
  by_cases hstart : start = -zero
  · exact .inr (h hstart)
  · exact .inl (.inl hstart)

/-- Also where the extent is raised to the font's size. -/
theorem settled_or_le_floorToSize {size : Int32} (hsize : 0 ≤ size.toInt) :
    Settled start (floorToSize size extent).1 ∨ le (floorToSize size extent).1 zero = true := by
  rw [floorToSize_eq]
  split
  next =>
    rcases Int.lt_or_eq_of_le hsize with hpos | hzero
    · exact .inl (.inr (atLeast_ofInt hpos))
    · have hnothing : le (ofInt 0 : Float32) zero = true := by decide
      exact .inr (hzero ▸ hnothing)
  next => exact h.settled_or_le

end Grounded

namespace Layout

variable (cut : Segmenter) {st : State} (font : Option (Font Float32))

theorem insetOf_of_not_outline (h : st.outline = false) : (insetOf st : Float32) = zero := by
  simp only [insetOf, State.inset, h, Bool.false_eq_true, if_false]
  rfl

theorem grounded_placeInBox (p : Placement) (size box : Size Float32) (hwidth : Roomy box.width)
    (hheight : Roomy box.height) :
    Grounded (placeInBox p size box).x (placeInBox p size box).width ∧
      Grounded (placeInBox p size box).y (placeInBox p size box).height := by
  have hacross {available : Float32} (h : Roomy available) (used : Float32) :
      Grounded (larger (p.acrossOffset available used) zero)
        (larger (smaller (p.acrossOffset available used + used) available -
          larger (p.acrossOffset available used) zero) zero) := by
    unfold Placement.acrossOffset
    split <;> exact grounded_cut _ h used
  unfold placeInBox
  dsimp only
  split
  · exact ⟨hacross hwidth _, grounded_cut _ hheight _⟩
  · exact ⟨grounded_cut _ hwidth _, hacross hheight _⟩

theorem grounded_boxOf (h : st.outline = false) (font : Font Float32)
    (lines : List (Line Float32)) :
    Grounded (boxOf st font lines).x (boxOf st font lines).width ∧
      Grounded (boxOf st font lines).y (boxOf st font lines).height := by
  have hroomy (n : UInt32) : Roomy (larger (ofInt n.toNat - insetOf st) zero) := by
    rw [insetOf_of_not_outline h]
    exact roomy_edge n.toNat
  unfold boxOf
  dsimp only
  split
  · exact grounded_placeInBox _ _ _ (hroomy _) (hroomy _)
  · exact ⟨grounded_of_ne zero_ne _, grounded_of_ne zero_ne _⟩

theorem grounded_contentBox (h : st.outline = false) :
    Grounded (contentBox cut st font).x (contentBox cut st font).width ∧
      Grounded (contentBox cut st font).y (contentBox cut st font).height := by
  unfold contentBox
  split
  · exact grounded_boxOf h _ _
  · exact ⟨grounded_of_ne zero_ne _, grounded_of_ne zero_ne _⟩

theorem settled_or_empty_measureBox (hsize : 0 ≤ st.font.size.toInt) {box : Rect Float32}
    (hx : Grounded box.x box.width) (hy : Grounded box.y box.height) :
    (measureBox st box).1.Settled ∨ (measureBox st box).1.isEmpty = true := by
  have haxes : (Settled (measureBox st box).1.x (measureBox st box).1.width ∨
        le (measureBox st box).1.width zero = true) ∧
      (Settled (measureBox st box).1.y (measureBox st box).1.height ∨
        le (measureBox st box).1.height zero = true) := by
    unfold measureBox
    split
    · exact ⟨hx.settled_or_le_floorToSize hsize, hy.settled_or_le⟩
    · exact ⟨hx.settled_or_le, hy.settled_or_le_floorToSize hsize⟩
  obtain ⟨hwidth | hwidth, hheight | hheight⟩ := haxes
  · exact .inl ⟨hwidth, hheight⟩
  · exact .inr (Bool.or_eq_true_iff.2 (.inr hheight))
  all_goals exact .inr (Bool.or_eq_true_iff.2 (.inl hwidth))

/-- What is drawn of a layout does not depend on the sign of a zero: its places are settled, or
nothing is drawn. -/
def SignFree (l : Layout Float32) : Prop :=
  (l.drawBox.Settled ∧ ∀ clip, l.clip = some clip → clip = l.drawBox) ∨
    ∃ clip, l.clip = some clip ∧ clip.isEmpty = true

theorem start_contentBox (h : isFixed st = false) :
    (contentBox cut st font).x = zero ∧ (contentBox cut st font).y = zero := by
  unfold contentBox
  split
  · simp only [boxOf, h, Bool.false_eq_true, if_false, and_self]
  · exact ⟨rfl, rfl⟩

variable (st) in
theorem start_measureBox (box : Rect Float32) :
    (measureBox st box).1.x = box.x ∧ (measureBox st box).1.y = box.y := by
  unfold measureBox
  split <;> exact ⟨rfl, rfl⟩

variable {cut font} in
theorem signFree_compute {l : Layout Float32} (hl : compute cut st font = .ok l)
    (h : st.outline = false) (hsize : 0 ≤ st.font.size.toInt) : l.SignFree := by
  have hbox : l.drawBox = measuredBox cut st font := by
    rw [eq_onCanvas hl]
    exact if_neg (by simp [h])
  have hclip : l.clip = if isFixed st then some l.drawBox else none := by
    rw [eq_onCanvas hl]
    rfl
  cases hfixed : isFixed st with
  | false =>
    obtain ⟨hx, hy⟩ := start_measureBox st (contentBox cut st font)
    obtain ⟨hx', hy'⟩ := start_contentBox cut font hfixed
    rw [hfixed, if_neg Bool.false_ne_true] at hclip
    refine .inl ⟨⟨.inl ?_, .inl ?_⟩, fun clip hsome => ?_⟩
    · rw [hbox, measuredBox, hx, hx']
      exact zero_ne
    · rw [hbox, measuredBox, hy, hy']
      exact zero_ne
    · rw [hclip] at hsome
      cases hsome
  | true =>
    obtain ⟨hgroundedX, hgroundedY⟩ := grounded_contentBox cut font h
    rw [hfixed, if_pos rfl] at hclip
    rcases settled_or_empty_measureBox hsize hgroundedX hgroundedY with hsettled | hempty
    · refine .inl ⟨hbox ▸ hsettled, fun clip hsome => ?_⟩
      rw [hclip] at hsome
      exact (Option.some.inj hsome).symm
    · exact .inr ⟨_, hclip, hbox ▸ hempty⟩

section NoWidth

variable (st) (h : st.outlineSize = 0)
include h

theorem insetOf_of_outlineSize_eq_zero :
    (insetOf { st with outline := true } : Float32) = insetOf { st with outline := false } := by
  simp only [insetOf, State.inset, h, ite_self]

theorem linesOf_of_outlineSize_eq_zero (font : Font Float32) :
    linesOf cut { st with outline := true } font =
      linesOf cut { st with outline := false } font := by
  unfold linesOf wrapLimit wrapBox
  rw [insetOf_of_outlineSize_eq_zero st h]
  rfl

theorem boxOf_of_outlineSize_eq_zero (font : Font Float32) :
    boxOf { st with outline := true } font = boxOf { st with outline := false } font := by
  unfold boxOf wrapBox
  rw [insetOf_of_outlineSize_eq_zero st h]
  rfl

theorem drawBoxOf_of_outlineSize_eq_zero (box : Rect Float32) :
    drawBoxOf { st with outline := true } box = box.unsigned := by
  have hhalf : half (ofInt (0 : UInt32).toNat : Float32) = zero := by decide
  simp only [drawBoxOf, if_true, h, hhalf, Rect.translate, add_zero_eq]
  rfl

/-- An outline of no width turns the zeros of places positive. -/
theorem compute_of_outlineSize_eq_zero :
    compute cut { st with outline := true } font =
      (compute cut { st with outline := false } font).map Layout.unsigned := by
  have hlines : linesOf cut { st with outline := true } =
      linesOf cut { st with outline := false } :=
    funext (linesOf_of_outlineSize_eq_zero cut st h)
  have hbox : boxOf { st with outline := true } = boxOf { st with outline := false } :=
    funext (boxOf_of_outlineSize_eq_zero st h)
  have hrequested : requestedEdges cut { st with outline := true } font =
      requestedEdges cut { st with outline := false } font := by
    unfold requestedEdges contentBox usedFont
    rw [hlines, hbox]
    rfl
  have hlayout (canvas : Canvas) : onCanvas cut { st with outline := true } font canvas =
      (onCanvas cut { st with outline := false } font canvas).unsigned := by
    have hmeasured : measuredBox cut { st with outline := true } font =
        measuredBox cut { st with outline := false } font := by
      unfold measuredBox contentBox usedFont
      rw [hlines, hbox]
      rfl
    unfold onCanvas usedLines Layout.unsigned
    rw [hmeasured, hlines, drawBoxOf_of_outlineSize_eq_zero st h]
    congr 1
    change (if isFixed st then _ else _) = Option.map Rect.unsigned (if isFixed st then _ else _)
    split <;> rfl
  rw [compute_eq, compute_eq, hrequested]
  cases Canvas.quantized _ _ with
  | error => rfl
  | ok canvas => exact congrArg Except.ok (hlayout canvas)

end NoWidth

end Layout

end Caption
