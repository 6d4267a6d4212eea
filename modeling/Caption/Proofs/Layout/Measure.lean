import Mathlib.Algebra.Order.Field.Rat
import Mathlib.Tactic.FieldSimp
import Mathlib.Tactic.Linarith
import Mathlib.Tactic.Positivity
import Mathlib.Tactic.Ring
import Caption.Proofs.Layout.OnCanvas

/-!
# Exact measures

Measuring read over rational numbers: the length of a text adds up over its parts, the longest
line is one of the lines, a cell is as high as its font's size, and a text that is not wrapped
fills a box at the origin that both its extents and the outline's width go into.

## Main definitions

* `Font.Regular`: a font whose numbers make sense
* `Placement.along`, `Placement.beside`: a box measured along its lines and across them

## Main statements

* `Font.Regular.cellHeight_eq`: the height of a cell
* `longest_attained`: some line is the longest
* `Layout.along_boundingBox`, `Layout.beside_boundingBox`: the box of a text that is not wrapped
-/
namespace Caption

open Scalar

/-! ## Rational scalars -/

namespace Scalar

@[simp] theorem zero_rat : (zero : Rat) = 0 := rfl

@[simp] theorem half_rat (x : Rat) : half x = x / 2 := rfl

@[simp] theorem ofInt_rat (n : Int) : (ofInt n : Rat) = n := rfl

@[simp] theorem lt_rat (a b : Rat) : lt a b = decide (a < b) := rfl

@[simp] theorem larger_rat (a b : Rat) : larger a b = max a b := (max_def a b).symm

end Scalar

/-! ## Lengths -/

section Measure

variable {advance : Char → Rat}

@[simp] theorem measure_nil : measure advance [] = 0 := rfl

theorem measure_append (s t : List Char) :
    measure advance (s ++ t) = measure advance s + measure advance t := by
  induction t using List.reverseRecOn with
  | nil => simp
  | append_singleton t c ih =>
    have hlast (u : List Char) : measure advance (u ++ [c]) = measure advance u + advance c :=
      List.foldl_concat _ _ _ _
    rw [← List.append_assoc, hlast, hlast, ih, add_assoc]

@[simp] theorem measure_singleton (c : Char) : measure advance [c] = advance c := zero_add _

theorem measure_cons (c : Char) (s : List Char) :
    measure advance (c :: s) = advance c + measure advance s := by
  rw [← List.singleton_append, measure_append, measure_singleton]

theorem measure_nonneg (h : ∀ c, 0 ≤ advance c) (s : List Char) : 0 ≤ measure advance s := by
  induction s with
  | nil => exact le_rfl
  | cons c s ih =>
    rw [measure_cons]
    exact add_nonneg (h c) ih

/-- The end of a character is no farther than the end of its line. -/
theorem measure_prefix_le (h : ∀ c, 0 ≤ advance c) (pre : List Char) (c : Char)
    (post : List Char) :
    measure advance pre + advance c ≤ measure advance (pre ++ c :: post) := by
  have hpost := measure_nonneg h post
  rw [measure_append, measure_cons]
  linarith

theorem measure_const (x : Rat) (s : List Char) : measure (fun _ => x) s = x * s.length := by
  induction s with
  | nil => simp
  | cons c s ih =>
    rw [measure_cons, ih, List.length_cons]
    push_cast
    ring

end Measure

theorem longest_concat (lines : List (Line Rat)) (line : Line Rat) :
    longest (lines ++ [line]) = max (longest lines) line.advance := by
  rw [longest, List.foldl_concat, larger_rat]
  rfl

theorem advance_le_longest {lines : List (Line Rat)} {line : Line Rat} (h : line ∈ lines) :
    line.advance ≤ longest lines := by
  induction lines using List.reverseRecOn with
  | nil => cases h
  | append_singleton lines last ih =>
    rw [longest_concat]
    rcases List.mem_append.1 h with h | h
    · exact le_max_of_le_left (ih h)
    · obtain rfl := List.mem_singleton.1 h
      exact le_max_right _ _

/-- Unless all lines are empty, one of them is as long as the longest. -/
theorem longest_attained (lines : List (Line Rat)) :
    longest lines = 0 ∨ ∃ line ∈ lines, line.advance = longest lines := by
  induction lines using List.reverseRecOn with
  | nil => exact .inl rfl
  | append_singleton lines last ih =>
    rw [longest_concat]
    rcases le_total (longest lines) last.advance with hle | hle
    · exact .inr ⟨last, by simp, (max_eq_right hle).symm⟩
    · rw [max_eq_left hle]
      rcases ih with hzero | ⟨line, hmem, hline⟩
      · exact .inl hzero
      · exact .inr ⟨line, List.mem_append_left _ hmem, hline⟩

/-! ## Fonts -/

namespace Font

theorem cellUnits_eq {f : Font Rat} (h : f.face.metrics.descent < f.face.metrics.ascent) :
    f.cellUnits = f.face.metrics.ascent - f.face.metrics.descent := by
  have hcell : 0 < f.face.metrics.ascent - f.face.metrics.descent := sub_pos.2 h
  exact if_pos (decide_eq_true hcell)

/-- The size is positive, the descent lies below the ascent, nothing moves the pen back and, in
text that runs downwards, no cell is wider than its column. -/
structure Regular (f : Font Rat) (vertical : Bool) : Prop where
  size_pos : 0 < f.size
  descent_lt_ascent : f.face.metrics.descent < f.face.metrics.ascent
  lineGap_nonneg : 0 ≤ f.face.metrics.lineGap
  advance_nonneg : ∀ c, 0 ≤ f.advance c
  advance_le : vertical = true → ∀ c, f.advance c ≤ f.lineHeight

namespace Regular

variable {f : Font Rat} {vertical : Bool}

theorem scale_pos (h : f.Regular vertical) : 0 < f.scale := by
  have hcell : 0 < f.cellUnits := cellUnits_eq h.descent_lt_ascent ▸ sub_pos.2 h.descent_lt_ascent
  exact div_pos h.size_pos hcell

/-- A size is the height of a cell. -/
theorem cellHeight_eq (h : f.Regular vertical) : f.cellHeight = f.size := by
  have hcell : f.cellUnits ≠ 0 := by
    rw [cellUnits_eq h.descent_lt_ascent]
    exact (sub_pos.2 h.descent_lt_ascent).ne'
  calc f.cellHeight
      = f.face.metrics.ascent * f.scale + -f.face.metrics.descent * f.scale := rfl
    _ = f.cellUnits * f.scale := by rw [cellUnits_eq h.descent_lt_ascent]; ring
    _ = f.cellUnits * (f.size / f.cellUnits) := rfl
    _ = f.size := mul_div_cancel₀ f.size hcell

theorem cellHeight_pos (h : f.Regular vertical) : 0 < f.cellHeight := h.cellHeight_eq ▸ h.size_pos

theorem lineHeight_eq (f : Font Rat) :
    f.lineHeight = f.cellHeight + f.face.metrics.lineGap * f.scale := by
  change (f.face.metrics.ascent - f.face.metrics.descent + f.face.metrics.lineGap) * f.scale =
    f.face.metrics.ascent * f.scale + -f.face.metrics.descent * f.scale +
      f.face.metrics.lineGap * f.scale
  ring

theorem cellHeight_le_lineHeight (h : f.Regular vertical) : f.cellHeight ≤ f.lineHeight := by
  rw [lineHeight_eq]
  exact le_add_of_nonneg_right (mul_nonneg h.lineGap_nonneg h.scale_pos.le)

theorem lineHeight_pos (h : f.Regular vertical) : 0 < f.lineHeight :=
  h.cellHeight_pos.trans_le h.cellHeight_le_lineHeight

theorem flow_nonneg (h : f.Regular vertical) (c : Char) : 0 ≤ f.flow vertical c := by
  cases vertical with
  | false => exact h.advance_nonneg c
  | true => exact h.cellHeight_pos.le

end Regular

end Font

/-! ## Boxes -/

namespace Placement

/-- The extent of a box in the direction of reading. -/
def along (p : Placement) (box : Rect Rat) : Rat := if p.vertical then box.height else box.width

/-- The extent of a box across the lines. -/
def beside (p : Placement) (box : Rect Rat) : Rat := if p.vertical then box.width else box.height

@[simp] theorem vertical_ofState (st : State) : (ofState st).vertical = st.vertical := by
  unfold ofState ofAligns
  cases st.vertical <;> rfl

end Placement

namespace Layout

variable {st : State}

theorem insetOf_rat (st : State) : (insetOf st : Rat) = st.inset.toNat := rfl

theorem insetOf_nonneg (st : State) : (0 : Rat) ≤ insetOf st := Nat.cast_nonneg _

theorem insetOf_eq_zero : (insetOf st : Rat) = 0 ↔ st.inset = 0 := by
  rw [insetOf_rat, Nat.cast_eq_zero, ← UInt32.toNat_inj]
  rfl

theorem insetOf_pos (h : st.inset ≠ 0) : (0 : Rat) < insetOf st :=
  lt_of_le_of_ne (insetOf_nonneg st) fun hinset => h (insetOf_eq_zero.1 hinset.symm)

theorem floorToSize_fst (size : Int32) (length : Rat) :
    (floorToSize size length).1 = max length size.toInt := by
  simp only [floorToSize, lt_rat, ofInt_rat, decide_eq_true_eq]
  split
  case isTrue hlt => exact (max_eq_right hlt.le).symm
  case isFalse hlt => exact (max_eq_left (not_lt.1 hlt)).symm

section Computed

variable {cut : Segmenter} {font? : Option (Font Rat)} {l : Layout Rat}
  (hl : compute cut st font? = .ok l)
include hl

theorem clip_of_compute (h : isFixed st = false) : l.clip = none := by
  rw [eq_onCanvas hl]
  simp [onCanvas, h]

theorem font_of_compute (ht : st.text ≠ []) : l.font = font? := by
  rw [eq_onCanvas hl]
  exact if_neg ht

/-- Half of the outline stands before the draw box. -/
theorem drawBox_of_compute :
    l.drawBox = l.boundingBox.translate (insetOf st / 2) (insetOf st / 2) := by
  rw [eq_onCanvas hl]
  change drawBoxOf st (measuredBox cut st font?) = _
  cases ho : st.outline <;>
    simp [onCanvas, drawBoxOf, Rect.translate, insetOf, State.inset, ho]

end Computed

section Unwrapped

variable {cut : Segmenter} {font : Font Rat} {l : Layout Rat}
  (hl : compute cut st (some font) = .ok l) (h : isFixed st = false) (ht : st.text ≠ [])
include hl ht

theorem linesOf_of_compute : l.lines = linesOf cut st font := by
  rw [eq_onCanvas hl]
  simp [onCanvas, usedLines, usedFont, ht]

include h

theorem lines_of_compute : l.lines = breakLines (font.flow st.vertical) none st.text cut := by
  rw [linesOf_of_compute hl ht]
  simp [linesOf, h]

theorem advance_of_mem_lines {line : Line Rat} (hmem : line ∈ l.lines) :
    line.advance = measure (font.flow st.vertical) line.chars := by
  rw [lines_of_compute hl h ht] at hmem
  obtain ⟨p, -, hp⟩ := List.mem_flatMap.1 hmem
  obtain rfl := List.mem_singleton.1 hp
  rfl

theorem boundingBox_unwrapped : l.boundingBox =
    let size := blockSize font st.vertical l.lines
    (measureBox st ⟨0, 0, size.width + insetOf st, size.height + insetOf st⟩).1 := by
  rw [boundingBox_of_compute hl, linesOf_of_compute hl ht]
  simp [measuredBox, contentBox, usedFont, boxOf, h, ht]

/-- The longest line and the outline fit the box exactly. -/
theorem along_boundingBox :
    (Placement.ofState st).along l.boundingBox = longest l.lines + insetOf st := by
  rw [boundingBox_unwrapped hl h ht]
  cases hv : st.vertical <;> simp [Placement.along, measureBox, blockSize, hv]

/-- Across the lines the box takes them and the outline but is no narrower than the font that was
asked for. -/
theorem beside_boundingBox :
    (Placement.ofState st).beside l.boundingBox =
      max (font.lineHeight * l.lines.length + insetOf st) st.font.size.toInt := by
  rw [boundingBox_unwrapped hl h ht]
  cases hv : st.vertical <;>
    simp [Placement.beside, measureBox, blockSize, hv, floorToSize_fst]

end Unwrapped

end Layout

end Caption
