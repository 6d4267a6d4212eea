import Caption.Proofs.Layout.Pen

/-!
# Lines that are drawn

On the axis across the lines a line takes the span from its edge over the height of a line. An
arrangement is made of the lines whose span overlaps the clip, one after another, and has nothing of
the others. The spans stand at equal distances, so in exact numbers the lines that are drawn are
neighbours.

## Main definitions

* `Layout.Shows`: the span of a line overlaps the clip
* `Layout.shownLines`: the lines that are drawn, with their indices
* `Layout.barAt`: where a bar of a line stands

## Main statements

* `Layout.arrange_eq_concat`: what an arrangement is made of
* `Layout.shownLines_infix`: the lines that are drawn are neighbours
* `Layout.arrange_shown`: the characters, glyphs and bars of an arrangement
-/
namespace Caption

open Scalar

/-! ## Runs of a list -/

section Runs

variable {β : Type} {p q : β → Bool} {l : List β}

theorem filter_front (h : l.Pairwise fun a b => p b = true → p a = true) : l.filter p <+: l := by
  induction l with
  | nil => exact List.prefix_rfl
  | cons a l ih =>
    obtain ⟨hfirst, hrest⟩ := List.pairwise_cons.1 h
    by_cases ha : p a = true
    · rw [List.filter_cons_of_pos ha]
      exact (List.prefix_cons_inj a).2 (ih hrest)
    · have hnone : l.filter p = [] :=
        List.filter_eq_nil_iff.2 fun b hb hpb => ha (hfirst b hb hpb)
      rw [List.filter_cons_of_neg ha, hnone]
      exact List.nil_prefix

theorem filter_back (h : l.Pairwise fun a b => p a = true → p b = true) : l.filter p <:+ l := by
  induction l with
  | nil => exact List.suffix_rfl
  | cons a l ih =>
    obtain ⟨hfirst, hrest⟩ := List.pairwise_cons.1 h
    by_cases ha : p a = true
    · have hall : l.filter p = l := List.filter_eq_self.2 fun b hb => hfirst b hb ha
      rw [List.filter_cons_of_pos ha, hall]
    · rw [List.filter_cons_of_neg ha]
      exact (ih hrest).trans (List.suffix_cons a l)

/-- What a front and a back of a list have in common stands together. -/
theorem filter_and_infix (hp : l.Pairwise fun a b => p b = true → p a = true)
    (hq : l.Pairwise fun a b => q a = true → q b = true) :
    l.filter (fun a => q a && p a) <:+: l := by
  rw [← List.filter_filter]
  exact (filter_back (hq.sublist List.filter_sublist)).isInfix.trans (filter_front hp).isInfix

theorem flatMap_filter {γ : Type} (f : β → List γ) :
    (l.filter p).flatMap f = l.flatMap fun x => if p x then f x else [] := by
  induction l with
  | nil => rfl
  | cons x l ih => cases hx : p x <;> simp [hx, ih]

end Runs

/-! ## Bars -/

inductive BarKind where
  | underline | strikeout
deriving DecidableEq, Repr

/-- The bars that a style asks for. -/
def Style.bars (s : Style) : List BarKind :=
  (if s.underline then [.underline] else []) ++ (if s.strikeout then [.strikeout] else [])

variable {α : Type} [Scalar α]

namespace Layout

variable (l : Layout α) (font : Font α) (box : Rect α)

/-- Where a bar of the line of an index stands: it is as long as the line. -/
def barAt (line : Line α × Nat) (kind : BarKind) : Rect α :=
  let length := line.1.advance
  let edge := l.lineEdge font box line.2
  if l.placement.vertical then
    let top := box.y + l.placement.flowOffset box.height length
    match kind with
    | .underline => ⟨edge, top, font.underline.thickness, length⟩
    | .strikeout =>
      let thickness := font.strikeout.thickness
      ⟨edge + half (font.lineHeight - thickness), top, thickness, length⟩
  else
    let start := box.x + l.placement.flowOffset box.width length
    let baseline := edge + font.ascent
    match kind with
    | .underline =>
      let bar := font.underline
      ⟨start, baseline + bar.offset - half bar.thickness, length, bar.thickness⟩
    | .strikeout =>
      let bar := font.strikeout
      ⟨start, baseline - bar.offset - half bar.thickness, length, bar.thickness⟩

/-! ## One line -/

/-- The place of the line of an index. -/
def placeAt (line : Line α × Nat) : Arrangement α :=
  l.placeLine font box (l.lineEdge font box line.2) line.1

theorem glyph_of_mem_placeRun (baseline x : α) (s : List Char) :
    ∀ g ∈ placeRun font baseline x s, g.glyph = font.glyph g.char := by
  induction s generalizing x with
  | nil => simp [placeRun]
  | cons c s ih =>
    intro g hg
    rcases List.mem_cons.1 hg with rfl | hg
    · rfl
    · exact ih (x + font.advance c) g hg

theorem glyph_of_mem_placeColumn (column top : α) (s : List Char) :
    ∀ g ∈ placeColumn font column top s, g.glyph = font.glyph g.char := by
  intro g hg
  obtain ⟨row, hrow, rfl⟩ := List.mem_mapIdx.1 hg
  rfl

variable (line : Line α × Nat)

theorem chars_placeAt : (l.placeAt font box line).glyphs.map PlacedGlyph.char = line.1.chars := by
  unfold placeAt placeLine
  split
  · exact chars_placeColumn font _ _ line.1.chars
  · exact chars_placeRun font _ _ line.1.chars

theorem glyph_of_mem_placeAt :
    ∀ g ∈ (l.placeAt font box line).glyphs, g.glyph = font.glyph g.char := by
  unfold placeAt placeLine
  split
  · exact glyph_of_mem_placeColumn font _ _ line.1.chars
  · exact glyph_of_mem_placeRun font _ _ line.1.chars

theorem bars_placeAt : (l.placeAt font box line).bars =
    if lt zero line.1.advance then font.style.bars.map (l.barAt font box line) else [] := by
  unfold placeAt placeLine barAt
  cases l.placement.vertical <;> cases hu : font.style.underline <;>
    cases hs : font.style.strikeout <;> simp [runBars, columnBars, Style.bars, hu, hs]

/-! ## Lines that are drawn -/

/-- The span of the line of an index overlaps the clip: it starts before the end of the clip and
ends behind its start. -/
def Shows (index : Nat) : Prop :=
  ∀ clip ∈ l.clip,
    lt (l.lineEdge font box index) (clipSpan l.placement clip).2 = true ∧
      lt (clipSpan l.placement clip).1 (l.lineEdge font box index + font.lineHeight) = true

instance : DecidablePred (l.Shows font box) := fun _ =>
  inferInstanceAs (Decidable (∀ clip ∈ l.clip, _ ∧ _))

theorem keepsSpan_iff (index : Nat) :
    l.keepsSpan (l.lineEdge font box index) font.lineHeight = true ↔ l.Shows font box index := by
  unfold keepsSpan Shows
  cases l.clip <;> simp

/-- The lines that are drawn, with their indices. -/
def shownLines : List (Line α × Nat) :=
  l.lines.zipIdx.filter fun line => l.Shows font box line.2

theorem shownLines_of_clip_eq_none (h : l.clip = none) :
    l.shownLines font box = l.lines.zipIdx :=
  List.filter_eq_self.2 fun line _ => by simp [Shows, h]

end Layout

omit [Scalar α] in
/-- What is empty adds nothing. -/
theorem Arrangement.concat_map_filter {β : Type} (p : β → Bool) (f : β → Arrangement α)
    (xs : List β) :
    concat (xs.map fun x => if p x then f x else .empty) = concat ((xs.filter p).map f) := by
  unfold concat
  simp only [List.flatMap_map, flatMap_filter, apply_ite glyphs, apply_ite bars]
  rfl

namespace Layout

section Shown

variable {l : Layout α} {font : Font α}

/-- An arrangement is made of the lines that are drawn, in their order. -/
theorem arrange_eq_concat (h : l.font = some font) (box : Rect α) :
    l.arrange box = .concat ((l.shownLines font box).map (l.placeAt font box)) := by
  have hline (line : Line α × Nat) : l.arrangeLine font box line.2 line.1 =
      if decide (l.Shows font box line.2) then l.placeAt font box line else .empty := by
    simp only [arrangeLine, placeAt, keepsSpan_iff, decide_eq_true_eq]
  have harrange : l.arrange box = .concat (l.lines.mapIdx (l.arrangeLine font box)) := by
    simp only [arrange, h]
  rw [harrange, List.mapIdx_eq_zipIdx_map]
  simp only [hline]
  exact Arrangement.concat_map_filter _ _ _

end Shown

/-! ## Neighbours -/

section Exact

variable (l : Layout Rat) {font : Font Rat} (box : Rect Rat) (h : 0 ≤ font.lineHeight)
include h

theorem lineEdge_le_of_row (hv : l.placement.vertical = false) {i j : Nat} (hij : i ≤ j) :
    l.lineEdge font box i ≤ l.lineEdge font box j := by
  have hle : (i : Rat) ≤ j := by exact_mod_cast hij
  have hstep := mul_le_mul_of_nonneg_left hle h
  simpa [lineEdge, hv] using hstep

theorem lineEdge_le_of_column (hv : l.placement.vertical = true) {i j : Nat} (hij : i ≤ j) :
    l.lineEdge font box j ≤ l.lineEdge font box i := by
  have hle : ((i + 1 : Nat) : Rat) ≤ (j + 1 : Nat) := by exact_mod_cast Nat.succ_le_succ hij
  have hstep := mul_le_mul_of_nonneg_left hle h
  simp only [lineEdge, hv, if_true, ofInt_rat]
  exact sub_le_sub_left hstep _

/-- The lines that are drawn are neighbours: rows from some row on start before the clip ends, and
rows up to some row end behind its start; with columns it is the other way round. -/
theorem shownLines_infix : l.shownLines font box <:+: l.lines.zipIdx := by
  have hordered : l.lines.zipIdx.Pairwise fun a b => a.2 < b.2 := by
    refine List.pairwise_map.1 ?_
    rw [List.zipIdx_map_snd]
    exact List.pairwise_lt_range'
  cases hclip : l.clip with
  | none =>
    rw [l.shownLines_of_clip_eq_none font box hclip]
  | some clip =>
    obtain ⟨low, high, hspan⟩ : ∃ low high, clipSpan l.placement clip = (low, high) := ⟨_, _, rfl⟩
    have hshown : l.shownLines font box = l.lines.zipIdx.filter fun line =>
        decide (l.lineEdge font box line.2 < high) &&
          decide (low < l.lineEdge font box line.2 + font.lineHeight) := by
      refine List.filter_congr fun line _ => ?_
      simp [Shows, hclip, hspan]
    rw [hshown]
    cases hv : l.placement.vertical with
    | false =>
      simp only [Bool.and_comm (decide (_ < high))]
      refine filter_and_infix (hordered.imp fun hlt => ?_) (hordered.imp fun hlt => ?_)
      all_goals
        have hedge := l.lineEdge_le_of_row box h hv hlt.le
        simp only [decide_eq_true_eq]
        intro hkept
        linarith
    | true =>
      refine filter_and_infix (hordered.imp fun hlt => ?_) (hordered.imp fun hlt => ?_)
      all_goals
        have hedge := l.lineEdge_le_of_column box h hv hlt.le
        simp only [decide_eq_true_eq]
        intro hkept
        linarith

end Exact

/-- An arrangement has the characters of the lines whose span overlaps the clip, or of all lines
without a clip, in the order of the lines and each with its glyph. Of these lines every one with a
length has one bar of each kind that the style asks for, the underline first. In exact numbers the
lines are neighbours. -/
theorem arrange_shown :
    (∀ {α : Type} [Scalar α] (l : Layout α) (font : Font α) (box : Rect α), l.font = some font →
      let shown := l.shownLines font box
      (l.clip = none → shown = l.lines.zipIdx) ∧
      (l.arrange box).glyphs.map PlacedGlyph.char = shown.flatMap (fun line => line.1.chars) ∧
      (∀ g ∈ (l.arrange box).glyphs, g.glyph = font.glyph g.char) ∧
      (l.arrange box).bars = shown.flatMap fun line =>
        if lt zero line.1.advance then font.style.bars.map (l.barAt font box line) else []) ∧
    ∀ (l : Layout Rat) (font : Font Rat) (box : Rect Rat), 0 < font.lineHeight →
      l.shownLines font box <:+: l.lines.zipIdx := by
  constructor
  · intro α _ l font box hfont shown
    have harrange := arrange_eq_concat hfont box
    refine ⟨l.shownLines_of_clip_eq_none font box, ?_, ?_, ?_⟩
    · simp only [harrange, Arrangement.concat, List.flatMap_map, List.map_flatMap, chars_placeAt]
      rfl
    · intro g hg
      rw [harrange] at hg
      obtain ⟨part, hpart, hg⟩ := List.mem_flatMap.1 hg
      obtain ⟨line, -, rfl⟩ := List.mem_map.1 hpart
      exact l.glyph_of_mem_placeAt font box line g hg
    · simp only [harrange, Arrangement.concat, List.flatMap_map, bars_placeAt]
      rfl
  · intro l font box hheight
    exact l.shownLines_infix box hheight.le

def barredFont : Font Rat := ⟨.plainBlock "Block", 20, ⟨false, false, true, true⟩⟩

/-- Four columns from right to left, with a clip around the two in the middle. -/
def cutColumns : Layout Rat where
  placement := ⟨true, .center, .near⟩
  lines := [⟨['a', 'b'], 40⟩, ⟨[], 0⟩, ⟨['c'], 20⟩, ⟨['d'], 20⟩]
  boundingBox := ⟨0, 0, 80, 40⟩
  drawBox := ⟨0, 0, 80, 40⟩
  canvas := ⟨80, 40⟩
  clip := some ⟨20, 0, 40, 40⟩
  font := some barredFont

/-- Only the third column shows, since the second is empty. -/
theorem arrange_shown_cutColumns :
    cutColumns.font = some barredFont ∧ 0 < barredFont.lineHeight ∧
      cutColumns.shownLines barredFont cutColumns.drawBox = [(⟨[], 0⟩, 1), (⟨['c'], 20⟩, 2)] ∧
      (cutColumns.arrange cutColumns.drawBox).glyphs.map PlacedGlyph.char = ['c'] ∧
      (cutColumns.arrange cutColumns.drawBox).bars = [⟨20, 10, 1, 20⟩, ⟨59 / 2, 10, 1, 20⟩] ∧
      cutColumns.shownLines barredFont cutColumns.drawBox <:+: cutColumns.lines.zipIdx := by
  have hheight : 0 < barredFont.lineHeight := by decide +kernel
  have hshown : cutColumns.shownLines barredFont cutColumns.drawBox =
      [(⟨[], 0⟩, 1), (⟨['c'], 20⟩, 2)] := by decide +kernel
  obtain ⟨-, hchars, -, hbars⟩ := arrange_shown.1 cutColumns barredFont cutColumns.drawBox rfl
  have hinfix := arrange_shown.2 cutColumns barredFont cutColumns.drawBox hheight
  refine ⟨rfl, hheight, hshown, ?_, ?_, hinfix⟩
  · rw [hchars, hshown]
    rfl
  · rw [hbars, hshown]
    decide +kernel

end Layout

end Caption
