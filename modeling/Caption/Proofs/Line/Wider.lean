import Caption.Proofs.Line.Greedy

/-!
# A wider limit needs no more lines

One paragraph is wrapped to two limits at once, segment by segment. The run with the wider limit
stays ahead: it has closed fewer lines, or as many and its open line is an end of the other open
line. A segment or a character that has room on the longer open line within the narrower limit has
room on the shorter one within the wider limit, so the wider run closes a line only where the
narrower one does, or where it has a line to spare.

## Main definitions

* `Wrapping.Ahead`: one wrapping has come as far with fewer lines or a shorter open one

## Main statements

* `Wrapping.Ahead.push`: a segment keeps the wider run ahead
* `length_wrap_le`: the lines of a paragraph
* `length_breakLines_le`: the lines of a text
-/
namespace Caption

open Scalar

variable {advance : Char → Rat}

namespace Wrapping

/-- The wrapping `w` has closed fewer lines than `w'`, or as many and its open line is an end of the
other one. -/
def Ahead (w w' : Wrapping Rat) : Prop :=
  w.closed.length < w'.closed.length ∨
    w.closed.length = w'.closed.length ∧ w.current.chars <:+ w'.current.chars

/-- Once a segment was placed an empty line follows a soft break. -/
def Underway (w : Wrapping Rat) : Prop := w.current.chars = [] → w.softBreak = true

variable (advance) in
theorem length_closed_close (w : Wrapping Rat) :
    (w.close advance).closed.length = w.closed.length + 1 := by simp [close]

variable (advance) in
theorem length_closed_opened (w : Wrapping Rat) : (w.opened advance).closed.length =
    w.closed.length + if w.current.chars = [] then 0 else 1 := by
  unfold opened
  split
  next => rfl
  next => exact length_closed_close advance w

variable (advance) in
/-- The characters of a word go on the open line, or lines are closed on the way. -/
theorem length_foldl_pushChar (limit : Rat) (w : Wrapping Rat) (word : List Char) :
    w.closed.length < (word.foldl (pushChar advance limit) w).closed.length ∨
      w.closed.length = (word.foldl (pushChar advance limit) w).closed.length ∧
        (word.foldl (pushChar advance limit) w).current.chars = w.current.chars ++ word := by
  induction word generalizing w with
  | nil => exact .inr ⟨rfl, (List.append_nil _).symm⟩
  | cons c word ih =>
    rw [List.foldl_cons]
    have hrest := ih (w.pushChar advance limit c)
    have hpushed := w.pushedChar_pushChar advance limit c
    generalize w.pushChar advance limit c = next at hrest hpushed ⊢
    cases hpushed with
    | added room => simpa [Line.append] using hrest
    | closed held exceeds =>
      have hclosed := length_closed_close advance w
      dsimp only at hrest ⊢
      omega

theorem foldl_pushChar_ne_nil (limit : Rat) (w : Wrapping Rat) {word : List Char}
    (hword : word ≠ []) : (word.foldl (pushChar advance limit) w).current.chars ≠ [] := by
  obtain ⟨front, c, rfl⟩ := List.eq_nil_or_concat' word |>.resolve_left hword
  rw [List.foldl_append, List.foldl_cons, List.foldl_nil, pushChar]
  simp [Line.append]

theorem underway_push (limit : Rat) (w : Wrapping Rat) {segment : List Char}
    (hsegment : segment ≠ []) : (w.push advance limit segment).Underway := by
  have hpushed := w.pushed_push advance limit segment
  generalize w.push advance limit segment = next at hpushed ⊢
  intro hbare
  cases hpushed with
  | skipped skips => exact skips.soft
  | fitted placed fit => simp [Line.append, hsegment] at hbare
  | ended placed blank exceeds => rfl
  | moved word exceeds fit => simp [Line.append, hsegment] at hbare
  | split word exceeds wide => exact absurd hbare (foldl_pushChar_ne_nil limit _ hsegment)

theorem length_finish (w : Wrapping Rat) : w.finish.length =
    w.closed.length + if w.current.chars ≠ [] ∨ w.closed = [] then 1 else 0 := by
  unfold finish
  split <;> simp_all

namespace Ahead

variable {w w' : Wrapping Rat}

theorem length_le (h : w.Ahead w') : w.closed.length ≤ w'.closed.length :=
  h.elim le_of_lt fun h => h.1.le

theorem of_bare (hclosed : w.closed.length ≤ w'.closed.length) (hbare : w.current.chars = []) :
    w.Ahead w' := by
  rcases hclosed.lt_or_eq with hlt | heq
  · exact .inl hlt
  · exact .inr ⟨heq, hbare ▸ List.nil_suffix⟩

/-! ### Lines that are closed before a word -/

/-- The narrower run closes a line before a word that the other one has room for. -/
theorem opened_right (h : w.Ahead w') : w.Ahead (w'.opened advance) := by
  have hlength := length_closed_opened advance w'
  rcases h with hlt | ⟨heq, hsuffix⟩
  · left
    omega
  · by_cases hbare : w'.current.chars = []
    · rw [hbare, List.suffix_nil] at hsuffix
      rw [if_pos hbare] at hlength
      exact of_bare (by omega) hsuffix
    · rw [if_neg hbare] at hlength
      left
      omega

/-- Both runs close a line before a word. -/
theorem opened (h : w.Ahead w') : (w.opened advance).Ahead (w'.opened advance) := by
  have hlength := length_closed_opened advance w
  by_cases hbare : w.current.chars = []
  · rw [if_pos hbare] at hlength
    exact of_bare (hlength.trans_le h.opened_right.length_le) (current_opened w)
  · rw [if_neg hbare] at hlength
    have hright : w.Ahead (w'.opened advance) := h.opened_right
    rcases hright with hlt | ⟨-, hsuffix⟩
    · exact of_bare (by omega) (current_opened w)
    · rw [current_opened, List.suffix_nil] at hsuffix
      exact absurd hsuffix hbare

/-- The wider run has a line to spare and closes it. -/
theorem opened_left (hlt : w.closed.length < w'.closed.length) :
    (w.opened advance).Ahead w' := by
  have hlength := length_closed_opened advance w
  refine of_bare ?_ (current_opened w)
  split at hlength <;> omega

/-! ### A segment that is placed -/

/-- Both runs place it on their open lines. -/
theorem append (h : w.Ahead w') (s : List Char) (a a' : Rat) :
    Ahead { w with current := w.current.append s a }
      { w' with current := w'.current.append s a' } := by
  refine h.imp_right fun ⟨heq, hsuffix⟩ => ⟨heq, ?_⟩
  obtain ⟨front, hfront⟩ := hsuffix
  refine ⟨front, ?_⟩
  simp [Line.append, ← hfront]

/-- The narrower run cuts it between characters. -/
theorem append_foldl (h : w.Ahead w') (limit : Rat) (s : List Char) (a : Rat) :
    Ahead { w with current := w.current.append s a }
      (s.foldl (Wrapping.pushChar advance limit) w') := by
  rcases length_foldl_pushChar advance limit w' s with hmore | ⟨hsame, hchars⟩
  · exact .inl (h.length_le.trans_lt hmore)
  · have hplaced := h.append s a a
    unfold Ahead at hplaced ⊢
    rw [← hsame, hchars]
    exact hplaced

/-! ### Room on the open lines -/

section Room

variable {narrow wide : Rat} (hadvance : ∀ c, 0 ≤ advance c) (hlimits : narrow ≤ wide)
  (hgrown : w.Grown advance wide) (hgrown' : w'.Grown advance narrow)
include hadvance hlimits hgrown hgrown'

/-- What has room in the narrower run has room in the wider one, unless that has a line to spare. -/
theorem lt_of_exceeds (h : w.Ahead w') {length : Rat}
    (fit : w'.current.advance + length ≤ narrow + fitSlack)
    (exceeds : wide + fitSlack < w.current.advance + length) :
    w.closed.length < w'.closed.length := by
  refine h.resolve_right fun ⟨_, hsuffix⟩ => ?_
  have hshorter := measure_infix_le hadvance hsuffix.isInfix
  rw [hgrown.current.measured] at exceeds
  rw [hgrown'.current.measured] at fit
  linarith

theorem pushChar (h : w.Ahead w') (c : Char) :
    (w.pushChar advance wide c).Ahead (w'.pushChar advance narrow c) := by
  have hpushed := w.pushedChar_pushChar advance wide c
  have hpushed' := w'.pushedChar_pushChar advance narrow c
  generalize w.pushChar advance wide c = next at hpushed ⊢
  generalize w'.pushChar advance narrow c = next' at hpushed' ⊢
  cases hpushed' with
  | added room =>
    cases hpushed with
    | added => exact h.append [c] _ _
    | closed held exceeds =>
      have hspare : w.closed.length < w'.closed.length := by
        rcases room with hbare | fit
        · refine h.resolve_right fun ⟨_, hsuffix⟩ => held ?_
          rwa [hbare, List.suffix_nil] at hsuffix
        · exact h.lt_of_exceeds hadvance hlimits hgrown hgrown' fit exceeds
      have hclosed : (w.close advance).Ahead w' :=
        of_bare ((length_closed_close advance w).trans_le hspare) rfl
      exact hclosed.append [c] _ _
  | closed held' exceeds' =>
    cases hpushed with
    | added =>
      exact .inl (h.length_le.trans_lt (by simp [length_closed_close]))
    | closed held exceeds =>
      have hclosed : (w.close advance).Ahead (w'.close advance) :=
        of_bare (by simpa [length_closed_close] using h.length_le) rfl
      exact hclosed.append [c] _ _

theorem foldl_pushChar (h : w.Ahead w') (word : List Char) :
    (word.foldl (Wrapping.pushChar advance wide) w).Ahead
      (word.foldl (Wrapping.pushChar advance narrow) w') := by
  induction word generalizing w w' with
  | nil => exact h
  | cons c word ih =>
    exact ih (hgrown.pushChar c) (hgrown'.pushChar c)
      (h.pushChar hadvance hlimits hgrown hgrown' c)

/-- Every way to place or skip a segment keeps the wider run ahead. -/
theorem push (h : w.Ahead w') (hsoft : w'.softBreak = true → w.Underway) (segment : List Char) :
    (w.push advance wide segment).Ahead (w'.push advance narrow segment) := by
  have hpushed := w.pushed_push advance wide segment
  have hpushed' := w'.pushed_push advance narrow segment
  generalize w.push advance wide segment = next at hpushed ⊢
  generalize w'.push advance narrow segment = next' at hpushed' ⊢
  cases hpushed' with
  | skipped skips' =>
    have hspare (placed : ¬ w.Skips segment) : w.closed.length < w'.closed.length := by
      refine h.resolve_right fun ⟨_, hsuffix⟩ => placed ?_
      have hbare : w.current.chars = [] := by
        rwa [skips'.bare, List.suffix_nil] at hsuffix
      exact ⟨skips'.blank, hsoft skips'.soft hbare, hbare⟩
    cases hpushed with
    | skipped skips => exact h
    | fitted placed fit => exact .inl (hspare placed)
    | ended placed blank exceeds =>
      exact of_bare ((length_closed_close advance w).trans_le (hspare placed)) rfl
    | moved word exceeds fit => simp [skips'.blank] at word
    | split word exceeds broad => simp [skips'.blank] at word
  | fitted placed' fit' =>
    cases hpushed with
    | skipped skips => exact of_bare h.length_le skips.bare
    | fitted placed fit => exact h.append segment _ _
    | ended placed blank exceeds =>
      have hspare := h.lt_of_exceeds hadvance hlimits hgrown hgrown' fit' exceeds
      exact of_bare ((length_closed_close advance w).trans_le hspare) rfl
    | moved word exceeds fit =>
      have hspare := h.lt_of_exceeds hadvance hlimits hgrown hgrown' fit' exceeds
      exact (opened_left hspare).append segment _ _
    | split word exceeds broad =>
      -- a segment that has room behind something in the narrower run has room on an empty line
      have hnonneg : 0 ≤ w'.current.advance :=
        hgrown'.current.measured ▸ measure_nonneg hadvance _
      linarith
  | ended placed' blank' exceeds' =>
    have hclosed := length_closed_close advance w'
    cases hpushed with
    | skipped skips => exact .inl (h.length_le.trans_lt (by simp [hclosed]))
    | fitted placed fit => exact .inl (h.length_le.trans_lt (by simp [hclosed]))
    | ended placed blank exceeds =>
      exact of_bare (by simpa [length_closed_close] using h.length_le) rfl
    | moved word exceeds fit => simp [blank'] at word
    | split word exceeds broad => simp [blank'] at word
  | moved word' exceeds' fit' =>
    cases hpushed with
    | skipped skips => simp [skips.blank] at word'
    | fitted placed fit => exact h.opened_right.append segment _ _
    | ended placed blank exceeds => simp [blank] at word'
    | moved word exceeds fit => exact h.opened.append segment _ _
    | split word exceeds broad => linarith
  | split word' exceeds' broad' =>
    cases hpushed with
    | skipped skips => simp [skips.blank] at word'
    | fitted placed fit => exact h.opened_right.append_foldl narrow segment _
    | ended placed blank exceeds => simp [blank] at word'
    | moved word exceeds fit => exact h.opened.append_foldl narrow segment _
    | split word exceeds broad =>
      exact h.opened.foldl_pushChar hadvance hlimits hgrown.opened hgrown'.opened segment

theorem foldl_push (h : w.Ahead w') (hsoft : w'.softBreak = true → w.Underway)
    {segments : List (List Char)} (hsegments : ∀ s ∈ segments, s ≠ []) :
    (segments.foldl (Wrapping.push advance wide) w).Ahead
      (segments.foldl (Wrapping.push advance narrow) w') := by
  induction segments generalizing w w' with
  | nil => exact h
  | cons segment segments ih =>
    obtain ⟨hsegment, hrest⟩ := List.forall_mem_cons.1 hsegments
    exact ih (hgrown.push segment) (hgrown'.push segment)
      (h.push hadvance hlimits hgrown hgrown' hsoft segment)
      (fun _ => w.underway_push wide hsegment) hrest

end Room

/-- In the end the open line counts unless it is empty and others are there. -/
theorem length_finish_le (h : w.Ahead w') : w.finish.length ≤ w'.finish.length := by
  have hlength := length_finish w
  have hlength' := length_finish w'
  rcases h with hlt | ⟨heq, hsuffix⟩
  · split at hlength <;> omega
  · by_cases hmore : w'.current.chars ≠ [] ∨ w'.closed = []
    · rw [if_pos hmore] at hlength'
      split at hlength <;> omega
    · obtain ⟨hbare', hclosed'⟩ := not_or.1 hmore
      have hbare : w.current.chars = [] := by
        rwa [not_not.1 hbare', List.suffix_nil] at hsuffix
      have hclosed : w.closed ≠ [] := by
        rintro hnil
        exact hclosed' (List.length_eq_zero_iff.1 (by simpa [hnil] using heq.symm))
      simp only [hbare, hclosed, ne_eq, not_true_eq_false, or_self, if_false] at hlength
      omega

end Ahead

end Wrapping

/-! ## Paragraphs and texts -/

theorem length_wrap_le (hadvance : ∀ c, 0 ≤ advance c) {narrow wide : Rat}
    (hlimits : narrow ≤ wide) (s : List Char) (cut : Segmenter) :
    (wrap advance wide s cut).length ≤ (wrap advance narrow s cut).length := by
  have hstart : (Wrapping.start : Wrapping Rat).Ahead .start := .inr ⟨rfl, List.suffix_rfl⟩
  have hsegments : ∀ p ∈ cut.segments s, p ≠ [] := fun _ => cut.ne_nil_of_mem
  have hahead := hstart.foldl_push hadvance hlimits .start .start (by simp [Wrapping.start])
    hsegments
  exact hahead.length_finish_le

/-- Cells of negative height have room on any line. -/
theorem Font.length_wrap_le (font : Font Rat) (vertical : Bool)
    (hfont : vertical = false → ∀ c, 0 ≤ font.advance c) {narrow wide : Rat} (hzero : 0 ≤ narrow)
    (hlimits : narrow ≤ wide) (s : List Char) (cut : Segmenter) :
    (wrap (font.flow vertical) wide s cut).length ≤
      (wrap (font.flow vertical) narrow s cut).length := by
  rcases font.flow_nonneg_or vertical hfont with hflow | hback
  · exact Caption.length_wrap_le hflow hlimits s cut
  · have hone {limit : Rat} (hlimit : 0 ≤ limit) :
        (wrap (font.flow vertical) limit s cut).length = 1 := by
      have hfits := (hback s).trans (add_nonneg hlimit fitSlack_nonneg)
      rw [font.wrap_of_fits vertical hfont hlimit cut hfits]
      rfl
    rw [hone hzero, hone (hzero.trans hlimits)]

/-- Text that is wrapped to a wider limit has at most as many lines. -/
theorem length_breakLines_le (font : Font Rat) (vertical : Bool)
    (hfont : vertical = false → ∀ c, 0 ≤ font.advance c) (narrow wide : Rat) (hzero : 0 ≤ narrow)
    (hlimits : narrow ≤ wide) (text : List Char) (cut : Segmenter) :
    (breakLines (font.flow vertical) (some wide) text cut).length ≤
      (breakLines (font.flow vertical) (some narrow) text cut).length := by
  unfold breakLines
  rw [List.length_flatMap, List.length_flatMap]
  refine List.sum_le_sum fun p _ => ?_
  exact font.length_wrap_le vertical hfont hzero hlimits (dropReturn p) cut

/-- A word is cut three times within the narrower limit and moves as a whole within the wider. -/
theorem length_breakLines_le_moved :
    let font : Font Rat := .ofFace (.plainBlock "Block") 20 .plain
    let lines (limit : Rat) :=
      breakLines (font.flow false) (some limit) "ab  abcdefg h".toList .words
    (∀ c, 0 ≤ font.advance c) ∧ (0 : Rat) ≤ 20 ∧ (20 : Rat) ≤ 75 ∧
      lines 20 = [⟨['a', 'b'], 20⟩, ⟨['a', 'b'], 20⟩, ⟨['c', 'd'], 20⟩, ⟨['e', 'f'], 20⟩,
        ⟨['g'], 10⟩, ⟨['h'], 10⟩] ∧
      lines 75 = [⟨['a', 'b'], 20⟩, ⟨['a', 'b', 'c', 'd', 'e', 'f', 'g'], 70⟩, ⟨['h'], 10⟩] ∧
      (lines 75).length ≤ (lines 20).length := by
  intro font lines
  have hadvance (c : Char) : 0 ≤ font.advance c := by
    change 0 ≤ 500 * font.scale
    decide +kernel
  have hzero : (0 : Rat) ≤ 20 := by norm_num
  have hlimits : (20 : Rat) ≤ 75 := by norm_num
  exact ⟨hadvance, hzero, hlimits, by decide +kernel, by decide +kernel,
    length_breakLines_le font false (fun _ => hadvance) 20 75 hzero hlimits _ .words⟩

end Caption
