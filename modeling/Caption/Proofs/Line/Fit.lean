import Caption.Proofs.Layout.Measure

/-!
# Wrapped lines fit

The open line of a paragraph grows in two ways only: by a part that it has room for, or, while
it is empty, by a character that has to go somewhere. A closed line is an open one without the
blanks at its end. So a line is never longer than its limit unless it is a single character, and
the length that it carries is that of its characters.

## Main definitions

* `Line.Grown`: how the open line can come about
* `Wrapping.Grown`: lines that came about in this way

## Main statements

* `Wrapping.Grown.push`: one segment keeps to it
* `grown_of_mem_breakLines`: every line did
* `breakLines_fits`: lengths and limits of wrapped lines
-/
namespace Caption

open Scalar

variable {advance : Char → Rat} {limit : Rat}

/-! ## Comparing with the limit -/

theorem fits_iff {length : Rat} : fits limit length = true ↔ length ≤ limit + fitSlack :=
  decide_eq_true_iff

theorem exceeds_iff {length : Rat} : exceeds limit length = true ↔ limit + fitSlack < length :=
  decide_eq_true_iff

theorem fitSlack_nonneg : (0 : Rat) ≤ fitSlack := div_nonneg (Nat.cast_nonneg _) (Nat.cast_nonneg _)

/-! ## Parts of a text -/

/-- Characters that do not move the pen back only make a text longer. -/
theorem measure_infix_le (h : ∀ c, 0 ≤ advance c) {t s : List Char} (hts : t <:+: s) :
    measure advance t ≤ measure advance s := by
  obtain ⟨before, behind, rfl⟩ := hts
  have hbefore := measure_nonneg h before
  have hbehind := measure_nonneg h behind
  rw [measure_append, measure_append]
  linarith

/-- In a font whose characters do not move the pen back texts do not either. In text that runs
downwards all cells are as high as each other, so there a font may even have cells of negative
height, and then all texts move it back. -/
theorem Font.flow_nonneg_or (font : Font Rat) (vertical : Bool)
    (hfont : vertical = false → ∀ c, 0 ≤ font.advance c) :
    (∀ c, 0 ≤ font.flow vertical c) ∨ ∀ s, measure (font.flow vertical) s ≤ 0 := by
  cases vertical with
  | false => exact .inl (hfont rfl)
  | true =>
    rcases le_total 0 font.cellHeight with hpos | hneg
    · exact .inl fun _ => hpos
    · refine .inr fun s => ?_
      calc measure (font.flow true) s
          = font.cellHeight * s.length := measure_const _ _
        _ ≤ 0 := mul_nonpos_of_nonpos_of_nonneg hneg (Nat.cast_nonneg _)

/-- So no part of a text is longer than the text, or it is no longer than nothing. -/
theorem Font.measure_flow_infix_le (font : Font Rat) (vertical : Bool)
    (hfont : vertical = false → ∀ c, 0 ≤ font.advance c) {t s : List Char} (hts : t <:+: s) :
    measure (font.flow vertical) t ≤ max 0 (measure (font.flow vertical) s) := by
  rcases font.flow_nonneg_or vertical hfont with hflow | hback
  · exact le_max_of_le_right (measure_infix_le hflow hts)
  · exact le_max_of_le_left (hback t)

theorem Font.measure_flow_trimEnd_le (font : Font Rat) (vertical : Bool)
    (hfont : vertical = false → ∀ c, 0 ≤ font.advance c) (s : List Char) :
    measure (font.flow vertical) (trimEnd s) ≤ max 0 (measure (font.flow vertical) s) := by
  obtain ⟨w, hw, -⟩ := trimEnd_append_blanks s
  exact font.measure_flow_infix_le vertical hfont ⟨[], w, hw⟩

theorem trimEnd_singleton (c : Char) : trimEnd [c] = [] ∨ trimEnd [c] = [c] := by
  cases h : isBlank c <;> simp [trimEnd, h]

/-! ## Lines -/

namespace Line

/-- The open lines of a paragraph: what is added fits, or is a character on an empty line. -/
inductive Grown (advance : Char → Rat) (limit : Rat) : Line Rat → Prop
  | empty : Grown advance limit .empty
  | append {l : Line Rat} {s : List Char} (h : Grown advance limit l)
      (fit : l.advance + measure advance s ≤ limit + fitSlack) :
      Grown advance limit (l.append s (measure advance s))
  | single (c : Char) : Grown advance limit ⟨[c], advance c⟩

namespace Grown

variable {l : Line Rat}

theorem measured (h : Grown advance limit l) : l.advance = measure advance l.chars := by
  induction h with
  | empty => rfl
  | append _ _ ih => rw [Line.append, ih, measure_append]
  | single c => exact (measure_singleton c).symm

theorem eq_empty (h : Grown advance limit l) (hl : l.chars = []) : l = .empty := by
  obtain ⟨chars, length⟩ := l
  obtain rfl : chars = [] := hl
  exact congrArg (Line.mk []) h.measured

theorem fits_or_single (h : Grown advance limit l) (hlimit : 0 ≤ limit) :
    l.advance ≤ limit + fitSlack ∨ ∃ c, l.chars = [c] := by
  cases h with
  | empty => exact .inl (add_nonneg hlimit fitSlack_nonneg)
  | append _ fit => exact .inl fit
  | single c => exact .inr ⟨c, rfl⟩

/-- Trimming may make a line longer only if it is still not longer than an empty one. -/
theorem trimmed_fits_or_single (h : Grown advance limit l) (hlimit : 0 ≤ limit)
    (htrim : measure advance (trimEnd l.chars) ≤ max 0 (measure advance l.chars)) :
    (l.trimmed advance).advance ≤ limit + fitSlack ∨ ∃ c, (l.trimmed advance).chars = [c] := by
  have hzero : 0 ≤ limit + fitSlack := add_nonneg hlimit fitSlack_nonneg
  rcases h.fits_or_single hlimit with hfit | ⟨c, hc⟩
  · rw [h.measured] at hfit
    exact .inl (htrim.trans (max_le hzero hfit))
  · rcases trimEnd_singleton c with ht | ht
    · left
      simpa [trimmed, hc, ht] using hzero
    · exact .inr ⟨c, by rw [trimmed, hc, ht]⟩

end Grown

end Line

/-! ## Wrapping -/

namespace Wrapping

/-- The open line has grown by the rules, and each closed one is such a line trimmed. -/
structure Grown (advance : Char → Rat) (limit : Rat) (w : Wrapping Rat) : Prop where
  closed : ∀ l ∈ w.closed, ∃ o : Line Rat, o.Grown advance limit ∧ l = o.trimmed advance
  current : w.current.Grown advance limit

namespace Grown

variable {w : Wrapping Rat}

theorem start : Grown advance limit .start := ⟨by simp [Wrapping.start], .empty⟩

theorem close (h : w.Grown advance limit) (soft : Bool) :
    Grown advance limit { w.close advance with softBreak := soft } := by
  refine ⟨?_, .empty⟩
  intro l hl
  rcases List.mem_append.1 hl with hl | hl
  · exact h.closed l hl
  · exact ⟨w.current, h.current, List.mem_singleton.1 hl⟩

theorem append (h : w.Grown advance limit) {s : List Char}
    (fit : w.current.advance + measure advance s ≤ limit + fitSlack) :
    Grown advance limit { w with current := w.current.append s (measure advance s) } :=
  ⟨h.closed, h.current.append fit⟩

/-- A part that fits a line of its own fits an empty line. -/
theorem append_of_empty (h : w.Grown advance limit) (hcur : w.current.chars = []) {s : List Char}
    (fit : measure advance s ≤ limit + fitSlack) :
    Grown advance limit { w with current := w.current.append s (measure advance s) } := by
  refine h.append ?_
  rw [h.current.measured, hcur, measure_nil, zero_add]
  exact fit

theorem single_of_empty (h : w.Grown advance limit) (hcur : w.current.chars = []) (c : Char) :
    Grown advance limit { w with current := w.current.append [c] (advance c) } := by
  refine ⟨h.closed, ?_⟩
  have hsingle : w.current.append [c] (advance c) = ⟨[c], advance c⟩ := by
    rw [h.current.eq_empty hcur]
    exact congrArg (Line.mk [c]) (zero_add (advance c))
  rw [hsingle]
  exact .single c

theorem pushChar (h : w.Grown advance limit) (c : Char) :
    (w.pushChar advance limit c).Grown advance limit := by
  unfold Wrapping.pushChar
  split
  next => exact (h.close w.softBreak).single_of_empty rfl c
  next hstay =>
    by_cases hcur : w.current.chars = []
    · exact h.single_of_empty hcur c
    · have hfit : w.current.advance + advance c ≤ limit + fitSlack := by
        simpa [hcur, exceeds_iff] using hstay
      have hone : measure advance [c] = advance c := measure_singleton c
      rw [← hone] at hfit ⊢
      exact h.append hfit

theorem foldl_pushChar (h : w.Grown advance limit) (word : List Char) :
    (word.foldl (Wrapping.pushChar advance limit) w).Grown advance limit := by
  induction word generalizing w with
  | nil => exact h
  | cons c cs ih => exact ih (h.pushChar c)

theorem pushNext (h : w.Grown advance limit) (segment : List Char) :
    (w.pushNext advance limit segment).Grown advance limit := by
  unfold Wrapping.pushNext
  split
  next => exact h.close true
  next =>
    -- a word that does not fit the open line meets an empty one
    obtain ⟨next, hnext, hgrown, hcur⟩ : ∃ next : Wrapping Rat,
        (if w.current.chars = [] then w else { w.close advance with softBreak := true }) = next ∧
          next.Grown advance limit ∧ next.current.chars = [] := by
      split
      next hcur => exact ⟨w, rfl, h, hcur⟩
      next => exact ⟨_, rfl, h.close true, rfl⟩
    simp only [hnext]
    split
    next hfit => exact hgrown.append_of_empty hcur (fits_iff.1 hfit)
    next => exact hgrown.foldl_pushChar segment

/-- Every way to place or skip a segment keeps to the rules. -/
theorem push (h : w.Grown advance limit) (segment : List Char) :
    (w.push advance limit segment).Grown advance limit := by
  unfold Wrapping.push
  split
  next => exact h
  next =>
    dsimp only
    split
    next hfit => exact h.append (fits_iff.1 hfit)
    next => exact h.pushNext segment

theorem foldl_push (h : w.Grown advance limit) (segments : List (List Char)) :
    (segments.foldl (Wrapping.push advance limit) w).Grown advance limit := by
  induction segments generalizing w with
  | nil => exact h
  | cons segment segments ih => exact ih (h.push segment)

end Grown

end Wrapping

/-! ## Texts -/

/-- A line of wrapped text is an open line as it grew or one that was trimmed. -/
theorem grown_of_mem_breakLines {text : List Char} {cut : Segmenter} {line : Line Rat}
    (h : line ∈ breakLines advance (some limit) text cut) :
    ∃ o : Line Rat, o.Grown advance limit ∧ (line = o ∨ line = o.trimmed advance) := by
  obtain ⟨p, -, hline⟩ := List.mem_flatMap.1 h
  have hgrown : ((cut.segments (dropReturn p)).foldl (Wrapping.push advance limit) .start).Grown
      advance limit := .foldl_push .start _
  have hclosed : ∀ l ∈ ((cut.segments (dropReturn p)).foldl (Wrapping.push advance limit)
      .start).closed, ∃ o : Line Rat, o.Grown advance limit ∧ (l = o ∨ l = o.trimmed advance) := by
    intro l hl
    obtain ⟨o, ho, htrim⟩ := hgrown.closed l hl
    exact ⟨o, ho, .inr htrim⟩
  change line ∈ Wrapping.finish _ at hline
  unfold Wrapping.finish at hline
  split at hline
  next =>
    rcases List.mem_append.1 hline with hline | hline
    · exact hclosed line hline
    · exact ⟨_, hgrown.current, .inl (List.mem_singleton.1 hline)⟩
  next => exact hclosed line hline

/-- Every line of wrapped text carries the length of its characters. That length is within the
limit, up to the slack, unless the line is a single character. -/
theorem breakLines_fits (font : Font Rat) (vertical : Bool)
    (hfont : vertical = false → ∀ c, 0 ≤ font.advance c) (limit : Rat) (hlimit : 0 ≤ limit)
    (text : List Char) (cut : Segmenter) :
    ∀ line ∈ breakLines (font.flow vertical) (some limit) text cut,
      line.advance = measure (font.flow vertical) line.chars ∧
        (line.advance ≤ limit + fitSlack ∨ ∃ c, line.chars = [c]) := by
  intro line hline
  obtain ⟨o, ho, rfl | rfl⟩ := grown_of_mem_breakLines hline
  · exact ⟨ho.measured, ho.fits_or_single hlimit⟩
  · refine ⟨rfl, ho.trimmed_fits_or_single hlimit ?_⟩
    exact font.measure_flow_trimEnd_le vertical hfont o.chars

/-- Where no character fits each stands alone. -/
theorem breakLines_fits_narrow :
    let font : Font Rat := .ofFace (.plainBlock "Block") 20 .plain
    (∀ c, 0 ≤ font.advance c) ∧ (0 : Rat) ≤ 5 ∧
      breakLines (font.flow false) (some 5) "a bc".toList .words =
        [⟨['a'], 10⟩, ⟨['b'], 10⟩, ⟨['c'], 10⟩] ∧
      ∀ line ∈ breakLines (font.flow false) (some 5) "a bc".toList .words,
        line.advance = measure (font.flow false) line.chars ∧
          (line.advance ≤ 5 + fitSlack ∨ ∃ c, line.chars = [c]) := by
  intro font
  have hadvance (c : Char) : 0 ≤ font.advance c := by
    change 0 ≤ 500 * font.scale
    decide +kernel
  exact ⟨hadvance, by norm_num, by decide +kernel,
    breakLines_fits font false (fun _ => hadvance) 5 (by norm_num) _ .words⟩

end Caption
