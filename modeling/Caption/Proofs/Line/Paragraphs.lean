import Caption.Proofs.Layout.Measure
import Caption.Proofs.Line.Conservation
import Caption.Proofs.Scalar.Order

/-!
# Paragraphs are broken on their own

Two texts with a line feed between them have the lines of the first and then those of the
second, whatever the limit is: neither an open line nor a soft break reaches over the line feed.
Put together in a block, the lines are as long as the longer of both blocks. Exactly, they are as
thick as both.

## Main definitions

* `Size.along`, `Size.across`: a block measured along its lines and across them
* `Stacked`: lines put behind others

## Main statements

* `breakLines_append_feed`: the lines of two texts
* `longest_append`: the longest of all lines
* `stacked_breakLines`: the block of two texts
-/
namespace Caption

open Scalar

variable {α : Type}

/-! ## Lines -/

theorem paragraphs_append_feed (s t : List Char) :
    paragraphs (s ++ '\n' :: t) = paragraphs s ++ paragraphs t := by
  induction s with
  | nil => simp [paragraphs]
  | cons c s ih =>
    by_cases hc : c = '\n'
    · simp [paragraphs, hc, ih]
    · obtain ⟨p, ps, hp⟩ : ∃ p ps, paragraphs s = p :: ps := by
        rw [paragraphs_eq_splitOn]
        exact List.exists_cons_of_ne_nil (List.splitOn_ne_nil '\n' s)
      simp [paragraphs, hc, ih, hp]

theorem breakLines_append_feed [Scalar α] (advance : Char → α) (limit : Option α)
    (s t : List Char) (cut : Segmenter) :
    breakLines advance limit (s ++ '\n' :: t) cut =
      breakLines advance limit s cut ++ breakLines advance limit t cut := by
  rw [breakLines, paragraphs_append_feed, List.flatMap_append]
  rfl

/-! ## Blocks -/

namespace Size

/-- The extent of a block in the direction of reading. -/
def along (vertical : Bool) (s : Size α) : α := if vertical then s.height else s.width

/-- The extent of a block across the lines. -/
def across (vertical : Bool) (s : Size α) : α := if vertical then s.width else s.height

end Size

variable [Scalar α]

theorem along_blockSize (font : Font α) (vertical : Bool) (lines : List (Line α)) :
    (blockSize font vertical lines).along vertical = longest lines := by
  cases vertical <;> rfl

theorem across_blockSize (font : Font α) (vertical : Bool) (lines : List (Line α)) :
    (blockSize font vertical lines).across vertical = font.lineHeight * ofInt lines.length := by
  cases vertical <;> rfl

section Longest

variable {β : Type} [LinearOrder β] {rank : α → β} (h : Ranks rank)

include h

/-- Nothing is added when zero is compared once more. -/
theorem larger_longest_zero (lines : List (Line α)) :
    larger (longest lines) zero = longest lines := by
  have hzero : ∃ a, longest lines = larger zero a := by
    induction lines using List.reverseRecOn with
    | nil => exact ⟨zero, (h.larger_self zero).symm⟩
    | append_singleton lines line ih =>
      obtain ⟨a, ha⟩ := ih
      refine ⟨larger a line.advance, ?_⟩
      rw [← h.larger_assoc, ← ha]
      exact List.foldl_concat ..
  obtain ⟨a, ha⟩ := hzero
  rw [ha, h.larger_again]

/-- The longest of all lines is the longer of the longest of both parts. -/
theorem longest_append (first second : List (Line α)) :
    longest (first ++ second) = larger (longest first) (longest second) := by
  induction second using List.reverseRecOn with
  | nil =>
    rw [List.append_nil]
    exact (larger_longest_zero h first).symm
  | append_singleton second line ih =>
    have hlast (lines : List (Line α)) :
        longest (lines ++ [line]) = larger (longest lines) line.advance := List.foldl_concat ..
    rw [← List.append_assoc, hlast, hlast, ih, h.larger_assoc]

end Longest

/-- Lines put behind others: all of them, and a block as long as the longer of both. -/
structure Stacked (font : Font α) (vertical : Bool) (first second whole : List (Line α)) :
    Prop where
  lines_eq : whole = first ++ second
  along_eq : (blockSize font vertical whole).along vertical =
    larger ((blockSize font vertical first).along vertical)
      ((blockSize font vertical second).along vertical)

theorem stacked_append {β : Type} [LinearOrder β] {rank : α → β} (h : Ranks rank) (font : Font α)
    (vertical : Bool) (first second : List (Line α)) :
    Stacked font vertical first second (first ++ second) where
  lines_eq := rfl
  along_eq := by simp only [along_blockSize, longest_append h]

/-- Texts with a line feed between them are broken each on its own, and their lines make a block
that is as long as the longer of both, in single precision as exactly. Exactly, it is as thick as
both together. -/
theorem stacked_breakLines (vertical : Bool) (s t : List Char) (cut : Segmenter) :
    (∀ (font : Font Float32) (limit : Option Float32),
      let lines (text : List Char) := breakLines (font.flow vertical) limit text cut
      Stacked font vertical (lines s) (lines t) (lines (s ++ '\n' :: t))) ∧
    (∀ (font : Font Rat) (limit : Option Rat),
      let lines (text : List Char) := breakLines (font.flow vertical) limit text cut
      let across (text : List Char) := (blockSize font vertical (lines text)).across vertical
      Stacked font vertical (lines s) (lines t) (lines (s ++ '\n' :: t)) ∧
        across (s ++ '\n' :: t) = across s + across t) := by
  constructor
  · intro font limit lines
    simp only [lines, breakLines_append_feed]
    exact stacked_append Single.ranks_rank font vertical _ _
  · intro font limit lines across
    simp only [across, lines, breakLines_append_feed]
    refine ⟨stacked_append ranks_rat font vertical _ _, ?_⟩
    simp only [across_blockSize, List.length_append, ofInt_rat]
    push_cast
    ring

end Caption
