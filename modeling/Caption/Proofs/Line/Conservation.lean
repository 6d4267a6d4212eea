import Mathlib.Data.List.Forall2
import Caption.Layout.Line

/-!
# Breaking keeps the text

Lines are made of all characters of a text in their order. What is left out are line feeds, one
carriage return before each, and blanks where a line was closed at a soft break. Nothing here
depends on how long the characters are or where a segmenter cuts.

## Main definitions

* `Spells`: lines that give a text when blanks are put after each
* `Wrapping.Spells`: the text that has gone into lines so far

## Main statements

* `Wrapping.Spells.push`: what one segment adds
* `spells_wrap`: the lines of a paragraph
* `breakLines_conserves`: the lines of a text
-/
namespace Caption

variable {α : Type}

/-! ## Paragraphs -/

theorem paragraphs_eq_splitOn (s : List Char) : paragraphs s = s.splitOn '\n' := by
  induction s with
  | nil => rfl
  | cons c cs ih =>
    rw [List.splitOn_cons_eq_if_modifyHead, paragraphs, ih]
    by_cases hc : c = '\n'
    · simp [hc]
    · obtain ⟨p, ps, hp⟩ := List.exists_cons_of_ne_nil (List.splitOn_ne_nil '\n' cs)
      simp [hc, hp]

@[simp] theorem dropReturn_concat_return (s : List Char) : dropReturn (s ++ ['\r']) = s := by
  simp [dropReturn]

/-! ## Lines with blanks between them -/

/-- The lines, with a run of blanks after each, put together to `s`. -/
def Spells (lines : List (Line α)) (s : List Char) : Prop :=
  ∃ blanks : List (List Char), blanks.length = lines.length ∧ (∀ w ∈ blanks, w.all isBlank) ∧
    (List.zipWith (fun l w => l.chars ++ w) lines blanks).flatten = s

namespace Spells

theorem nil : Spells ([] : List (Line α)) [] := ⟨[], rfl, by simp, rfl⟩

theorem concat {lines : List (Line α)} {s w : List Char} (h : Spells lines s) (l : Line α)
    (hw : w.all isBlank) : Spells (lines ++ [l]) (s ++ (l.chars ++ w)) := by
  obtain ⟨blanks, hlen, hall, rfl⟩ := h
  refine ⟨blanks ++ [w], by simp [hlen], ?_, ?_⟩
  · intro v hv
    rcases List.mem_append.1 hv with hv | hv
    · exact hall v hv
    · rw [List.mem_singleton.1 hv]
      exact hw
  · rw [List.zipWith_append hlen.symm]
    simp

/-- Blanks that follow the last line count as blanks after it. -/
theorem append_blanks {lines : List (Line α)} {s w : List Char} (h : Spells lines s)
    (hne : lines ≠ []) (hw : w.all isBlank) : Spells lines (s ++ w) := by
  obtain ⟨blanks, hlen, hall, rfl⟩ := h
  have hb : blanks ≠ [] := by
    rintro rfl
    exact hne (List.length_eq_zero_iff.1 hlen.symm)
  obtain ⟨front, last, rfl⟩ := List.eq_nil_or_concat' blanks |>.resolve_left hb
  obtain ⟨rest, l, rfl⟩ := List.eq_nil_or_concat' lines |>.resolve_left hne
  have hlen' : rest.length = front.length := by simpa using hlen.symm
  refine ⟨front ++ [last ++ w], by simp [hlen'], ?_, ?_⟩
  · intro v hv
    rcases List.mem_append.1 hv with hv | hv
    · exact hall v (List.mem_append_left _ hv)
    · rw [List.mem_singleton.1 hv, List.all_append, hall last (by simp), hw]
      rfl
  · rw [List.zipWith_append hlen', List.zipWith_append hlen']
    simp

theorem singleton (l : Line α) : Spells [l] l.chars := by
  simpa using nil.concat l (w := []) rfl

end Spells

/-! ## Wrapping -/

namespace Wrapping

/-- The closed lines and the open one hold the text `s`, and no soft break comes before the
first line is closed. -/
structure Spells (w : Wrapping α) (s : List Char) : Prop where
  text : ∃ before, Caption.Spells w.closed before ∧ before ++ w.current.chars = s
  closed_of_softBreak : w.softBreak = true → w.closed ≠ []

theorem finish_ne_nil (w : Wrapping α) : w.finish ≠ [] := by
  unfold finish
  split <;> simp_all

namespace Spells

variable {w : Wrapping α} {s : List Char}

/-- Blanks that nothing stands before on the open line go after the last closed one. -/
theorem append_blanks (h : w.Spells s) (hclosed : w.closed ≠ []) (hcur : w.current.chars = [])
    {blanks : List Char} (hblank : blanks.all isBlank) : w.Spells (s ++ blanks) := by
  obtain ⟨⟨before, hb, rfl⟩, hsoft⟩ := h
  refine ⟨⟨_, hb.append_blanks hclosed hblank, ?_⟩, hsoft⟩
  simp [hcur]

theorem finish (h : w.Spells s) : Caption.Spells w.finish s := by
  obtain ⟨⟨before, hb, rfl⟩, -⟩ := h
  unfold Wrapping.finish
  split
  case isTrue => simpa using hb.concat w.current (w := []) rfl
  case isFalse hrest =>
    have hcur : w.current.chars = [] := by
      by_contra hne
      exact hrest (.inl hne)
    simpa [hcur] using hb

variable [Scalar α] {advance : Char → α} {limit : α}

theorem start : (start : Wrapping α).Spells [] := ⟨⟨[], .nil, rfl⟩, by simp [Wrapping.start]⟩

theorem append (h : w.Spells s) (more : List Char) (a : α) :
    { w with current := w.current.append more a }.Spells (s ++ more) := by
  obtain ⟨⟨before, hb, rfl⟩, hsoft⟩ := h
  exact ⟨⟨before, hb, by simp [Line.append]⟩, hsoft⟩

/-- Closing drops blanks from the end of the open line only. -/
theorem close (h : w.Spells s) (soft : Bool) :
    { w.close advance with softBreak := soft }.Spells s := by
  obtain ⟨⟨before, hb, rfl⟩, -⟩ := h
  obtain ⟨blanks, htrim, hblank⟩ := trimEnd_append_blanks w.current.chars
  refine ⟨⟨_, hb.concat (w.current.trimmed advance) hblank, ?_⟩, ?_⟩
  · simp [Wrapping.close, Line.trimmed, Line.empty, htrim]
  · simp [Wrapping.close]

theorem pushChar (h : w.Spells s) (c : Char) :
    (w.pushChar advance limit c).Spells (s ++ [c]) := by
  unfold Wrapping.pushChar
  split
  · exact (h.close w.softBreak).append [c] (advance c)
  · exact h.append [c] (advance c)

theorem foldl_pushChar (h : w.Spells s) (word : List Char) :
    (word.foldl (Wrapping.pushChar advance limit) w).Spells (s ++ word) := by
  induction word generalizing w s with
  | nil => simpa using h
  | cons c cs ih => simpa using ih (h.pushChar c)

theorem pushNext (h : w.Spells s) (segment : List Char) :
    (w.pushNext advance limit segment).Spells (s ++ segment) := by
  unfold Wrapping.pushNext
  split
  case isTrue hblank =>
    exact (h.close true).append_blanks (by simp [Wrapping.close]) rfl hblank
  case isFalse =>
    -- the word stands on a line of its own, whatever was open before it
    have hfresh : (if w.current.chars = [] then w
        else { w.close advance with softBreak := true }).Spells s := by
      split
      · exact h
      · exact h.close true
    dsimp only
    split
    · exact hfresh.append _ _
    · exact hfresh.foldl_pushChar segment

/-- Every way to place or skip a segment adds the segment's text. -/
theorem push (h : w.Spells s) (segment : List Char) :
    (w.push advance limit segment).Spells (s ++ segment) := by
  unfold Wrapping.push
  split
  case isTrue hskip =>
    obtain ⟨hblank, hsoft, hcur⟩ := hskip
    exact h.append_blanks (h.closed_of_softBreak hsoft) hcur hblank
  case isFalse =>
    dsimp only
    split
    · exact h.append _ _
    · exact h.pushNext segment

theorem foldl_push (h : w.Spells s) (segments : List (List Char)) :
    (segments.foldl (Wrapping.push advance limit) w).Spells (s ++ segments.flatten) := by
  induction segments generalizing w s with
  | nil => simpa using h
  | cons segment segments ih => simpa using ih (h.push segment)

end Spells

end Wrapping

variable [Scalar α]

theorem spells_wrap (advance : Char → α) (limit : α) (s : List Char) (cut : Segmenter) :
    Spells (wrap advance limit s cut) s := by
  have h : ((cut.segments s).foldl (Wrapping.push advance limit) .start).Spells
      ([] ++ (cut.segments s).flatten) := .foldl_push .start (cut.segments s)
  rw [List.nil_append, cut.flatten_segments] at h
  exact h.finish

theorem spells_breakParagraph (advance : Char → α) (limit : Option α) (s : List Char)
    (cut : Segmenter) : Spells (breakParagraph advance limit s cut) s := by
  cases limit with
  | none => exact .singleton ⟨s, measure advance s⟩
  | some limit => exact spells_wrap advance limit s cut

theorem breakParagraph_ne_nil (advance : Char → α) (limit : Option α) (s : List Char)
    (cut : Segmenter) : breakParagraph advance limit s cut ≠ [] := by
  cases limit with
  | none => exact List.cons_ne_nil _ _
  | some limit => exact Wrapping.finish_ne_nil _

/-! ## Texts -/

/-- The lines come in groups, one for each piece between line feeds, and the lines of a group
with blanks after each spell the piece without its carriage return. Without a limit the piece
is one line as it is. -/
theorem breakLines_conserves (advance : Char → α) (limit : Option α) (s : List Char)
    (cut : Segmenter) :
    ∃ groups : List (List (Line α)), breakLines advance limit s cut = groups.flatten ∧
      List.Forall₂ (fun piece group => group ≠ [] ∧ Spells group (dropReturn piece) ∧
        (limit = none → group = [⟨dropReturn piece, measure advance (dropReturn piece)⟩]))
        (s.splitOn '\n') groups := by
  refine ⟨(s.splitOn '\n').map fun p => breakParagraph advance limit (dropReturn p) cut, ?_, ?_⟩
  · rw [breakLines, paragraphs_eq_splitOn, List.flatMap_def]
  · rw [List.forall₂_map_right_iff, List.forall₂_same]
    intro p _
    refine ⟨breakParagraph_ne_nil _ _ _ _, spells_breakParagraph _ _ _ _, ?_⟩
    rintro rfl
    rfl

end Caption
