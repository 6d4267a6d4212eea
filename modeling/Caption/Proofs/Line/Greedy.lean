import Caption.Proofs.Line.Conservation
import Caption.Proofs.Line.Fit

/-!
# Wrapping is greedy

A line of wrapped text is closed only because what comes next has no room on it. What comes next
is a segment or, inside a segment that has no room on any line, a character; such a segment starts
on a line of its own. So a paragraph that has room on one line stays as it is.

Each line is looked at as it stood before its blanks were dropped, with the text before it. As it
stood it has room within the limit and with the next piece it has not, which settles where it was
closed.

## Main definitions

* `Wrapping.Pushed`: the ways to place or skip a segment
* `Span`: a line as it stood, behind the text before it
* `Span.Laid`: lines one behind the other, with blanks between them
* `Span.EndsBetween`, `Span.EndsInside`: why a line was closed
* `Greedy`: lines of a paragraph all of which had to be closed

## Main statements

* `Wrapping.pushed_push`: there are no other ways
* `Wrapping.Traced.push`: one segment closes lines only where it has to
* `greedy_wrap`, `wrap_of_fits`: the lines of a paragraph
* `breakLines_greedy`: the lines of a text
-/
namespace Caption

open Scalar

variable {advance : Char → Rat} {limit : Rat}

/-! ## Ways to place a segment -/

namespace Wrapping

/-- A line that holds something is closed at a soft break, so that the open one is empty. -/
def opened (advance : Char → Rat) (w : Wrapping Rat) : Wrapping Rat :=
  if w.current.chars = [] then w else { w.close advance with softBreak := true }

/-- Blanks at the start of a line that follows a soft break are left out. -/
structure Skips (w : Wrapping Rat) (segment : List Char) : Prop where
  blank : segment.all isBlank = true
  soft : w.softBreak = true
  bare : w.current.chars = []

/-- What comes of a wrapping when a segment is placed or skipped. -/
inductive Pushed (advance : Char → Rat) (limit : Rat) (w : Wrapping Rat) (segment : List Char) :
    Wrapping Rat → Prop
  | skipped (skips : w.Skips segment) : Pushed advance limit w segment w
  | fitted (placed : ¬ w.Skips segment)
      (fit : w.current.advance + measure advance segment ≤ limit + fitSlack) :
      Pushed advance limit w segment
        { w with current := w.current.append segment (measure advance segment) }
  | ended (placed : ¬ w.Skips segment) (blank : segment.all isBlank = true)
      (exceeds : limit + fitSlack < w.current.advance + measure advance segment) :
      Pushed advance limit w segment { w.close advance with softBreak := true }
  | moved (word : segment.all isBlank = false)
      (exceeds : limit + fitSlack < w.current.advance + measure advance segment)
      (fit : measure advance segment ≤ limit + fitSlack) :
      Pushed advance limit w segment
        { w.opened advance with
          current := (w.opened advance).current.append segment (measure advance segment) }
  | split (word : segment.all isBlank = false)
      (exceeds : limit + fitSlack < w.current.advance + measure advance segment)
      (wide : limit + fitSlack < measure advance segment) :
      Pushed advance limit w segment (segment.foldl (pushChar advance limit) (w.opened advance))

/-- What comes of a wrapping when a character of a long word is added. -/
inductive PushedChar (advance : Char → Rat) (limit : Rat) (w : Wrapping Rat) (c : Char) :
    Wrapping Rat → Prop
  | added (room : w.current.chars = [] ∨ w.current.advance + advance c ≤ limit + fitSlack) :
      PushedChar advance limit w c { w with current := w.current.append [c] (advance c) }
  | closed (held : w.current.chars ≠ [])
      (exceeds : limit + fitSlack < w.current.advance + advance c) :
      PushedChar advance limit w c
        { w.close advance with current := (w.close advance).current.append [c] (advance c) }

theorem not_fits_iff {length : Rat} : ¬ fits limit length = true ↔ limit + fitSlack < length :=
  fits_iff.not.trans not_le

variable (advance limit) in
theorem pushedChar_pushChar (w : Wrapping Rat) (c : Char) :
    w.PushedChar advance limit c (w.pushChar advance limit c) := by
  unfold pushChar
  split
  next hclose =>
    obtain ⟨held, hexceeds⟩ := hclose
    exact .closed held (exceeds_iff.1 hexceeds)
  next hstay =>
    refine .added ?_
    by_cases hbare : w.current.chars = []
    · exact .inl hbare
    · exact .inr (by simpa [hbare, exceeds_iff] using hstay)

variable (advance limit) in
theorem pushed_push (w : Wrapping Rat) (segment : List Char) :
    w.Pushed advance limit segment (w.push advance limit segment) := by
  unfold push
  split
  next hskip =>
    obtain ⟨blank, soft, bare⟩ := hskip
    exact .skipped ⟨blank, soft, bare⟩
  next hplaced =>
    have placed : ¬ w.Skips segment := fun h => hplaced ⟨h.blank, h.soft, h.bare⟩
    dsimp only
    split
    next hfit => exact .fitted placed (fits_iff.1 hfit)
    next hexceeds =>
      have exceeds := not_fits_iff.1 hexceeds
      unfold pushNext
      split
      next blank => exact .ended placed blank exceeds
      next hword =>
        have word : segment.all isBlank = false := by simpa using hword
        dsimp only
        split
        next hfit => exact .moved word exceeds (fits_iff.1 hfit)
        next hwide => exact .split word exceeds (not_fits_iff.1 hwide)

theorem current_opened (w : Wrapping Rat) : (w.opened advance).current.chars = [] := by
  unfold opened
  split
  next hbare => exact hbare
  next => rfl

theorem Grown.opened {w : Wrapping Rat} (h : w.Grown advance limit) :
    (w.opened advance).Grown advance limit := by
  unfold Wrapping.opened
  split
  next => exact h
  next => exact h.close true

end Wrapping

/-! ## Lines as they stood -/

/-- A line before blanks are dropped from its end, and the text of the paragraph before it. -/
structure Span where
  before : List Char
  text : List Char

namespace Span

/-- The text up to the end of a line. -/
def through (s : Span) : List Char := s.before ++ s.text

def line (advance : Char → Rat) (s : Span) : Line Rat := ⟨s.text, measure advance s.text⟩

/-- The line with the blanks at its end dropped. -/
def trimmed (advance : Char → Rat) (s : Span) : Line Rat := (s.line advance).trimmed advance

/-- Lines one behind the other, with nothing but blanks between them, up to a text. -/
inductive Laid : List Span → List Char → Prop
  | nil : Laid [] []
  | concat {spans : List Span} {t blanks : List Char} (s : Span) (h : Laid spans t)
      (follows : s.before = t) (hblanks : blanks.all isBlank = true) :
      Laid (spans ++ [s]) (s.through ++ blanks)

/-- A line has room for its text within the limit, or that is a single character. -/
def Fits (advance : Char → Rat) (limit : Rat) (s : Span) : Prop :=
  measure advance s.text ≤ limit + fitSlack ∨ ∃ c, s.text = [c]

/-- A line ends between two segments, and with the next one it would be too long. -/
def EndsBetween (advance : Char → Rat) (limit : Rat) (segments : List (List Char)) (s : Span) :
    Prop :=
  ∃ done next rest, segments = done ++ next :: rest ∧ done.flatten = s.through ∧
    limit + fitSlack < measure advance s.text + measure advance next

/-- A line ends inside a segment, and with the next character it would be too long. So would be a
line with nothing but the segment, and with the segment one of the lines starts. -/
def EndsInside (advance : Char → Rat) (limit : Rat) (segments : List (List Char))
    (spans : List Span) (s : Span) : Prop :=
  ∃ done front c back rest, segments = done ++ (front ++ c :: back) :: rest ∧ front ≠ [] ∧
    done.flatten ++ front = s.through ∧
    limit + fitSlack < measure advance s.text + advance c ∧
    limit + fitSlack < measure advance (front ++ c :: back) ∧
    ∃ first ∈ spans, first.before = done.flatten ∧ first.text ≠ []

def Ends (advance : Char → Rat) (limit : Rat) (segments : List (List Char)) (spans : List Span)
    (s : Span) : Prop :=
  s.EndsBetween advance limit segments ∨ s.EndsInside advance limit segments spans

variable {segments : List (List Char)} {spans spans' : List Span} {s : Span} {t : List Char}

theorem Ends.mono (h : s.Ends advance limit segments spans) (hsub : spans ⊆ spans') :
    s.Ends advance limit segments spans' := by
  rcases h with h | ⟨done, front, c, back, rest, hseg, hfront, hthrough, hnext, hwide, first,
    hfirst, hstart⟩
  · exact .inl h
  · exact .inr ⟨done, front, c, back, rest, hseg, hfront, hthrough, hnext, hwide, first,
      hsub hfirst, hstart⟩

/-- A line that was closed is followed by something that makes it too long. -/
theorem Ends.exists_part (h : s.Ends advance limit segments spans) :
    ∃ t, t <:+: segments.flatten ∧ limit + fitSlack < measure advance t := by
  rcases h with ⟨done, next, rest, hseg, hthrough, hnext⟩ |
    ⟨done, front, c, back, rest, hseg, -, hthrough, hnext, -⟩
  · refine ⟨s.text ++ next, ⟨s.before, rest.flatten, ?_⟩, ?_⟩
    · rw [hseg, List.flatten_append, hthrough]
      simp [through]
    · rwa [measure_append]
  · refine ⟨s.text ++ [c], ⟨s.before, back ++ rest.flatten, ?_⟩, ?_⟩
    · rw [hseg, List.flatten_append, List.flatten_cons, List.append_assoc front,
        ← List.append_assoc done.flatten, hthrough]
      simp [through]
    · rwa [measure_append, measure_singleton]

theorem Laid.append_blanks (h : Laid spans t) (hne : spans ≠ []) {more : List Char}
    (hmore : more.all isBlank = true) : Laid spans (t ++ more) := by
  cases h with
  | nil => exact absurd rfl hne
  | concat s h follows hblanks =>
    rw [List.append_assoc]
    refine .concat s h follows ?_
    rw [List.all_append, hblanks, hmore]
    rfl

theorem Laid.eq_nil (h : Laid [] t) : t = [] := by
  generalize hspans : ([] : List Span) = spans at h
  cases h with
  | nil => rfl
  | concat => simp at hspans

end Span

/-- Lines that wrapping cuts segments into: those that were closed and one that is open at the
end, if there is one. -/
structure Greedy (advance : Char → Rat) (limit : Rat) (segments : List (List Char))
    (closed : List Span) (last : Option Span) (lines : List (Line Rat)) : Prop where
  lines_eq : lines = closed.map (Span.trimmed advance) ++ last.toList.map (Span.line advance)
  laid : Span.Laid closed (last.elim segments.flatten Span.before)
  through_last : ∀ s ∈ last, s.through = segments.flatten
  fits : ∀ s ∈ closed ++ last.toList, s.Fits advance limit
  ends : ∀ s ∈ closed, s.Ends advance limit segments closed

/-! ## Wrapping -/

namespace Wrapping

/-- The open line behind the text before it. -/
def span (w : Wrapping Rat) (before : List Char) : Span := ⟨before, w.current.chars⟩

/-- The lines closed so far were closed where they had to be, and the open one stands behind the
text `before`. Together they have come up to `text`. -/
structure Traced (advance : Char → Rat) (limit : Rat) (segments : List (List Char))
    (w : Wrapping Rat) (closed : List Span) (before text : List Char) : Prop where
  grown : w.Grown advance limit
  lines_eq : w.closed = closed.map (Span.trimmed advance)
  laid : Span.Laid closed before
  through_current : before ++ w.current.chars = text
  fits : ∀ s ∈ closed, s.Fits advance limit
  ends : ∀ s ∈ closed, s.Ends advance limit segments closed
  closed_of_soft : w.softBreak = true → closed ≠ []

namespace Traced

variable {segments : List (List Char)} {w : Wrapping Rat} {closed : List Span}
  {before text : List Char}

theorem start : Traced advance limit segments .start [] [] [] where
  grown := .start
  lines_eq := rfl
  laid := .nil
  through_current := rfl
  fits := by simp
  ends := by simp
  closed_of_soft := by simp [Wrapping.start]

theorem append (h : w.Traced advance limit segments closed before text) {s : List Char} {a : Rat}
    (hgrown : Grown advance limit { w with current := w.current.append s a }) :
    Traced advance limit segments { w with current := w.current.append s a } closed before
      (text ++ s) := by
  refine { h with grown := hgrown, through_current := ?_ }
  rw [← h.through_current]
  simp [Line.append]

/-- Blanks that are left out go between the last closed line and the next. -/
theorem skip (h : w.Traced advance limit segments closed before text) {segment : List Char}
    (hskips : w.Skips segment) :
    w.Traced advance limit segments closed (before ++ segment) (text ++ segment) := by
  have hbefore : before = text := by simpa [hskips.bare] using h.through_current
  refine { h with
    laid := h.laid.append_blanks (h.closed_of_soft hskips.soft) hskips.blank
    through_current := ?_ }
  simp [hskips.bare, hbefore]

theorem through_span (h : w.Traced advance limit segments closed before text) :
    (w.span before).through = text := h.through_current

theorem line_span (h : w.Traced advance limit segments closed before text) :
    (w.span before).line advance = w.current :=
  congrArg (Line.mk w.current.chars) h.grown.current.measured.symm

variable (hlimit : 0 ≤ limit)
include hlimit

theorem fits_span (h : w.Traced advance limit segments closed before text) :
    (w.span before).Fits advance limit := by
  rcases h.grown.current.fits_or_single hlimit with hfit | hsingle
  · exact .inl (h.grown.current.measured ▸ hfit)
  · exact .inr hsingle

/-- The open line is closed for a reason. -/
theorem close (h : w.Traced advance limit segments closed before text)
    (hends : (w.span before).Ends advance limit segments (closed ++ [w.span before]))
    (soft : Bool) :
    Traced advance limit segments { w.close advance with softBreak := soft }
      (closed ++ [w.span before]) text text := by
  exact
    { grown := h.grown.close soft
      lines_eq := by
        rw [List.map_append, ← h.lines_eq, List.map_singleton, Span.trimmed, h.line_span]
        rfl
      laid := by
        have hlaid : Span.Laid (closed ++ [w.span before]) ((w.span before).through ++ []) :=
          .concat (w.span before) h.laid rfl rfl
        rwa [h.through_span, List.append_nil] at hlaid
      through_current := List.append_nil text
      fits := by
        intro s hs
        rcases List.mem_append.1 hs with hs | hs
        · exact h.fits s hs
        · rw [List.mem_singleton.1 hs]
          exact h.fits_span hlimit
      ends := by
        intro s hs
        rcases List.mem_append.1 hs with hs | hs
        · exact (h.ends s hs).mono (List.subset_append_left _ _)
        · rw [List.mem_singleton.1 hs]
          exact hends
      closed_of_soft := by simp }

theorem close_between {done rest : List (List Char)} {segment : List Char}
    (hsegments : segments = done ++ segment :: rest)
    (h : w.Traced advance limit segments closed before done.flatten)
    (exceeds : limit + fitSlack < w.current.advance + measure advance segment) :
    Traced advance limit segments { w.close advance with softBreak := true }
      (closed ++ [w.span before]) done.flatten done.flatten := by
  refine h.close hlimit (.inl ⟨done, segment, rest, hsegments, h.through_span.symm, ?_⟩) true
  rwa [h.grown.current.measured] at exceeds

/-- A word that has no room on the open line meets an empty one. -/
theorem opened {done rest : List (List Char)} {segment : List Char}
    (hsegments : segments = done ++ segment :: rest)
    (h : w.Traced advance limit segments closed before done.flatten)
    (exceeds : limit + fitSlack < w.current.advance + measure advance segment) :
    ∃ closed', Traced advance limit segments (w.opened advance) closed' done.flatten
      done.flatten := by
  unfold Wrapping.opened
  split
  next hbare =>
    have hbefore : before = done.flatten := by simpa [hbare] using h.through_current
    exact ⟨closed, hbefore ▸ h⟩
  next => exact ⟨_, h.close_between hlimit hsegments exceeds⟩

/-- The characters of a word that has no room on any line. The word starts with the open line or
has started with a closed one. -/
theorem foldl_pushChar {done rest : List (List Char)} {front back : List Char}
    (hsegments : segments = done ++ (front ++ back) :: rest)
    (hwide : limit + fitSlack < measure advance (front ++ back))
    (h : w.Traced advance limit segments closed before (done.flatten ++ front))
    (hfirst : before = done.flatten ∨
      front ≠ [] ∧ ∃ first ∈ closed, first.before = done.flatten ∧ first.text ≠ []) :
    ∃ closed' before', Traced advance limit segments
      (back.foldl (Wrapping.pushChar advance limit) w) closed' before'
      (done.flatten ++ front ++ back) := by
  induction back generalizing w closed before front with
  | nil => exact ⟨closed, before, by simpa using h⟩
  | cons c back ih =>
    have hword : front ++ c :: back = front ++ [c] ++ back := by simp
    have hnext : ∃ closed' before', Traced advance limit segments
        (w.pushChar advance limit c) closed' before' (done.flatten ++ (front ++ [c])) ∧
        (before' = done.flatten ∨ front ++ [c] ≠ [] ∧
          ∃ first ∈ closed', first.before = done.flatten ∧ first.text ≠ []) := by
      have hgrown := h.grown.pushChar c
      have hpushed := w.pushedChar_pushChar advance limit c
      generalize w.pushChar advance limit c = next at hgrown hpushed ⊢
      cases hpushed with
      | added room =>
        refine ⟨closed, before, ?_, ?_⟩
        · simpa using h.append hgrown
        · exact hfirst.imp_right fun hstarted => ⟨by simp, hstarted.2⟩
      | closed held exceeds =>
        have hthrough := h.through_current
        have hfront : front ≠ [] := by
          rintro rfl
          rcases hfirst with rfl | ⟨hne, -⟩
          · exact held (by simpa using hthrough)
          · exact hne rfl
        have hstarted : ∃ first ∈ closed ++ [w.span before],
            first.before = done.flatten ∧ first.text ≠ [] := by
          rcases hfirst with hbefore | ⟨-, first, hmem, hstart⟩
          · exact ⟨w.span before, by simp, hbefore, held⟩
          · exact ⟨first, List.mem_append_left _ hmem, hstart⟩
        have hends : (w.span before).EndsInside advance limit segments
            (closed ++ [w.span before]) := by
          refine ⟨done, front, c, back, rest, hsegments, hfront, h.through_span.symm, ?_, hwide,
            hstarted⟩
          rwa [h.grown.current.measured] at exceeds
        refine ⟨_, done.flatten ++ front, ?_, .inr ⟨by simp, hstarted⟩⟩
        rw [← List.append_assoc]
        exact (h.close hlimit (.inr hends) w.softBreak).append hgrown
    obtain ⟨closed', before', htraced, hstart⟩ := hnext
    rw [hword] at hsegments hwide
    simpa using ih hsegments hwide htraced hstart

/-- Every way to place or skip a segment closes lines only where it has to. -/
theorem push {done rest : List (List Char)} {segment : List Char}
    (hsegments : segments = done ++ segment :: rest)
    (h : w.Traced advance limit segments closed before done.flatten) :
    ∃ closed' before', Traced advance limit segments (w.push advance limit segment) closed'
      before' (done ++ [segment]).flatten := by
  have hgrown := h.grown.push segment
  have hpushed := w.pushed_push advance limit segment
  have htext : (done ++ [segment]).flatten = done.flatten ++ segment := by simp
  rw [htext]
  generalize w.push advance limit segment = next at hgrown hpushed ⊢
  cases hpushed with
  | skipped skips => exact ⟨_, _, h.skip skips⟩
  | fitted placed fit => exact ⟨_, _, h.append hgrown⟩
  | ended placed blank exceeds =>
    have hclosed := h.close_between hlimit hsegments exceeds
    exact ⟨_, _, hclosed.skip ⟨blank, rfl, rfl⟩⟩
  | moved word exceeds fit =>
    obtain ⟨closed', hopened⟩ := h.opened hlimit hsegments exceeds
    exact ⟨_, _, hopened.append hgrown⟩
  | split word exceeds wide =>
    obtain ⟨closed', hopened⟩ := h.opened hlimit hsegments exceeds
    have hstart : (w.opened advance).Traced advance limit segments closed' done.flatten
        (done.flatten ++ []) := by rwa [List.append_nil]
    have hword : segments = done ++ ([] ++ segment) :: rest := hsegments
    simpa using hstart.foldl_pushChar hlimit hword wide (.inl rfl)

theorem foldl_push {done rest : List (List Char)} (hsegments : segments = done ++ rest)
    (h : w.Traced advance limit segments closed before done.flatten) :
    ∃ closed' before', Traced advance limit segments
      (rest.foldl (Wrapping.push advance limit) w) closed' before' segments.flatten := by
  induction rest generalizing w closed before done with
  | nil =>
    rw [List.append_nil] at hsegments
    exact ⟨closed, before, hsegments ▸ h⟩
  | cons segment rest ih =>
    obtain ⟨closed', before', hnext⟩ := h.push hlimit hsegments
    exact ih (by simpa using hsegments) hnext

theorem finish (h : w.Traced advance limit segments closed before segments.flatten) :
    ∃ last, Greedy advance limit segments closed last w.finish := by
  unfold Wrapping.finish
  split
  next =>
    refine ⟨some (w.span before), ?_, h.laid, ?_, ?_, h.ends⟩
    · rw [h.lines_eq, ← h.line_span]
      rfl
    · rintro s ⟨⟩
      exact h.through_span
    · intro s hs
      rcases List.mem_append.1 hs with hs | hs
      · exact h.fits s hs
      · rw [List.mem_singleton.1 hs]
        exact h.fits_span hlimit
  next hrest =>
    have hbare : w.current.chars = [] := by
      by_contra hne
      exact hrest (.inl hne)
    have hbefore : before = segments.flatten := by simpa [hbare] using h.through_current
    refine ⟨none, ?_, ?_, by simp, ?_, h.ends⟩
    · rw [h.lines_eq]
      simp
    · exact hbefore ▸ h.laid
    · simpa using h.fits

end Traced

end Wrapping

/-! ## Paragraphs -/

variable (advance) in
theorem greedy_wrap (hlimit : 0 ≤ limit) (s : List Char) (cut : Segmenter) :
    ∃ closed last, Greedy advance limit (cut.segments s) closed last
      (wrap advance limit s cut) := by
  have hstart : Wrapping.Traced advance limit (cut.segments s) .start [] []
      ([] : List (List Char)).flatten := .start
  have hsegments : cut.segments s = [] ++ cut.segments s := rfl
  obtain ⟨closed, before, htraced⟩ := hstart.foldl_push hlimit hsegments
  obtain ⟨last, hgreedy⟩ := htraced.finish hlimit
  exact ⟨closed, last, hgreedy⟩

/-- Where no part of a paragraph is too long for a line nothing has to be closed. -/
theorem wrap_of_fits (hlimit : 0 ≤ limit) (s : List Char) (cut : Segmenter)
    (hfits : ∀ t, t <:+: s → measure advance t ≤ limit + fitSlack) :
    wrap advance limit s cut = [⟨s, measure advance s⟩] := by
  obtain ⟨closed, last, hlines, hlaid, hthrough, -, hends⟩ :=
    greedy_wrap advance hlimit s cut
  rw [cut.flatten_segments] at hlaid hthrough
  have hclosed : closed = [] := by
    refine List.eq_nil_iff_forall_not_mem.2 fun span hspan => ?_
    obtain ⟨t, ht, hlong⟩ := (hends span hspan).exists_part
    rw [cut.flatten_segments] at ht
    exact absurd (hfits t ht) (not_le.2 hlong)
  subst hclosed
  cases last with
  | none =>
    have hne : wrap advance limit s cut ≠ [] := Wrapping.finish_ne_nil _
    exact absurd hlines hne
  | some span =>
    have hbefore : span.before = [] := hlaid.eq_nil
    have htext : span.text = s := by
      simpa [Span.through, hbefore] using hthrough span rfl
    rw [hlines, ← htext]
    rfl

theorem Font.wrap_of_fits (font : Font Rat) (vertical : Bool)
    (hfont : vertical = false → ∀ c, 0 ≤ font.advance c) {limit : Rat} (hlimit : 0 ≤ limit)
    {s : List Char} (cut : Segmenter) (hfits : measure (font.flow vertical) s ≤ limit + fitSlack) :
    wrap (font.flow vertical) limit s cut = [⟨s, measure (font.flow vertical) s⟩] := by
  refine Caption.wrap_of_fits hlimit s cut fun t ht => ?_
  have hzero : 0 ≤ limit + fitSlack := add_nonneg hlimit fitSlack_nonneg
  exact (font.measure_flow_infix_le vertical hfont ht).trans (max_le hzero hfits)

/-! ## Texts -/

/-- The lines of wrapped text come in groups, one for each piece between line feeds. All lines of a
group but one that is open at the end were closed where the next segment, or inside a segment that
has no room on any line the next character, had no room. A piece that has room on one line is that
line, as it is without a limit. -/
theorem breakLines_greedy (font : Font Rat) (vertical : Bool)
    (hfont : vertical = false → ∀ c, 0 ≤ font.advance c) (limit : Rat) (hlimit : 0 ≤ limit)
    (text : List Char) (cut : Segmenter) :
    ∃ groups : List (List (Line Rat)),
      breakLines (font.flow vertical) (some limit) text cut = groups.flatten ∧
      List.Forall₂ (fun piece group =>
        (∃ closed last, Greedy (font.flow vertical) limit (cut.segments (dropReturn piece)) closed
          last group) ∧
        (measure (font.flow vertical) (dropReturn piece) ≤ limit + fitSlack →
          group = [⟨dropReturn piece, measure (font.flow vertical) (dropReturn piece)⟩] ∧
            group = breakParagraph (font.flow vertical) none (dropReturn piece) cut))
        (text.splitOn '\n') groups := by
  refine ⟨(text.splitOn '\n').map fun p => wrap (font.flow vertical) limit (dropReturn p) cut,
    ?_, ?_⟩
  · rw [breakLines, paragraphs_eq_splitOn, List.flatMap_def]
    rfl
  · rw [List.forall₂_map_right_iff, List.forall₂_same]
    intro p _
    refine ⟨greedy_wrap _ hlimit (dropReturn p) cut, fun hfits => ?_⟩
    have hwrap := font.wrap_of_fits vertical hfont hlimit cut hfits
    exact ⟨hwrap, hwrap⟩

/-- A word is cut because it is longer than a line, and its end shares a line with the next word.
The second piece has room on one line. -/
theorem breakLines_greedy_cut :
    let font : Font Rat := .ofFace (.plainBlock "Block") 20 .plain
    let text := "ab abcdefg h\nhi ".toList
    (∀ c, 0 ≤ font.advance c) ∧ (0 : Rat) ≤ 30 ∧
      measure (font.flow false) (dropReturn ['h', 'i', ' ']) ≤ (30 : Rat) + fitSlack ∧
      breakLines (font.flow false) (some 30) text .words =
        [⟨['a', 'b'], 20⟩, ⟨['a', 'b', 'c'], 30⟩, ⟨['d', 'e', 'f'], 30⟩, ⟨['g', ' ', 'h'], 30⟩,
          ⟨['h', 'i', ' '], 30⟩] ∧
      ∃ first closed last, breakLines (font.flow false) (some 30) text .words =
          first ++ [⟨['h', 'i', ' '], measure (font.flow false) ['h', 'i', ' ']⟩] ∧
        Greedy (font.flow false) 30 (wordSegments "ab abcdefg h".toList) closed last first := by
  intro font text
  have hadvance (c : Char) : 0 ≤ font.advance c := by
    change 0 ≤ 500 * font.scale
    decide +kernel
  have hpieces : text.splitOn '\n' = ["ab abcdefg h".toList, ['h', 'i', ' ']] := by decide +kernel
  have hdrop : dropReturn ['h', 'i', ' '] = ['h', 'i', ' '] := rfl
  have hfits : measure (font.flow false) (dropReturn ['h', 'i', ' ']) ≤ (30 : Rat) + fitSlack := by
    decide +kernel
  obtain ⟨groups, hlines, hgroups⟩ :=
    breakLines_greedy font false (fun _ => hadvance) 30 (by norm_num) text .words
  rw [hpieces] at hgroups
  obtain ⟨first, _, ⟨⟨closed, last, hgreedy⟩, -⟩, hrest, rfl⟩ :=
    List.forall₂_cons_left_iff.1 hgroups
  obtain ⟨second, _, ⟨-, hsecond⟩, hnil, rfl⟩ := List.forall₂_cons_left_iff.1 hrest
  obtain rfl := List.forall₂_nil_left_iff.1 hnil
  obtain ⟨rfl, -⟩ := hsecond hfits
  exact ⟨hadvance, by norm_num, hfits, by decide +kernel, first, closed, last,
    by simpa [hdrop] using hlines, hgreedy⟩

end Caption
