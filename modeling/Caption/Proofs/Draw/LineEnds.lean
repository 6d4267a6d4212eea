import Caption.Draw.Rasterizer
import Caption.Draw.Sampled
import Caption.Proofs.Layout.OnCanvas
import Caption.Proofs.Line.Conservation

/-!
# Line ends do not show

A line may end in a line feed or in a carriage return and a line feed. Either way its lines come out
the same, and a text that is empty stays empty, so nothing that is measured or drawn tells the two
apart. One line end behind the text is not taken over at all.

## Main definitions

* `withReturns`: a text with a carriage return before every line feed

## Main statements

* `dropLineEnd_withReturns`, `breakLines_withReturns`: the end of a text and its lines
* `shown_withReturns`: two settings that differ in their line ends
-/
namespace Caption

/-- A carriage return before every line feed. -/
def withReturns (s : List Char) : List Char :=
  s.flatMap fun c => if c = '\n' then ['\r', '\n'] else [c]

@[simp] theorem withReturns_nil : withReturns [] = [] := rfl

@[simp] theorem withReturns_feed (s : List Char) :
    withReturns ('\n' :: s) = '\r' :: '\n' :: withReturns s := rfl

theorem withReturns_cons {c : Char} (hc : c ≠ '\n') (s : List Char) :
    withReturns (c :: s) = c :: withReturns s := by
  simp [withReturns, hc]

theorem withReturns_append (s t : List Char) :
    withReturns (s ++ t) = withReturns s ++ withReturns t :=
  List.flatMap_append

theorem withReturns_eq_nil_iff (s : List Char) : withReturns s = [] ↔ s = [] := by
  cases s with
  | nil => simp
  | cons c s =>
    by_cases hc : c = '\n'
    · simp [hc]
    · simp [withReturns_cons hc]

/-! ## The end of a text -/

section End

variable {s : List Char}

theorem dropLineEnd_concat_feed (h : s.getLast? ≠ some '\r') : dropLineEnd (s ++ ['\n']) = s := by
  have hfront : s.reverse.head? ≠ some '\r' := by rwa [List.head?_reverse]
  have hreverse : (s ++ ['\n']).reverse = '\n' :: s.reverse := List.reverse_concat ..
  unfold dropLineEnd
  rw [hreverse]
  split
  next hr => simp [(List.cons.inj hr).2] at hfront
  next hr => rw [← (List.cons.inj hr).2, List.reverse_reverse]
  next hother => exact absurd rfl (hother s.reverse)

theorem dropLineEnd_concat_return_feed : dropLineEnd (s ++ ['\r', '\n']) = s := by
  simp [dropLineEnd]

theorem mem_of_mem_dropLineEnd {c : Char} (h : c ∈ dropLineEnd s) : c ∈ s := by
  unfold dropLineEnd at h
  rw [← List.mem_reverse]
  split at h
  next hr => simp [hr, List.mem_reverse.1 h]
  next hr => simp [hr, List.mem_reverse.1 h]
  next => exact List.mem_reverse.2 h

theorem dropLineEnd_eq_self (h : s.getLast? ≠ some '\n') : dropLineEnd s = s := by
  have hfront : s.reverse.head? ≠ some '\n' := by rwa [List.head?_reverse]
  unfold dropLineEnd
  split
  next hr => simp [hr] at hfront
  next hr => simp [hr] at hfront
  next => rfl

theorem dropLineEnd_withReturns (h : '\r' ∉ s) :
    dropLineEnd (withReturns s) = withReturns (dropLineEnd s) := by
  rcases List.eq_nil_or_concat' s with rfl | ⟨front, c, rfl⟩
  · rfl
  · have hfront : front.getLast? ≠ some '\r' := fun hlast =>
      h (List.mem_append_left _ (List.mem_of_getLast? hlast))
    rw [withReturns_append]
    by_cases hc : c = '\n'
    · subst hc
      rw [dropLineEnd_concat_feed hfront]
      exact dropLineEnd_concat_return_feed
    · rw [dropLineEnd_eq_self (s := front ++ [c]) (by simpa using hc), withReturns_append,
        withReturns_cons hc, withReturns_nil, dropLineEnd_eq_self (by simpa using hc)]

end End

/-! ## Lines -/

theorem dropReturn_cons {c : Char} (hc : c ≠ '\r') (s : List Char) :
    dropReturn (c :: s) = c :: dropReturn s := by
  cases s with
  | nil => simp [dropReturn, hc]
  | cons d s =>
    simp only [dropReturn, List.getLast?_cons_cons]
    split <;> rfl

theorem exists_paragraph (s : List Char) : ∃ p ps, paragraphs s = p :: ps := by
  rw [paragraphs_eq_splitOn]
  exact List.exists_cons_of_ne_nil (List.splitOn_ne_nil '\n' s)

/-- Every paragraph but the last gets a carriage return, which is dropped again. -/
theorem paragraphs_withReturns {s : List Char} (h : '\r' ∉ s) :
    (paragraphs (withReturns s)).map dropReturn = (paragraphs s).map dropReturn := by
  induction s with
  | nil => rfl
  | cons c s ih =>
    obtain ⟨hc, hs⟩ : c ≠ '\r' ∧ '\r' ∉ s := by simpa [eq_comm] using h
    replace ih := ih hs
    by_cases hfeed : c = '\n'
    · have hreturn : dropReturn ['\r'] = [] := rfl
      have hempty : dropReturn [] = [] := rfl
      simp [hfeed, paragraphs, hreturn, hempty, ih]
    · obtain ⟨p, ps, hp⟩ := exists_paragraph s
      obtain ⟨q, qs, hq⟩ := exists_paragraph (withReturns s)
      rw [hp, hq, List.map_cons, List.map_cons] at ih
      obtain ⟨hfirst, hrest⟩ := List.cons.inj ih
      rw [withReturns_cons hfeed, paragraphs, paragraphs, if_neg hfeed, if_neg hfeed, hp, hq]
      simp only [List.map_cons, dropReturn_cons hc, hfirst, hrest]

theorem breakLines_withReturns {α : Type} [Scalar α] (advance : Char → α) (limit : Option α)
    {s : List Char} (h : '\r' ∉ s) (cut : Segmenter) :
    breakLines advance limit (withReturns s) cut = breakLines advance limit s cut := by
  have hlines (t : List Char) : breakLines advance limit t cut =
      ((paragraphs t).map dropReturn).flatMap fun p => breakParagraph advance limit p cut := by
    rw [List.flatMap_map]
    rfl
  rw [hlines, hlines, paragraphs_withReturns h]

/-! ## Layout and picture -/

section Shown

variable (cut : Segmenter) (st : State)

theorem Layout.compute_withReturns {α : Type} [Scalar α] (h : '\r' ∉ st.text)
    (font : Option (Font α)) :
    Layout.compute cut { st with text := withReturns st.text } font =
      Layout.compute cut st font := by
  have hlines (f : Font α) :
      Layout.linesOf cut { st with text := withReturns st.text } f = Layout.linesOf cut st f :=
    breakLines_withReturns _ _ h _
  simp only [Layout.compute, withReturns_eq_nil_iff, hlines]
  rfl

theorem rasterize_withReturns (d : Backend) (name : String) (l : Layout Float32) :
    rasterize d name { st with text := withReturns st.text } l = rasterize d name st l := by
  have hbackground : drawBackground d name { st with text := withReturns st.text } l =
      drawBackground d name st l := by
    simp only [drawBackground, State.backgroundColor, withReturns_eq_nil_iff]
  have htext : drawText d name { st with text := withReturns st.text } l = drawText d name st l :=
    rfl
  simp only [rasterize, hbackground, htext]

end Shown

/-! ## Settings -/

section Settings

variable (st : State) (s : Settings) (read : TextReader)

/-- A text in the settings counts only while it is typed. -/
theorem apply_text_of_readFromFile (h : s.readFromFile = true) (text : String) :
    st.apply { s with text := text } read = st.apply s read := by
  unfold State.apply State.sourceText
  rw [if_pos h, if_pos h]
  rfl

theorem apply_text_of_typed (h : s.readFromFile = false) (text : String) :
    st.apply { s with text := text } read = pure (st.withText s text.toList) := by
  unfold State.apply State.sourceText
  rw [if_neg (by simp [h])]
  rfl

variable {s}

theorem apply_text_congr {text : String}
    (h : dropLineEnd text.toList = dropLineEnd s.text.toList) :
    st.apply { s with text := text } read = st.apply s read := by
  cases hread : s.readFromFile with
  | true => exact hread ▸ apply_text_of_readFromFile st s read hread text
  | false =>
    have hsame : st.withText s text.toList = st.withText s s.text.toList := by
      simp only [State.withText, h]
    have htyped := apply_text_of_typed st s read hread
    exact hread ▸ (htyped text).trans ((congrArg pure hsame).trans (htyped s.text).symm)

/-- Returns in the text of the settings are returns in the text of the state, if it is that text at
all. -/
theorem apply_withReturns (h : '\r' ∉ s.text.toList) :
    let a := (st.apply s read).value
    let b := (st.apply { s with text := .ofList (withReturns s.text.toList) } read).value
    b = a ∨ '\r' ∉ a.text ∧ b = { a with text := withReturns a.text } := by
  intro a b
  cases hread : s.readFromFile with
  | true => exact .inl (congrArg Logged.value (apply_text_of_readFromFile st s read hread _))
  | false =>
    have ha : a = st.withText s s.text.toList :=
      congrArg Logged.value (apply_text_of_typed st s read hread s.text)
    have hb : b = st.withText s (withReturns s.text.toList) := by
      rw [← String.toList_ofList (l := withReturns s.text.toList)]
      exact congrArg Logged.value (apply_text_of_typed st s read hread _)
    right
    constructor
    · rw [ha]
      exact fun hmem => h (mem_of_mem_dropLineEnd hmem)
    · rw [ha, hb, State.withText, dropLineEnd_withReturns h]
      rfl

end Settings

/-- Line ends of either kind show the same, and one behind a text that ends otherwise is not even
taken over. -/
theorem shown_withReturns (d : Backend) (cut : Segmenter) (s : Settings)
    (h : '\r' ∉ s.text.toList) (st : State) (read : TextReader) (font : Option (Font Float32))
    (name : String) :
    let a := (st.apply s read).value
    let b := (st.apply { s with text := .ofList (withReturns s.text.toList) } read).value
    Checked.Both (fun l m => l = m ∧ l.arrange l.drawBox = m.arrange m.drawBox ∧
        rasterize d name a l = rasterize d name b m)
      (Layout.compute cut a font) (Layout.compute cut b font) ∧
      (s.text.toList.getLast? ≠ some '\n' →
        st.apply { s with text := s.text ++ "\n" } read = st.apply s read ∧
          st.apply { s with text := s.text ++ "\r\n" } read = st.apply s read) := by
  intro a b
  constructor
  · have hlayout : Layout.compute cut b font = Layout.compute cut a font := by
      rcases apply_withReturns st read h with hsame | ⟨htext, hreturns⟩
      · exact congrArg (Layout.compute cut · font) hsame
      · exact (congrArg (Layout.compute cut · font) hreturns).trans
          (Layout.compute_withReturns cut a htext font)
    have hpicture (l : Layout Float32) : rasterize d name a l = rasterize d name b l := by
      rcases apply_withReturns st read h with hsame | ⟨-, hreturns⟩
      · exact congrArg (rasterize d name · l) hsame.symm
      · exact ((congrArg (rasterize d name · l) hreturns).trans
          (rasterize_withReturns a d name l)).symm
    rw [hlayout]
    exact .refl (fun l => ⟨rfl, rfl, hpicture l⟩) _
  · intro hend
    have hreturn : s.text.toList.getLast? ≠ some '\r' := fun hlast =>
      h (List.mem_of_getLast? hlast)
    have hkept : dropLineEnd s.text.toList = s.text.toList := dropLineEnd_eq_self hend
    constructor
    · apply apply_text_congr
      rw [hkept, String.toList_append]
      exact dropLineEnd_concat_feed hreturn
    · apply apply_text_congr
      rw [hkept, String.toList_append]
      exact dropLineEnd_concat_return_feed

/-- Two lines with an empty one between them. -/
def spacedSettings : Settings := { Settings.default with text := "Hi\n\nyou" }

theorem shown_withReturns_spaced :
    let read : TextReader := fun _ => pure []
    let font : Option (Font Float32) :=
      some ⟨.block "Block" false false (Scalar.ofInt 800) (Scalar.ofInt (-200)),
        Scalar.ofInt 22, .plain⟩
    let a := (State.ofSettings spacedSettings read).value
    let b := (State.ofSettings { spacedSettings with text := "Hi\r\n\r\nyou" } read).value
    a ≠ b ∧ (∃ l, Layout.compute .words a font = .ok l ∧ Layout.compute .words b font = .ok l ∧
        rasterize .sampled "text" a l = rasterize .sampled "text" b l) ∧
      State.ofSettings { spacedSettings with text := "Hi\n\nyou\r\n" } read =
        State.ofSettings spacedSettings read := by
  intro read font a b
  have hfeeds : '\r' ∉ spacedSettings.text.toList := by decide
  obtain ⟨hshown, hend⟩ :=
    shown_withReturns .sampled .words spacedSettings hfeeds .initial read font "text"
  obtain ⟨-, hreturn⟩ := hend (by decide)
  have hrequest : Layout.requestedEdges .words a font = (33, 66) := by decide +kernel
  have hcanvas : Canvas.quantized 33 66 = .ok ⟨34, 66⟩ := rfl
  have hl := Layout.compute_of_requestedEdges hrequest hcanvas
  obtain ⟨l, hm, rfl, -, hpicture⟩ := hshown.exists_right hl
  exact ⟨by decide, ⟨_, hl, hm, hpicture⟩, hreturn⟩

end Caption
