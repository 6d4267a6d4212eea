import Caption.Proofs.Draw.Unsigned
import Caption.Proofs.State.Effective

/-!
# What is switched off does not show

Measuring and drawing read the fields behind a switch only while it is on, so both are functions
of the effective part of a state. Settings that are alike therefore show the same, whatever was
shown before. An outline of no width draws nothing of its own and moves nothing: it shows what
the same settings show without an outline.

## Main statements

* `Layout.compute_effective`, `rasterize_effective`: what is measured and what is drawn
* `shown_of_alike`: two settings that are alike, and an outline of no width
-/
namespace Caption

/-! ## What is read of a state -/

namespace Layout

variable {α : Type} [Scalar α] (cut : Segmenter) (st : State)

theorem isFixed_effective : isFixed st.effective = isFixed st := by
  simp only [isFixed, State.effective]
  cases st.extents <;> rfl

theorem insetOf_effective : (insetOf st.effective : α) = insetOf st := by
  cases h : st.outline <;> simp [insetOf, State.inset, State.effective, h]

theorem wrapBox_effective (h : isFixed st = true) :
    (wrapBox st.effective : Size α) = wrapBox st := by
  obtain ⟨hextents, -⟩ : st.extents = true ∧ st.wrap = true := by simpa [isFixed] using h
  simp only [wrapBox, insetOf_effective]
  simp only [State.effective, hextents, if_true]

theorem linesOf_effective (font : Font α) :
    linesOf cut st.effective font = linesOf cut st font := by
  unfold linesOf wrapLimit
  rw [isFixed_effective]
  split
  next h =>
    rw [wrapBox_effective st h]
    rfl
  next => rfl

theorem boxOf_effective (font : Font α) (lines : List (Line α)) :
    boxOf st.effective font lines = boxOf st font lines := by
  unfold boxOf
  rw [isFixed_effective, insetOf_effective]
  split
  next h =>
    rw [wrapBox_effective st h]
    rfl
  next => rfl

theorem applyExtents_effective (cx cy : Int64) :
    applyExtents st.effective cx cy = applyExtents st cx cy := by
  cases h : st.extents <;> simp [applyExtents, State.effective, h]

theorem drawBoxOf_effective (box : Rect α) : drawBoxOf st.effective box = drawBoxOf st box := by
  cases h : st.outline <;> simp [drawBoxOf, State.effective, h]

theorem compute_effective (font : Option (Font α)) :
    compute cut st.effective font = compute cut st font := by
  unfold compute
  simp only [linesOf_effective, boxOf_effective, applyExtents_effective,
    drawBoxOf_effective, isFixed_effective]
  rfl

end Layout

variable (d : Backend) (cut : Segmenter) (name : String) (st : State) (l : Layout Float32)

theorem drawPlan_effective (font : Font Float32) (plan : Plan) (p : Picture) :
    drawPlan d st.effective font plan p = drawPlan d st font plan p := by
  have hfill : st.effective.fillColor = st.fillColor := rfl
  have houtline : st.effective.outline = st.outline := rfl
  cases plan with
  | blank | clipped => rfl
  | draw trace bounds mask =>
    cases h : st.outline with
    | false =>
      simp only [drawPlan, hfill, houtline, h, Bool.false_eq_true, false_and, if_false]
    | true =>
      have hsize : st.effective.outlineSize = st.outlineSize := if_pos h
      have hstroke : st.effective.strokeColor = st.strokeColor := by
        simp only [State.strokeColor, State.effective, h, if_true]
      simp only [drawPlan, hfill, houtline, hsize, hstroke]

theorem drawText_effective (p : Picture) :
    drawText d name st.effective l p = drawText d name st l p := by
  unfold drawText
  simp only [drawPlan_effective]

theorem rasterize_effective : rasterize d name st.effective l = rasterize d name st l := by
  unfold rasterize
  simp only [drawText_effective]
  rfl

/-! ## Outlines of no width -/

section NoWidth

variable (h : st.outlineSize = 0)
include h

theorem drawPlan_of_outlineSize_eq_zero (font : Font Float32) (plan : Plan) (p : Picture) :
    drawPlan d { st with outline := true } font plan p =
      drawPlan d { st with outline := false } font plan p := by
  cases plan with
  | blank | clipped => rfl
  | draw trace bounds mask =>
    simp only [drawPlan, h, ne_eq, not_true_eq_false, and_false, if_false]
    rfl

theorem rasterize_of_outlineSize_eq_zero :
    rasterize d name { st with outline := true } l =
      rasterize d name { st with outline := false } l := by
  unfold rasterize drawText
  simp only [drawPlan_of_outlineSize_eq_zero d st h]
  rfl

end NoWidth

/-! ## Settings that are alike -/

theorem shown_of_effective_eq {a b : State} (h : a.effective = b.effective)
    (font : Option (Font Float32)) :
    a.font = b.font ∧ Layout.compute cut a font = Layout.compute cut b font ∧
      ∀ l, rasterize d name a l = rasterize d name b l := by
  have hfont := congrArg State.font h
  refine ⟨hfont, ?_, fun l => ?_⟩
  · rw [← Layout.compute_effective, h, Layout.compute_effective]
  · rw [← rasterize_effective, h, rasterize_effective]

/-- Nothing that is shown depends on what is switched off or on bits that are ignored. An outline
of no width shows what no outline shows: the same pixels, and a layout whose numbers are equal. Only
a negative zero for a place comes out as the positive one, which compares equal and moves nothing
unless the clip hides it all. -/
theorem shown_of_alike (s t : Settings) (st st' : State) (read : TextReader)
    (font : Option (Font Float32)) :
    let a := (st.apply s read).value
    let b := (st'.apply t read).value
    (s.Alike t → a.font = b.font ∧
      Checked.Both (fun l m => l = m ∧ l.arrange l.drawBox = m.arrange m.drawBox ∧
          rasterize d name a l = rasterize d name b m)
        (Layout.compute cut a font) (Layout.compute cut b font)) ∧
      (s.outline = true → s.outlineSize = 0 → { s with outline := false }.Alike t →
        a.font = b.font ∧
          Checked.Both (fun l m => l = m.unsigned ∧
              (l.arrange l.drawBox).unsigned = (m.arrange m.drawBox).unsigned ∧
              ((∀ clip, m.clip = some clip → clip.isEmpty = false) →
                l.arrange l.drawBox = m.arrange m.drawBox) ∧
              (d.SignFree → (rasterize d name a l).value = (rasterize d name b m).value))
            (Layout.compute cut a font) (Layout.compute cut b font)) := by
  intro a b
  constructor
  · intro h
    have heffective : a.effective = b.effective := State.effective_apply h st st' read
    obtain ⟨hfont, hlayout, hpicture⟩ := shown_of_effective_eq d cut name heffective font
    exact ⟨hfont, hlayout ▸ .refl (fun l => ⟨rfl, rfl, hpicture l⟩) _⟩
  · intro houtline hsize h
    -- between the two stands the first state with its outline off
    let off := { a with outline := false }
    have hon : { a with outline := true } = a :=
      congrArg (fun on => { a with outline := on }) houtline.symm
    have hoff : off.effective = b.effective := State.effective_apply h st st' read
    obtain ⟨hfont, hlayout, hpicture⟩ := shown_of_effective_eq d cut name hoff font
    have hmap : Layout.compute cut a font = (Layout.compute cut b font).map Layout.unsigned := by
      rw [← hlayout, ← Layout.compute_of_outlineSize_eq_zero cut a font hsize, hon]
    refine ⟨hfont, ?_⟩
    cases hm : Layout.compute cut b font with
    | error =>
      rw [hmap, hm]
      exact .overflow
    | ok m =>
      have hfree : m.SignFree := Layout.signFree_compute (hlayout.trans hm) rfl
        (FontRequest.clampSize_nonneg s.font.size)
      rw [hmap, hm]
      refine .ok ⟨rfl, m.unsigned_arrange m.drawBox, fun hclip => ?_, fun hd => ?_⟩
      · rcases hfree with ⟨hsettled, -⟩ | ⟨clip, hsome, hempty⟩
        · exact m.arrange_unsigned hsettled
        · exact absurd hempty (by simp [hclip clip hsome])
      · calc (rasterize d name a m.unsigned).value
            = (rasterize d name { a with outline := true } m.unsigned).value := by rw [hon]
          _ = (rasterize d name off m.unsigned).value := by
            rw [rasterize_of_outlineSize_eq_zero d name a m.unsigned hsize]
          _ = (rasterize d name off m).value := value_rasterize_unsigned hd name off hfree
          _ = (rasterize d name b m).value := by rw [hpicture]

/-- A text with every switch off. -/
def plainSettings : Settings := { Settings.default with text := "Hi" }

/-- The same with much left over behind the switches. -/
def leftoverSettings : Settings :=
  { plainSettings with
    file := "old.txt"
    font := ⟨"Arial", 22, 0x30⟩
    color := 0xFFFFFFFF
    outlineSize := 9
    outlineColor := 0x123456
    outlineOpacity := 1
    extentsWrap := true
    extentsWidth := 7
    extentsHeight := 5 }

/-- The same with an outline of no width. -/
def hollowSettings : Settings := { plainSettings with outline := true, outlineSize := 0 }

theorem shown_of_alike_leftover :
    let read : TextReader := fun _ => pure []
    let font : Option (Font Float32) :=
      some ⟨.block "Block" false false (Scalar.ofInt 800) (Scalar.ofInt (-200)),
        Scalar.ofInt 22, .plain⟩
    let plain := (State.ofSettings plainSettings read).value
    let leftover := (State.ofSettings leftoverSettings read).value
    let hollow := (State.ofSettings hollowSettings read).value
    plainSettings ≠ leftoverSettings ∧ plainSettings.Alike leftoverSettings ∧
      hollowSettings.outline = true ∧ hollowSettings.outlineSize = 0 ∧
      { hollowSettings with outline := false }.Alike leftoverSettings ∧ Backend.sampled.SignFree ∧
      ∃ l, Layout.compute .words plain font = .ok l ∧ Layout.compute .words leftover font = .ok l ∧
        Layout.compute .words hollow font = .ok l.unsigned ∧
        (rasterize .sampled "text" hollow l.unsigned).value =
          (rasterize .sampled "text" leftover l).value := by
  intro read font plain leftover hollow
  have hplain : plainSettings.Alike leftoverSettings := by constructor <;> decide
  have hhollow : { hollowSettings with outline := false }.Alike leftoverSettings := by
    constructor <;> decide
  obtain ⟨hswitches, -⟩ := shown_of_alike .sampled .words "text" plainSettings leftoverSettings
    .initial .initial read font
  obtain ⟨-, hnoWidth⟩ := shown_of_alike .sampled .words "text" hollowSettings leftoverSettings
    .initial .initial read font
  obtain ⟨-, hsame⟩ := hswitches hplain
  obtain ⟨-, hunsigned⟩ := hnoWidth rfl rfl hhollow
  have hrequest : Layout.requestedEdges .words plain font = (22, 22) := by decide +kernel
  have hcanvas : Canvas.quantized 22 22 = .ok ⟨32, 32⟩ := rfl
  have hl := Layout.compute_of_requestedEdges hrequest hcanvas
  obtain ⟨l, hleftover, rfl, -, -⟩ := hsame.exists_right hl
  obtain ⟨m, hm, rfl, -, -, hpicture⟩ := hunsigned.exists_left hleftover
  have hd : Backend.sampled.SignFree := Backend.sampled_signFree
  exact ⟨by decide, hplain, rfl, rfl, hhollow, hd, _, hl, hleftover, hm, hpicture hd⟩

end Caption
