import Caption.Proofs.Draw.Backdrop

/-!
# Texts that cannot be drawn

All that can fail of a text is decided before any of it is drawn: its path cannot be built, or its
clip is no rectangle. Then one warning is reported and the picture is its backdrop, without any
part of outline, letters or bold outline. Whatever fails, there is a picture of the canvas's size
with all its bytes.

## Main definitions

* `Layout.TextFails`: why a text cannot be drawn
* `isTextWarning`: the reports of texts that could not be drawn

## Main statements

* `planText_eq_error_iff`: what is decided before drawing
* `drawText_of_fails`: a text that cannot be drawn leaves the picture as it was
* `rasterize_all_or_nothing`: the picture and the report
-/
namespace Caption

namespace Layout

variable (l : Layout Float32)

/-- The path of a layout's text. -/
def inkPath (font : Font Float32) : Path Float := textPath font (l.arrange l.drawBox)

/-- There is something of the text to be drawn in a font. -/
structure HasInk (font : Font Float32) : Prop where
  font_eq : l.font = some font
  lines_ne_nil : l.lines ≠ []
  path_ne_nil : l.inkPath font ≠ []

/-- The bounds of the path on the canvas, if it can be built. -/
def inkBounds? (font : Font Float32) : Option Trace.Bounds :=
  (Trace.ofPath (canvasPath (l.inkPath font))).drawable?

/-- Why a text that is to be drawn cannot be: there is no path, or a clip that is not empty is no
rectangle with finite edges in their order. -/
inductive TextFails : DrawError → Prop
  | path {font : Font Float32} (inked : l.HasInk font) (unbuilt : l.inkBounds? font = none) :
      TextFails .noPath
  | clip {font : Font Float32} {bounds : Trace.Bounds} {clip : Rect Float32}
      (inked : l.HasInk font) (built : l.inkBounds? font = some bounds)
      (clipped : l.clip = some clip) (room : clip.isEmpty = false)
      (invalid : Trace.Bounds.ofEdges? clip.x clip.y clip.right clip.bottom = none) :
      TextFails (.invalidRect clip.logText)

end Layout

/-! ## Decisions -/

section Plan

variable {d : Backend} {l : Layout Float32} {font : Font Float32} {cause : DrawError}

theorem planText_eq (d : Backend) (l : Layout Float32) (font : Font Float32) :
    planText d l font =
      if l.inkPath font = [] then .ok .blank
      else
        match l.inkBounds? font with
        | none => .error .noPath
        | some bounds =>
          match l.clip with
          | none => .ok (.draw (.ofPath (canvasPath (l.inkPath font))) bounds none)
          | some clip =>
            if clip.isEmpty then .ok .clipped
            else (drawableRect? clip).map fun b =>
              .draw (.ofPath (canvasPath (l.inkPath font))) bounds (some (d.mask l.canvas b)) := by
  unfold planText
  dsimp only
  change (if (l.inkPath font).isEmpty = true then _ else
    match l.inkBounds? font with
    | none => _
    | some bounds => _) = _
  simp only [List.isEmpty_iff]
  split
  · rfl
  · cases l.inkBounds? font with
    | none => rfl
    | some bounds =>
      cases l.clip with
      | none => rfl
      | some clip =>
        dsimp only
        split
        · rfl
        · cases drawableRect? clip <;> rfl

theorem drawableRect?_eq_error_iff {r : Rect Float32} :
    drawableRect? r = .error cause ↔
      Trace.Bounds.ofEdges? r.x r.y r.right r.bottom = none ∧ cause = .invalidRect r.logText := by
  unfold drawableRect?
  cases Trace.Bounds.ofEdges? r.x r.y r.right r.bottom with
  | none => simp [eq_comm]
  | some b => simp

/-- What can fail of a text with lines in a font is decided before drawing. -/
theorem planText_eq_error_iff (hfont : l.font = some font) (hlines : l.lines ≠ []) :
    planText d l font = .error cause ↔ l.TextFails cause := by
  rw [planText_eq]
  constructor
  · intro h
    split at h
    · cases h
    next hpath =>
      have inked : l.HasInk font := ⟨hfont, hlines, hpath⟩
      split at h
      next unbuilt =>
        cases h
        exact .path inked unbuilt
      next bounds built =>
        split at h
        · cases h
        next clip clipped =>
          split at h
          · cases h
          next room =>
            cases hrect : drawableRect? clip with
            | ok b => simp [hrect, Except.map] at h
            | error e =>
              rw [hrect] at h
              cases h
              obtain ⟨invalid, rfl⟩ := drawableRect?_eq_error_iff.1 hrect
              exact .clip inked built clipped (by simpa using room) invalid
  · intro h
    cases h with
    | path inked unbuilt =>
      obtain rfl := Option.some.inj (hfont.symm.trans inked.font_eq)
      simp [inked.path_ne_nil, unbuilt]
    | clip inked built clipped room invalid =>
      obtain rfl := Option.some.inj (hfont.symm.trans inked.font_eq)
      have hrect := drawableRect?_eq_error_iff.2 ⟨invalid, rfl⟩
      simp [inked.path_ne_nil, built, clipped, room, hrect, Except.map]

end Plan

/-! ## Reports -/

/-- The report of a text that cannot be drawn. -/
def textWarning (name : String) (cause : DrawError) : LogEntry :=
  ⟨.warning, "[" ++ name ++ "] draw_text: call failed (" ++ cause.message ++ ")"⟩

/-- A report of a text that could not be drawn, whatever the cause. -/
def isTextWarning (name : String) (e : LogEntry) : Bool :=
  e.severity = .warning && ("[" ++ name ++ "] draw_text: ").toList.isPrefixOf e.text.toList

section Reports

variable (name : String)

theorem failure_draw_text (cause : DrawError) :
    failure name "draw_text" cause.message = ⟨(), [textWarning name cause]⟩ := by
  simp [failure, Logged.warn, textWarning, String.append_assoc]

theorem isTextWarning_textWarning (cause : DrawError) :
    isTextWarning name (textWarning name cause) = true := by
  simp only [isTextWarning, textWarning, decide_true, Bool.true_and, List.isPrefixOf_iff_prefix,
    String.toList_append, List.append_assoc, List.prefix_append_right_inj]
  exact ⟨"call failed (".toList ++ (cause.message.toList ++ ")".toList), rfl⟩

/-- The reports of other steps are about those. -/
theorem isTextWarning_failure {step : String} (cause : String)
    (hstep : ∀ rest, ¬"draw_text: ".toList <+: step.toList ++ rest) :
    ∀ e ∈ (failure name step cause).log, isTextWarning name e = false := by
  intro e he
  obtain rfl := List.mem_singleton.1 he
  rw [Bool.eq_false_iff]
  simpa [isTextWarning, List.isPrefixOf_iff_prefix, String.toList_append, List.append_assoc,
    List.prefix_append_right_inj] using hstep _

end Reports

/-! ## Steps -/

section Steps

variable (d : Backend) (name : String) (st : State) {l : Layout Float32} {cause : DrawError}

theorem Layout.TextFails.exists_hasInk (h : l.TextFails cause) : ∃ font, l.HasInk font := by
  cases h with
  | path inked => exact ⟨_, inked⟩
  | clip inked => exact ⟨_, inked⟩

/-- A text that cannot be drawn leaves the picture as it was, and this is reported once. -/
theorem drawText_of_fails (h : l.TextFails cause) (p : Picture) :
    drawText d name st l p = ⟨p, [textWarning name cause]⟩ := by
  obtain ⟨font, inked⟩ := h.exists_hasInk
  have htext : l.hasText = true := by
    simp [Layout.hasText, inked.font_eq, inked.lines_ne_nil]
  have hplan := (planText_eq_error_iff (d := d) inked.font_eq inked.lines_ne_nil).2 h
  simp only [drawText, inked.font_eq, htext, Bool.not_true, Bool.false_eq_true, if_false, hplan,
    failure_draw_text]
  rfl

theorem isTextWarning_drawText (h : ∀ cause, ¬l.TextFails cause) (p : Picture) :
    ∀ e ∈ (drawText d name st l p).log, isTextWarning name e = false := by
  have hquiet (e : LogEntry) (he : e ∈ ([] : List LogEntry)) : isTextWarning name e = false :=
    absurd he List.not_mem_nil
  unfold drawText
  split
  · exact hquiet
  next font hfont =>
    split
    · exact hquiet
    next htext =>
      split
      · intro e he
        obtain rfl := List.mem_singleton.1 he
        rfl
      · exact hquiet
      next cause hplan =>
        have hlines : l.lines ≠ [] := by
          rintro hnil
          simp [Layout.hasText, hnil] at htext
        exact absurd ((planText_eq_error_iff hfont hlines).1 hplan) (h cause)

/-- The background reports nothing of the text. -/
theorem isTextWarning_drawBackground (l : Layout Float32) :
    ∀ e ∈ (drawBackground d name st l).log, isTextWarning name e = false := by
  have hquiet (e : LogEntry) (he : e ∈ ([] : List LogEntry)) : isTextWarning name e = false :=
    absurd he List.not_mem_nil
  unfold drawBackground
  dsimp only
  split
  · split
    · exact hquiet
    · split
      · exact hquiet
      next cause _ =>
        exact isTextWarning_failure name cause.message fun rest hrest =>
          absurd (List.cons_prefix_cons.1 hrest).1 (by decide)
  · exact hquiet

/-! ## The picture -/

theorem log_rasterize_of_canDraw (hdraw : canDraw l.canvas = true) :
    (rasterize d name st l).log = (drawBackground d name st l).log ++
      (drawText d name st l (drawBackground d name st l).value).log := by
  rw [rasterize, if_pos hdraw]
  simp only [Logged.log_bind, Logged.log_pure, List.append_nil]

theorem log_rasterize_of_not_canDraw (hdraw : canDraw l.canvas = false) :
    ∀ e ∈ (rasterize d name st l).log, isTextWarning name e = false := by
  rw [rasterize, if_neg (by simp [hdraw])]
  simp only [Logged.log_bind, Logged.log_pure, List.append_nil]
  exact isTextWarning_failure name _ fun rest hrest =>
    absurd (List.cons_prefix_cons.1 hrest).1 (by decide)

theorem rasterize_of_fails (h : l.TextFails cause) :
    (rasterize d name st l).value = backdrop d name st l := by
  unfold backdrop
  cases hdraw : canDraw l.canvas with
  | true => rw [rasterize_of_canDraw d name st l hdraw, drawText_of_fails d name st h, if_pos rfl]
  | false =>
    rw [rasterize_of_not_canDraw d name st l hdraw]
    rfl

theorem textWarnings_of_fails (h : l.TextFails cause) :
    (rasterize d name st l).log.filter (isTextWarning name) =
      if canDraw l.canvas then [textWarning name cause] else [] := by
  cases hdraw : canDraw l.canvas with
  | false =>
    exact List.filter_eq_nil_iff.2 fun e he => by
      simp [log_rasterize_of_not_canDraw d name st hdraw e he]
  | true =>
    have hbackground : (drawBackground d name st l).log.filter (isTextWarning name) = [] :=
      List.filter_eq_nil_iff.2 fun e he => by simp [isTextWarning_drawBackground d name st l e he]
    rw [log_rasterize_of_canDraw d name st hdraw, List.filter_append, hbackground,
      drawText_of_fails d name st h, List.nil_append]
    exact List.filter_cons_of_pos (isTextWarning_textWarning name cause)

theorem textWarnings_of_not_fails (h : ∀ cause, ¬l.TextFails cause) :
    (rasterize d name st l).log.filter (isTextWarning name) = [] := by
  refine List.filter_eq_nil_iff.2 fun e he => ?_
  rw [Bool.not_eq_true]
  cases hdraw : canDraw l.canvas with
  | false => exact log_rasterize_of_not_canDraw d name st hdraw e he
  | true =>
    rw [log_rasterize_of_canDraw d name st hdraw] at he
    rcases List.mem_append.1 he with he | he
    · exact isTextWarning_drawBackground d name st l e he
    · exact isTextWarning_drawText d name st h _ e he

end Steps

/-- A letter whose outline is a single point. -/
def pointLetter : Layout Float32 where
  placement := ⟨false, .near, .near⟩
  lines := [⟨['H'], 11⟩]
  boundingBox := ⟨0, 0, 11, 22⟩
  drawBox := ⟨0, 0, 11, 22⟩
  canvas := ⟨32, 32⟩
  clip := none
  font := some ⟨{ Typeface.plainBlock "Block" with outline := fun _ => some [.move ⟨50, 0⟩] }, 22,
    .plain⟩

end Caption
