import Caption.Proofs.Source.Agreement

/-!
# What a canvas follows

Where the lines stand never shows in the canvas. A caption that is wrapped to a box has the canvas
of that box, whatever is written in it and in whatever font. So a source whose settings keep to one
box keeps one canvas, and all its updates go into the texture that it has.

## Main definitions

* `State.WrapsTo`, `Settings.WrapsTo`: text that is wrapped to a box of this size
* `Scene.Boxed`: a scene whose texture has been in use, and nothing but in use, since

## Main statements

* `Layout.both_compute_aligned`, `Layout.canvas_of_wrapsTo`, `Layout.exists_compute_of_wrapsTo`
* `Scene.boxed_step`, `Scene.boxed_foldlM`: acts that keep to the box keep the texture
* `Scene.canvas_follows`: both for layouts and for sources
-/
namespace Caption

/-- The canvas of a box that wrapped text is laid out in. -/
def Canvas.ofBox (width height : UInt32) : Checked Canvas :=
  Canvas.quantized width.toUInt64.toInt64 height.toUInt64.toInt64

/-- The same caption with its lines and their block in another place. -/
def State.aligned (align : HorizontalAlign) (valign : VerticalAlign) (st : State) : State :=
  { st with align := align, valign := valign }

/-- A caption whose text is wrapped to a box. -/
structure State.WrapsTo (width height : UInt32) (st : State) : Prop where
  extents : st.extents = true
  wrap : st.wrap = true
  width : st.extentsWidth = width
  height : st.extentsHeight = height

/-- Settings that ask for it. -/
structure Settings.WrapsTo (width height : UInt32) (t : Settings) : Prop where
  extents : t.extents = true
  wrap : t.extentsWrap = true
  width : t.extentsWidth = width
  height : t.extentsHeight = height

theorem State.wrapsTo_apply {width height : UInt32} {t : Settings} (h : t.WrapsTo width height)
    (st : State) (read : TextReader) : (st.apply t read).value.WrapsTo width height :=
  ⟨h.extents, h.wrap, h.width, h.height⟩

theorem State.WrapsTo.isFixed {width height : UInt32} {st : State} (h : st.WrapsTo width height) :
    Layout.isFixed st = true := congrArg₂ and h.extents h.wrap

theorem Canvas.exists_ofBox (width height : UInt32) : ∃ box, ofBox width height = .ok box := by
  rw [← Checked.ne_overflow_iff, ofBox, ne_eq, quantized_eq_overflow_iff]
  simp [Layout.extent_ne_maxValue]

/-! ## Layouts -/

namespace Layout

variable {α : Type} [Scalar α] (cut : Segmenter)

section Wrapped

variable {st : State} {font : Option (Font α)} {width height : UInt32} {box : Canvas}
  (h : st.WrapsTo width height) (hbox : Canvas.ofBox width height = .ok box)
include h hbox

/-- Extents that text is wrapped to are the canvas, whatever was measured. -/
theorem canvas_of_wrapsTo {l : Layout α} (hl : compute cut st font = .ok l) : l.canvas = box := by
  have hcanvas : Canvas.ofBox st.extentsWidth st.extentsHeight = .ok l.canvas :=
    canvas_of_fixed h.isFixed hl
  rw [h.width, h.height] at hcanvas
  exact Except.ok.inj (hcanvas.symm.trans hbox)

variable (font) in
theorem exists_compute_of_wrapsTo : ∃ l, compute cut st font = .ok l ∧ l.canvas = box := by
  obtain ⟨l, hl⟩ := exists_compute_of_fixed cut font h.isFixed
  exact ⟨l, hl, canvas_of_wrapsTo cut h hbox hl⟩

end Wrapped

variable (st : State) (align : HorizontalAlign) (valign : VerticalAlign) (font : Option (Font α))

/-- Only the box of wrapped text depends on where the lines stand, and its canvas is fixed. -/
theorem requestedEdges_aligned :
    requestedEdges cut (st.aligned align valign) font = requestedEdges cut st font := by
  cases hfixed : isFixed st with
  | true =>
    have haligned : isFixed (st.aligned align valign) = true := hfixed
    rw [requestedEdges_of_fixed cut font hfixed, requestedEdges_of_fixed cut font haligned]
    rfl
  | false =>
    have haligned : isFixed (st.aligned align valign) = false := hfixed
    have hbox (f : Font α) (lines : List (Line α)) :
        boxOf (st.aligned align valign) f lines = boxOf st f lines := by
      simp only [boxOf, haligned, hfixed]
      rfl
    simp only [requestedEdges, contentBox, hbox]
    rfl

theorem both_compute_aligned :
    Checked.Both (fun l m => m.lines = l.lines ∧ m.canvas = l.canvas)
      (compute cut st font) (compute cut (st.aligned align valign) font) := by
  rw [compute_eq, compute_eq, requestedEdges_aligned]
  cases Canvas.quantized (requestedEdges cut st font).1 (requestedEdges cut st font).2 with
  | error => exact .overflow
  | ok canvas => exact .ok ⟨rfl, rfl⟩

end Layout

/-! ## Sources -/

/-- An act on a texture that leaves it in its place. -/
def HostEvent.InPlace (id : TextureId) : HostEvent → Prop
  | .enter => True
  | .leave => True
  | .update id' => id' = id
  | .draw id' => id' = id
  | .create _ _ => False
  | .createFailed _ => False
  | .destroy _ => False

/-- If the act is an update its settings keep to the box. -/
def SceneAct.KeepsTo (width height : UInt32) : SceneAct → Prop
  | .update c => c.1.WrapsTo width height
  | .render => True
  | .setFailing _ => True

namespace Scene

variable {σ : Type} {k : SourceKind σ}

/-- The canvas of a source is that of its state in its font. -/
def Measured (k : SourceKind σ) (sc : Scene σ) : Prop :=
  ∃ l, Layout.compute k.cut sc.source.state sc.source.font = .ok l ∧ l.canvas = sc.canvas

theorem measured_of_refreshed {s s' : Source} {w w' : World σ} {p : Pixels}
    (h : k.Refreshed s w p s' w') : Measured k ⟨s', w'⟩ := by
  obtain ⟨l, hl, hcanvas⟩ := SourceKind.layout_of_drawn h.drawn
  have hstate : Layout.compute k.cut s'.state s'.font = Layout.compute k.cut s.state s'.font := by
    rw [h.state]
    rfl
  exact ⟨l, hstate.trans hl, hcanvas.trans (congrArg State.canvas h.state).symm⟩

theorem measured_step {sc next : Scene σ} {a : SceneAct} (hagrees : sc.Agrees)
    (h : sc.Measured k) (hnext : sc.step k a = .ok next) : next.Measured k := by
  cases a with
  | update c =>
    obtain ⟨p, hrefreshed⟩ := refreshed_step hagrees.holds hnext
    exact measured_of_refreshed (k := k.reading c.2) hrefreshed
  | render => exact Except.ok.inj hnext ▸ h
  | setFailing on => exact Except.ok.inj hnext ▸ h

theorem measured_foldlM {sc last : Scene σ} (hagrees : sc.Agrees) (h : sc.Measured k)
    {acts : List SceneAct} (hrun : run k sc acts = .ok last) : last.Measured k :=
  (run_keeps (P := fun sc => sc.Agrees ∧ sc.Measured k) (fun hsc hnext =>
    ⟨agrees_step hsc.1 hnext, measured_step hsc.1 hsc.2 hnext⟩) ⟨hagrees, h⟩ hrun).2

/-- A scene with a canvas of this size in the texture `id`, which nothing has happened to since
`h` but updates and drawing. -/
structure Boxed (size : Canvas) (id : TextureId) (h : Host) (sc : Scene σ) : Prop where
  agrees : sc.Agrees
  canvas : sc.canvas = size
  held : sc.source.texture = some id
  events : ∃ es, sc.world.host.events = h.events ++ es ∧ ∀ e ∈ es, e.InPlace id

section

variable {sc next : Scene σ} {id : TextureId} {h : Host} {width height : UInt32} {box : Canvas}
  (hbox : Canvas.ofBox width height = .ok box)

/-- Text that is wrapped to a box is never too long. -/
theorem exists_step_of_wrapsTo (hagrees : sc.Agrees) {c : State.Change}
    (hc : c.1.WrapsTo width height) : ∃ next, sc.step k (.update c) = .ok next := by
  have hstate : State.WrapsTo width height _ := State.wrapsTo_apply hc sc.source.state c.2
  exact exists_step hagrees.holds fun hlong => absurd (hstate.isFixed.symm.trans hlong.1) nofun

include hbox in
/-- What an update to the box asks of the canvas is what the scene has already. -/
theorem canvas_step_of_wrapsTo (hagrees : sc.Agrees) {c : State.Change}
    (hc : c.1.WrapsTo width height) (hnext : sc.step k (.update c) = .ok next) :
    next.canvas = box := by
  obtain ⟨p, hrefreshed⟩ := refreshed_step hagrees.holds hnext
  obtain ⟨l, hl, hcanvas⟩ := SourceKind.layout_of_drawn hrefreshed.drawn
  have hstate : State.WrapsTo width height _ := State.wrapsTo_apply hc sc.source.state c.2
  have hsize : l.canvas = box := Layout.canvas_of_wrapsTo k.cut hstate hbox hl
  exact (congrArg State.canvas hrefreshed.state).trans (hcanvas.symm.trans hsize)

theorem events_render (held : sc.source.texture = some id)
    (hnext : sc.step k .render = .ok next) :
    next.world.host.events = sc.world.host.events ++ [.draw id] := by
  obtain rfl := Except.ok.inj hnext
  have htexture : sc.source.surface.texture = some id := held
  change (Host.outcome sc.source.surface.draw sc.world.host).2.events = _
  rw [Surface.outcome_draw, htexture]
  rfl

include hbox in
/-- An act that keeps to the box comes to an end. -/
theorem boxed_step (hboxed : sc.Boxed box id h) {a : SceneAct} (ha : a.KeepsTo width height) :
    ∃ next, sc.step k a = .ok next ∧ next.Boxed box id h := by
  obtain ⟨hagrees, hcanvas, held, es, hevents, hes⟩ := hboxed
  cases a with
  | update c =>
    obtain ⟨next, hnext⟩ := exists_step_of_wrapsTo (k := k) hagrees ha
    have hsize : next.canvas = box := canvas_step_of_wrapsTo hbox hagrees ha hnext
    obtain ⟨hheld, hupdate⟩ :=
      (updated_step hagrees hnext).in_place id held (hsize.trans hcanvas.symm)
    refine ⟨next, hnext, agrees_step hagrees hnext, hsize, hheld,
      es ++ [.enter, .update id, .leave], ?_, ?_⟩
    · rw [hupdate, hevents, List.append_assoc]
    · intro e he
      rcases List.mem_append.1 he with he | he
      · exact hes e he
      · obtain rfl | rfl | rfl : e = .enter ∨ e = .update id ∨ e = .leave := by simpa using he
        all_goals simp [HostEvent.InPlace]
  | render =>
    have hnext : sc.step k .render = .ok _ := rfl
    refine ⟨_, hnext, agrees_step hagrees hnext, hcanvas, held, es ++ [.draw id], ?_, ?_⟩
    · rw [events_render held hnext, hevents, List.append_assoc]
    · intro e he
      rcases List.mem_append.1 he with he | he
      · exact hes e he
      · rw [List.mem_singleton.1 he]
        rfl
  | setFailing on =>
    have hnext : sc.step k (.setFailing on) = .ok _ := rfl
    exact ⟨_, hnext, agrees_step hagrees hnext, hcanvas, held, es, hevents, hes⟩

include hbox in
theorem boxed_foldlM (hboxed : sc.Boxed box id h) {acts : List SceneAct}
    (hacts : ∀ a ∈ acts, a.KeepsTo width height) :
    ∃ last, run k sc acts = .ok last ∧ last.Boxed box id h :=
  run_completes (P := Boxed box id h) (fun hsc ha => boxed_step hbox hsc ha) hboxed hacts

include hbox in
theorem boxed_of_wrapsTo (hagrees : sc.Agrees) (hmeasured : sc.Measured k)
    (hstate : sc.source.state.WrapsTo width height) (held : sc.source.texture = some id) :
    sc.Boxed box id sc.world.host := by
  obtain ⟨l, hl, hcanvas⟩ := hmeasured
  have hsize : l.canvas = box := Layout.canvas_of_wrapsTo k.cut hstate hbox hl
  exact ⟨hagrees, hcanvas.symm.trans hsize, held, [], by simp, by simp⟩

end

/-- Lines and canvas of a layout do not depend on where the lines stand. Text that is wrapped to a
box always has a layout, and its canvas is that of the box. So a source that has shown some settings
in a box keeps its texture, in one size, while the settings keep to the box: updates come to an end
and put new pixels into it, and nothing is created or destroyed, whether or not the host would. -/
theorem canvas_follows {α : Type} [Scalar α] (cut : Segmenter) (width height : UInt32)
    (k : SourceKind σ) (name : String) (c : State.Change) (w : World σ) (earlier : List SceneAct) :
    (∀ st align valign (font : Option (Font α)),
        Checked.Both (fun l m => m.lines = l.lines ∧ m.canvas = l.canvas)
          (Layout.compute cut st font) (Layout.compute cut (st.aligned align valign) font)) ∧
      ∃ box, Canvas.ofBox width height = .ok box ∧
        (∀ st (font : Option (Font α)), st.WrapsTo width height →
          ∃ l, Layout.compute cut st font = .ok l ∧ l.canvas = box) ∧
        ∀ first sc id, start k name c w = .ok first → run k first earlier = .ok sc →
          sc.source.state.WrapsTo width height → sc.source.texture = some id →
            ∀ acts : List SceneAct, (∀ a ∈ acts, a.KeepsTo width height) →
              ∃ last, run k sc acts = .ok last ∧ last.Boxed box id sc.world.host := by
  obtain ⟨box, hbox⟩ := Canvas.exists_ofBox width height
  refine ⟨Layout.both_compute_aligned cut, box, hbox,
    fun st font hst => Layout.exists_compute_of_wrapsTo cut font hst hbox, ?_⟩
  intro first sc id hstart hearlier hstate held acts hacts
  have hfirst : first.Agrees := agrees_start hstart
  obtain ⟨p, hrefreshed⟩ := refreshed_start hstart
  have hmeasured : sc.Measured k :=
    measured_foldlM hfirst (measured_of_refreshed (k := k.reading c.2) hrefreshed) hearlier
  exact boxed_foldlM hbox
    (boxed_of_wrapsTo hbox (agrees_foldlM hfirst hearlier) hmeasured hstate held) hacts

/-- A longer text that runs downwards goes into the texture of a shorter one, though the host
would make no other. -/
theorem canvas_follows_poster :
    let k : SourceKind BlockShelf := ⟨BlockShelf.load, fun _ => pure [], "Arial", .words, .sampled⟩
    let box : Settings := { Settings.default with
      text := "Hello", extents := true, extentsWrap := true, extentsWidth := 201 }
    let longer : Settings := { box with text := "Hello again", vertical := true, align := "right" }
    let st := (State.ofSettings longer k.reader).value
    st.WrapsTo 201 100 ∧
      (∃ l, Layout.compute .words st (none : Option (Font Float32)) = .ok l ∧
        l.canvas = ⟨202, 100⟩) ∧
      ∃ sc id last, start k "poster" (box, k.reader) ⟨.ofFamilies ["Arial"], .empty⟩ = .ok sc ∧
        sc.source.texture = some id ∧
        run k sc [.setFailing true, .update (longer, k.reader), .render] = .ok last ∧
        last.Boxed ⟨202, 100⟩ id sc.world.host := by
  intro k box longer st
  have hst : st.WrapsTo 201 100 := ⟨rfl, rfl, rfl, rfl⟩
  have hlonger : longer.WrapsTo 201 100 := ⟨rfl, rfl, rfl, rfl⟩
  have hshort : ¬k.TooLong (State.ofSettings box k.reader).value (.ofFamilies ["Arial"]) :=
    fun hlong => absurd hlong.1 nofun
  obtain ⟨sc, hstart⟩ := exists_start (w := ⟨_, .empty⟩) (c := (box, k.reader)) "poster" hshort
  obtain ⟨p, hrefreshed⟩ := refreshed_start hstart
  have hbox : sc.source.state.WrapsTo 201 100 := by
    rw [hrefreshed.state]
    exact ⟨rfl, rfl, rfl, rfl⟩
  have hmade : sc.source.texture ≠ none := mt (texture_start_eq_none_iff hstart).1 (by decide)
  obtain ⟨id, held⟩ := Option.ne_none_iff_exists'.1 hmade
  obtain ⟨-, size, hsize, hlayout, hkept⟩ := canvas_follows (α := Float32) .words 201 100 k "poster"
    (box, k.reader) ⟨.ofFamilies ["Arial"], .empty⟩ []
  obtain rfl : size = ⟨202, 100⟩ := Except.ok.inj (hsize.symm.trans rfl)
  obtain ⟨last, hlast, hboxed⟩ := hkept sc sc id hstart rfl hbox held
    [.setFailing true, .update (longer, k.reader), .render] (by simp [SceneAct.KeepsTo, hlonger])
  exact ⟨hst, hlayout st none hst, sc, id, last, hstart, held, hlast, hboxed⟩

end Scene

end Caption
