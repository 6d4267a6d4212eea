import Caption.Source
import Caption.Proofs.Draw.Whole
import Caption.Proofs.Host.Delivery
import Caption.Proofs.Layout.OnCanvas
import Caption.Proofs.State.Update

/-!
# What an update comes to

An update decides the state, looks for its font, draws the picture and hands it to the host. The
first three do not depend on what the source or the host had before; the last one does what
handing over a whole picture does. The only step that an update can end at is the layout.

## Main definitions

* `World.outcome`: the answer of an act and the world after it
* `SourceKind.found`: the font that is found for a state
* `SourceKind.drawn`: the picture of a state in a font
* `SourceKind.Refreshed`: what drawing a state anew comes to

## Main statements

* `SourceKind.drawn_of_layout`: there is a picture of every layout, whole and of its size
* `SourceKind.exists_refreshed`, `SourceKind.refreshed_of_ok`: a state that has a picture is drawn
  anew, and no other
* `SourceKind.outcome_create`, `SourceKind.outcome_update`
-/
namespace Caption

/-! ## Acts on a world -/

namespace World

variable {σ α β : Type}

/-- What an act answers and the world it leaves. -/
def outcome (act : WorldM σ α) (w : World σ) : α × World σ := (act w).value

@[simp] theorem outcome_pure (a : α) (w : World σ) : outcome (pure a) w = (a, w) := rfl

@[simp] theorem outcome_bind (act : WorldM σ α) (f : α → WorldM σ β) (w : World σ) :
    outcome (act >>= f) w = outcome (f (outcome act w).1) (outcome act w).2 := rfl

@[simp] theorem outcome_report (x : Logged α) (w : World σ) :
    outcome (liftM x) w = (x.value, w) := rfl

@[simp] theorem outcome_onFonts (act : StateT σ Logged α) (w : World σ) :
    outcome (onFonts act) w =
      ((act w.fonts).value.1, { w with fonts := (act w.fonts).value.2 }) := rfl

@[simp] theorem outcome_onHost (act : HostM α) (w : World σ) :
    outcome (onHost act) w =
      ((Host.outcome act w.host).1, { w with host := (Host.outcome act w.host).2 }) := rfl

end World

/-! ## Pictures of a state -/

/-- The name of a source shows in the log only. -/
theorem value_rasterize (d : Backend) (name : String) (st : State) (l : Layout Float32) :
    (rasterize d name st l).value = (rasterize d "" st l).value := by
  have hbackground : (drawBackground d name st l).value = (drawBackground d "" st l).value := by
    unfold drawBackground
    dsimp only
    split
    next =>
      split
      next => rfl
      next => split <;> rfl
    next => rfl
  have htext (p : Picture) : (drawText d name st l p).value = (drawText d "" st l p).value := by
    unfold drawText
    split
    next => rfl
    next =>
      split
      next => rfl
      next => split <;> rfl
  cases h : canDraw l.canvas with
  | true =>
    rw [rasterize_of_canDraw _ _ _ _ h, rasterize_of_canDraw _ _ _ _ h, hbackground, htext]
  | false => rw [rasterize_of_not_canDraw _ _ _ _ h, rasterize_of_not_canDraw _ _ _ _ h]

theorem value_layOut (cut : Segmenter) (st : State) (font : Option (Font Float32)) :
    (layOut cut st font).value = Layout.compute cut st font := by
  unfold layOut
  cases Layout.compute cut st font <;> rfl

namespace SourceKind

variable {σ : Type}

/-- The picture of a state in a font. -/
def drawn (k : SourceKind σ) (st : State) (font : Option (Font Float32)) : Checked Pixels := do
  let l ← Layout.compute k.cut st font
  (rasterize k.backend "" { st with canvas := l.canvas } l).value

section Pictures

variable {k : SourceKind σ} {st : State} {font : Option (Font Float32)}

/-- Every layout can be drawn. -/
theorem drawn_of_layout {l : Layout Float32} (h : Layout.compute k.cut st font = .ok l) :
    ∃ p, k.drawn st font = .ok p ∧ p.canvas = l.canvas ∧
      (rasterize k.backend "" { st with canvas := l.canvas } l).value = .ok p := by
  have hlegal : l.canvas.Legal := Canvas.legal_of_quantized (Layout.quantized_of_compute h)
  obtain ⟨p, hp⟩ :=
    (exists_rasterize_iff k.backend "" { st with canvas := l.canvas } l).2 hlegal.countable
  have hdrawn : k.drawn st font = .ok p := by
    rw [drawn, h]
    exact hp
  exact ⟨p, hdrawn, canvas_of_rasterize hp, hp⟩

theorem drawn_eq_overflow_iff :
    k.drawn st font = .error .overflow ↔ Layout.compute k.cut st font = .error .overflow := by
  cases h : Layout.compute k.cut st font with
  | error =>
    rw [drawn, h]
    exact iff_of_true rfl rfl
  | ok l =>
    obtain ⟨p, hp, -⟩ := drawn_of_layout h
    rw [hp]
    exact iff_of_false nofun nofun

variable {p : Pixels}

theorem layout_of_drawn (h : k.drawn st font = .ok p) :
    ∃ l, Layout.compute k.cut st font = .ok l ∧ l.canvas = p.canvas := by
  obtain ⟨l, hl, hp⟩ := bind_eq_ok_iff.1 h
  exact ⟨l, hl, (canvas_of_rasterize hp).symm⟩

theorem legal_of_drawn (h : k.drawn st font = .ok p) : p.canvas.Legal := by
  obtain ⟨l, hl, hcanvas⟩ := layout_of_drawn h
  exact hcanvas ▸ Canvas.legal_of_quantized (Layout.quantized_of_compute hl)

theorem whole_of_drawn (h : k.drawn st font = .ok p) : p.Whole := by
  obtain ⟨l, -, hp⟩ := bind_eq_ok_iff.1 h
  exact whole_of_rasterize hp

/-- Neither the canvas of before nor the name of a file shows. -/
theorem drawn_keeping (canvas : Canvas) (file : String) :
    k.drawn (State.keeping canvas file st) font = k.drawn st font := rfl

end Pictures

/-! ## Drawing anew -/

/-- The font that is found for a state, and what the fonts remember after the search. -/
def found (k : SourceKind σ) (st : State) (fonts : σ) : Option (Font Float32) × σ :=
  (k.resolver.resolve st.font fonts).value

/-- What drawing a state anew comes to: the canvas is that of the picture in the font that is
found, and the picture is handed over. -/
structure Refreshed (k : SourceKind σ) (s : Source) (w : World σ) (p : Pixels) (s' : Source)
    (w' : World σ) : Prop where
  font : s'.font = (k.found s.state w.fonts).1
  drawn : k.drawn s.state s'.font = .ok p
  state : s'.state = { s.state with canvas := p.canvas }
  delivered : s.surface.Delivered p w.host s'.surface w'.host
  fonts : w'.fonts = (k.found s.state w.fonts).2

section Refresh

variable {k : SourceKind σ} {s : Source} {w : World σ}

theorem refresh_overflows
    (h : k.drawn s.state (k.found s.state w.fonts).1 = .error .overflow) :
    (World.outcome (k.refresh s) w).1 = .error .overflow := by
  have hlayout := drawn_eq_overflow_iff.1 h
  have hfound : (k.resolver.resolve s.state.font w.fonts).value = k.found s.state w.fonts := rfl
  simp only [refresh, World.outcome_bind, World.outcome_onFonts, World.outcome_report,
    value_layOut, hfound, hlayout]
  rfl

/-- A state with a picture is drawn anew, to the end. -/
theorem exists_refreshed (hs : s.surface.Holds w.host) {p : Pixels}
    (hp : k.drawn s.state (k.found s.state w.fonts).1 = .ok p) :
    ∃ s' w', World.outcome (k.refresh s) w = (.ok s', w') ∧ k.Refreshed s w p s' w' := by
  obtain ⟨l, hl, hraster⟩ := bind_eq_ok_iff.1 hp
  have hcanvas : p.canvas = l.canvas := canvas_of_rasterize hraster
  have hfound : (k.resolver.resolve s.state.font w.fonts).value = k.found s.state w.fonts := rfl
  obtain ⟨answer, surface, host, hsync, hdelivered⟩ :=
    Surface.delivered hs (whole_of_drawn hp) (legal_of_drawn hp)
  refine ⟨⟨s.name, { s.state with canvas := l.canvas }, _, surface⟩, ⟨_, host⟩, ?_,
    { font := rfl
      drawn := hp
      state := by rw [hcanvas]
      delivered := hdelivered
      fonts := rfl }⟩
  simp only [refresh, World.outcome_bind, World.outcome_onFonts, World.outcome_report,
    World.outcome_onHost, value_layOut, hfound, hl, value_rasterize k.backend s.name, hraster,
    hsync]
  -- the answers differ in what they report
  cases answer <;> rfl

theorem refreshed_of_ok (hs : s.surface.Holds w.host) {s' : Source} {w' : World σ}
    (h : World.outcome (k.refresh s) w = (.ok s', w')) : ∃ p, k.Refreshed s w p s' w' := by
  cases hp : k.drawn s.state (k.found s.state w.fonts).1 with
  | error =>
    have hout := congrArg Prod.fst h
    rw [refresh_overflows hp] at hout
    cases hout
  | ok p =>
    obtain ⟨_, _, hout, hrefreshed⟩ := exists_refreshed hs hp
    cases hout.symm.trans h
    exact ⟨p, hrefreshed⟩

end Refresh

theorem outcome_create (k : SourceKind σ) (name : String) (t : Settings) (w : World σ) :
    World.outcome (k.create name t) w =
      World.outcome
        (k.refresh ⟨name, (State.ofSettings t k.reader).value, none, .new name⟩) w := by
  simp only [create, World.outcome_bind, World.outcome_report]

theorem outcome_update (k : SourceKind σ) (s : Source) (t : Settings) (w : World σ) :
    World.outcome (k.update s t) w =
      World.outcome (k.refresh { s with state := (s.state.apply t k.reader).value }) w := by
  simp only [update, World.outcome_bind, World.outcome_report]

end SourceKind

end Caption
