import Caption.Draw.Sampled
import Caption.Proofs.Layout.Request
import Caption.Proofs.Source.Update

/-!
# Canvas and texture agree

A source is updated again and again, drawn in between, and its host refuses to make textures now
and then. Its canvas is always legal, and its texture, if there is one, is stored by the host in
the size of the canvas. Without a refusal there is one after each update. Only a text that is too
long for any canvas ends an update early, and with it all that is done with the source.

## Main definitions

* `SourceKind.TooLong`: no canvas can follow the text
* `Scene`: a source in its world; `Scene.start`, `Scene.step`, `Scene.run`: what is done with it
* `Scene.Agrees`: canvas, surface and stored texture have one size
* `Scene.Updated`: what an update changes

## Main statements

* `Scene.run_keeps`, `Scene.run_completes`: what each act keeps all acts keep
* `Scene.agrees_step`: one act keeps the agreement
* `Scene.agrees_run`: what holds after any acts
-/
namespace Caption

variable {σ : Type}

namespace SourceKind

/-- The same kind of source when files hold something else. -/
def reading (k : SourceKind σ) (read : TextReader) : SourceKind σ := { k with reader := read }

/-- The canvas is to follow a box of `2 ^ 63` pixels or more, in the font that is found. -/
def TooLong (k : SourceKind σ) (st : State) (fonts : σ) : Prop :=
  let box := Layout.measuredBox k.cut st (k.found st fonts).1
  Layout.isFixed st = false ∧
    (Scalar.ofInt (2 ^ 63) ≤ box.width ∨ Scalar.ofInt (2 ^ 63) ≤ box.height)

theorem drawn_eq_overflow_iff_tooLong {k : SourceKind σ} {st : State} {fonts : σ} :
    k.drawn st (k.found st fonts).1 = .error .overflow ↔ k.TooLong st fonts :=
  drawn_eq_overflow_iff.trans Layout.compute_eq_overflow_iff

/-- A text whose box is shorter on both axes is not too long. -/
theorem not_tooLong {k : SourceKind σ} {st : State} {fonts : σ}
    (hwidth : ¬Scalar.ofInt (2 ^ 63) ≤ (Layout.measuredBox k.cut st (k.found st fonts).1).width)
    (hheight : ¬Scalar.ofInt (2 ^ 63) ≤ (Layout.measuredBox k.cut st (k.found st fonts).1).height) :
    ¬k.TooLong st fonts := fun hlong => hlong.2.elim hwidth hheight

/-- Neither the canvas of before nor the name of a file makes a text longer. -/
theorem tooLong_apply {k : SourceKind σ} {st : State} {c : State.Change} {fonts : σ} :
    k.TooLong (st.apply c.1 c.2).value fonts ↔
      k.TooLong (State.ofSettings c.1 c.2).value fonts := by
  rw [State.apply_eq, Logged.map_eq]
  exact Iff.rfl

end SourceKind

/-- A source in its world. -/
structure Scene (σ : Type) where
  source : Source
  world : World σ

inductive SceneAct where
  | update (c : State.Change)
  | render
  | setFailing (on : Bool)

namespace Scene

/-- The scene after an act that answers the source. -/
def ofOutcome (x : Checked Source × World σ) : Checked (Scene σ) := x.1.map (⟨·, x.2⟩)

/-- A new source. -/
def start (k : SourceKind σ) (name : String) (c : State.Change) (w : World σ) :
    Checked (Scene σ) :=
  ofOutcome (World.outcome ((k.reading c.2).create name c.1) w)

def step (k : SourceKind σ) (sc : Scene σ) : SceneAct → Checked (Scene σ)
  | .update c => ofOutcome (World.outcome ((k.reading c.2).update sc.source c.1) sc.world)
  | .render => .ok { sc with world := (World.outcome sc.source.draw sc.world).2 }
  | .setFailing on =>
    .ok { sc with world := { sc.world with host := sc.world.host.setFailing on } }

/-- Acts one after the other, up to the first that overflows. -/
def run (k : SourceKind σ) (sc : Scene σ) (acts : List SceneAct) : Checked (Scene σ) :=
  acts.foldlM (step k) sc

def canvas (sc : Scene σ) : Canvas := sc.source.state.canvas

/-- The canvas is legal, and a texture is stored as a whole picture of its size. -/
structure Agrees (sc : Scene σ) : Prop where
  canvas : sc.canvas.Legal
  size : sc.source.surface.size = sc.canvas
  texture : ∀ id, sc.source.texture = some id →
    ∃ p, sc.world.host.texture? id = some p ∧ p.canvas = sc.canvas ∧ p.Whole

/-- What an update changes. It leaves with the graphics context given back. -/
structure Updated (sc next : Scene σ) : Prop where
  /-- There is no texture exactly when the host refuses to make one that is needed. -/
  refused_iff : next.source.texture = none ↔
    sc.world.host.failing = true ∧ ¬ (sc.source.texture.isSome = true ∧ next.canvas = sc.canvas)
  /-- While the size stays the texture stays, and the host takes its new pixels. -/
  in_place : ∀ id, sc.source.texture = some id → next.canvas = sc.canvas →
    next.source.texture = some id ∧
      next.world.host.events = sc.world.host.events ++ [.enter, .update id, .leave]
  depth : next.world.host.depth = sc.world.host.depth

variable {k : SourceKind σ} {sc next last : Scene σ}

/-! ## Any acts -/

/-- What each act keeps is kept by all of them. -/
theorem run_keeps {P : Scene σ → Prop}
    (hstep : ∀ {sc next : Scene σ} {a : SceneAct}, P sc → sc.step k a = .ok next → P next)
    (h : P sc) {acts : List SceneAct} (hrun : run k sc acts = .ok last) : P last := by
  induction acts generalizing sc with
  | nil => exact Except.ok.inj hrun ▸ h
  | cons a acts ih =>
    rw [run, List.foldlM_cons] at hrun
    obtain ⟨next, hnext, hrest⟩ := bind_eq_ok_iff.1 hrun
    exact ih (hstep h hnext) hrest

/-- Acts that each come to an end, in a scene like the one before, do so one after the other. -/
theorem run_completes {P : Scene σ → Prop} {Q : SceneAct → Prop}
    (hstep : ∀ {sc : Scene σ} {a : SceneAct}, P sc → Q a → ∃ next, sc.step k a = .ok next ∧ P next)
    (h : P sc) {acts : List SceneAct} (hacts : ∀ a ∈ acts, Q a) :
    ∃ last, run k sc acts = .ok last ∧ P last := by
  induction acts generalizing sc with
  | nil => exact ⟨sc, rfl, h⟩
  | cons a acts ih =>
    obtain ⟨ha, hrest⟩ := List.forall_mem_cons.1 hacts
    obtain ⟨next, hnext, hkept⟩ := hstep h ha
    obtain ⟨last, hlast, hend⟩ := ih hkept hrest
    refine ⟨last, ?_, hend⟩
    rw [run, List.foldlM_cons, hnext]
    exact hlast

/-! ## Updates -/

theorem Agrees.holds (h : sc.Agrees) : sc.source.surface.Holds sc.world.host := by
  intro id hid
  obtain ⟨p, hp, hcanvas, hwhole⟩ := h.texture id hid
  exact ⟨p, hp, hcanvas.trans h.size.symm, hwhole⟩

theorem holds_new (name : String) (h : Host) : (Surface.new name).Holds h := nofun

/-- Drawing a state anew brings canvas and texture in line. -/
theorem agrees_of_refreshed {s s' : Source} {w w' : World σ} {p : Pixels}
    (h : k.Refreshed s w p s' w') : Agrees ⟨s', w'⟩ := by
  obtain ⟨-, hdrawn, hstate, hdelivered, -⟩ := h
  have hcanvas : canvas ⟨s', w'⟩ = p.canvas := congrArg State.canvas hstate
  refine ⟨?_, ?_, ?_⟩
  · exact hcanvas ▸ SourceKind.legal_of_drawn hdrawn
  · exact hdelivered.size.trans hcanvas.symm
  · intro id hid
    exact ⟨p, hdelivered.shows id hid, hcanvas.symm, SourceKind.whole_of_drawn hdrawn⟩

theorem ofOutcome_eq_ok_iff {x : Checked Source × World σ} :
    ofOutcome x = .ok next ↔ x = (.ok next.source, next.world) := by
  obtain ⟨_ | s, w⟩ := x
  · exact iff_of_false nofun nofun
  · obtain ⟨s', w'⟩ := next
    simp [ofOutcome, Except.map]

/-- A scene is drawn anew if its picture does not overflow. -/
theorem ofOutcome_refresh_eq_overflow_iff {s : Source} {w : World σ}
    (hs : s.surface.Holds w.host) :
    ofOutcome (World.outcome (k.refresh s) w) = .error .overflow ↔ k.TooLong s.state w.fonts := by
  rw [← SourceKind.drawn_eq_overflow_iff_tooLong]
  cases hp : k.drawn s.state (k.found s.state w.fonts).1 with
  | error =>
    rw [ofOutcome, SourceKind.refresh_overflows hp]
    exact iff_of_true rfl rfl
  | ok p =>
    obtain ⟨s', w', hout, -⟩ := SourceKind.exists_refreshed hs hp
    rw [hout]
    exact iff_of_false nofun nofun

/-- What an update does is drawing a state anew. -/
theorem step_update (k : SourceKind σ) (sc : Scene σ) (c : State.Change) :
    sc.step k (.update c) =
      ofOutcome (World.outcome ((k.reading c.2).refresh
        { sc.source with state := (sc.source.state.apply c.1 c.2).value }) sc.world) :=
  congrArg ofOutcome (SourceKind.outcome_update (k.reading c.2) sc.source c.1 sc.world)

theorem start_eq (k : SourceKind σ) (name : String) (c : State.Change) (w : World σ) :
    start k name c w =
      ofOutcome (World.outcome ((k.reading c.2).refresh
        ⟨name, (State.ofSettings c.1 c.2).value, none, .new name⟩) w) :=
  congrArg ofOutcome (SourceKind.outcome_create (k.reading c.2) name c.1 w)

theorem refreshed_step (h : sc.source.surface.Holds sc.world.host) {c : State.Change}
    (hnext : sc.step k (.update c) = .ok next) :
    ∃ p, (k.reading c.2).Refreshed
      { sc.source with state := (sc.source.state.apply c.1 c.2).value } sc.world p
      next.source next.world := by
  rw [step_update] at hnext
  have hout := ofOutcome_eq_ok_iff.1 hnext
  refine SourceKind.refreshed_of_ok ?_ hout
  exact h

theorem refreshed_start {name : String} {c : State.Change} {w : World σ}
    (hnext : start k name c w = .ok next) :
    ∃ p, (k.reading c.2).Refreshed ⟨name, (State.ofSettings c.1 c.2).value, none, .new name⟩ w p
      next.source next.world := by
  rw [start_eq] at hnext
  exact SourceKind.refreshed_of_ok (holds_new name w.host) (ofOutcome_eq_ok_iff.1 hnext)

theorem step_eq_overflow_iff (h : sc.source.surface.Holds sc.world.host) (c : State.Change) :
    sc.step k (.update c) = .error .overflow ↔
      k.TooLong (sc.source.state.apply c.1 c.2).value sc.world.fonts := by
  rw [step_update]
  exact ofOutcome_refresh_eq_overflow_iff h

theorem start_eq_overflow_iff (k : SourceKind σ) (name : String) (c : State.Change)
    (w : World σ) :
    start k name c w = .error .overflow ↔ k.TooLong (State.ofSettings c.1 c.2).value w.fonts := by
  rw [start_eq]
  exact ofOutcome_refresh_eq_overflow_iff (holds_new name w.host)

theorem exists_step (h : sc.source.surface.Holds sc.world.host) {c : State.Change}
    (hshort : ¬k.TooLong (sc.source.state.apply c.1 c.2).value sc.world.fonts) :
    ∃ next, sc.step k (.update c) = .ok next :=
  Checked.ne_overflow_iff.1 (mt (step_eq_overflow_iff h c).1 hshort)

theorem exists_start {k : SourceKind σ} (name : String) {c : State.Change} {w : World σ}
    (hshort : ¬k.TooLong (State.ofSettings c.1 c.2).value w.fonts) :
    ∃ first, start k name c w = .ok first :=
  Checked.ne_overflow_iff.1 (mt (start_eq_overflow_iff k name c w).1 hshort)

theorem updated_step (h : sc.Agrees) {c : State.Change}
    (hnext : sc.step k (.update c) = .ok next) : sc.Updated next := by
  obtain ⟨p, hrefreshed⟩ := refreshed_step h.holds hnext
  have hdelivered := hrefreshed.delivered
  have hcanvas : next.canvas = p.canvas := congrArg State.canvas hrefreshed.state
  -- the picture that is handed over has the size of the new canvas
  have hsize : sc.source.surface.size = p.canvas ↔ next.canvas = sc.canvas := by
    rw [h.size, hcanvas]
    exact eq_comm
  refine ⟨?_, ?_, hdelivered.depth⟩
  · rw [← hsize]
    exact hdelivered.refused_iff
  · intro id hid hsame
    exact hdelivered.in_place id hid (hsize.2 hsame)

/-- Drawing leaves the stored textures as they are. -/
theorem texture?_render (hnext : sc.step k .render = .ok next) :
    next.source = sc.source ∧ next.world.host.texture? = sc.world.host.texture? := by
  obtain rfl := Except.ok.inj hnext
  have htextures : (World.outcome sc.source.draw sc.world).2.host.textures =
      sc.world.host.textures := by
    change (Host.outcome sc.source.surface.draw sc.world.host).2.textures = _
    rw [Surface.outcome_draw]
    split <;> rfl
  refine ⟨rfl, ?_⟩
  unfold Host.texture?
  rw [htextures]

/-! ## Agreement -/

theorem agrees_step {a : SceneAct} (h : sc.Agrees) (hnext : sc.step k a = .ok next) :
    next.Agrees := by
  cases a with
  | update c =>
    obtain ⟨p, hrefreshed⟩ := refreshed_step h.holds hnext
    exact agrees_of_refreshed hrefreshed
  | render =>
    obtain ⟨hsource, htextures⟩ := texture?_render hnext
    obtain ⟨s, w⟩ := next
    obtain rfl : s = sc.source := hsource
    exact ⟨h.canvas, h.size, fun id hid => htextures ▸ h.texture id hid⟩
  | setFailing on =>
    obtain rfl := Except.ok.inj hnext
    exact ⟨h.canvas, h.size, h.texture⟩

theorem agrees_foldlM (h : sc.Agrees) {acts : List SceneAct} (hrun : run k sc acts = .ok last) :
    last.Agrees := run_keeps (P := Agrees) agrees_step h hrun

section Start

variable {name : String} {c : State.Change} {w : World σ} {first : Scene σ}
  (hstart : start k name c w = .ok first)
include hstart

theorem agrees_start : first.Agrees := by
  obtain ⟨p, hrefreshed⟩ := refreshed_start hstart
  exact agrees_of_refreshed hrefreshed

theorem texture_start_eq_none_iff : first.source.texture = none ↔ w.host.failing = true := by
  obtain ⟨p, hrefreshed⟩ := refreshed_start hstart
  have hrefused := hrefreshed.delivered.refused_iff
  simpa [Source.texture, Surface.Keeps, Surface.new] using hrefused

end Start

/-- Every family has a face of its name, in all styles. -/
def facesOf (face : String → Typeface Float32) : FontProvider Unit := fun family _ =>
  pure (.ok (face family))

/-- Sources whose letters are half an em wide and only `10 ^ -20` units high. -/
def shallowKind : SourceKind Unit where
  provider := facesOf fun family => .block family false false (Scalar.decimal 1 20) Scalar.zero
  reader _ := pure []
  defaultFace := "Arial"
  cut := .words
  backend := .sampled

theorem tooLong_shallowKind : shallowKind.TooLong
    (State.ofSettings { Settings.default with text := "Hi" } shallowKind.reader).value () :=
  ⟨rfl, .inl (by decide +kernel)⟩

end Scene

end Caption
