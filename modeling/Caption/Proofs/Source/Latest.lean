import Caption.Proofs.Font.Steady
import Caption.Proofs.Source.Agreement

/-!
# Only the latest settings show

Whatever a source was told before, an update leaves it as a new source with the same settings,
as long as its fonts are steady and the host makes the texture that is needed. The same update
once more changes nothing that can be seen; even the texture stays.

## Main definitions

* `Scene.picture?`: what a source shows
* `Scene.Shows`: a scene shows what a change asks for
* `Scene.Alike`, `Scene.Unmoved`: two scenes look the same, in the same texture
* `Scene.Settled`: a scene that shows what a change asks for in a certain texture

## Main statements

* `Scene.shows_step`, `Scene.shows_start`: an update shows what it asks for
* `Scene.settled_foldlM`: what is shown stays while the same update is repeated
* `Scene.alike_latest`: a source after any acts and a new one
-/
namespace Caption

variable {σ : Type}

namespace SourceKind

theorem steady_found {k : SourceKind σ} {among : σ → Prop} (h : k.provider.Steady among)
    (st : State) : Steady among (k.found st) :=
  Resolver.steady_resolve (r := k.resolver) h st.font

/-- Steady fonts make a text too long once and for all. -/
theorem tooLong_congr {k : SourceKind σ} {among : σ → Prop} (h : k.provider.Steady among)
    {x y : σ} (hx : among x) (hy : among y) {st : State} : k.TooLong st x ↔ k.TooLong st y := by
  have hfont : (k.found st x).1 = (k.found st y).1 := (steady_found h st).same hx hy
  rw [TooLong, TooLong, hfont]

end SourceKind

/-- If the act is an update it is the one to `c`. -/
def SceneAct.Repeats (c : State.Change) : SceneAct → Prop
  | .update c' => c' = c
  | .render => True
  | .setFailing _ => True

namespace Scene

/-- The picture that the host stores for the source. -/
def picture? (sc : Scene σ) : Option Pixels := sc.source.texture.bind sc.world.host.texture?

/-- Font, canvas and picture are those of a new caption that is drawn in the font which is found
from the memory `x`. -/
structure Shows (k : SourceKind σ) (x : σ) (c : State.Change) (p : Pixels) (sc : Scene σ) :
    Prop where
  font : sc.source.font = (k.found (State.ofSettings c.1 c.2).value x).1
  drawn : k.drawn (State.ofSettings c.1 c.2).value sc.source.font = .ok p
  canvas : sc.canvas = p.canvas
  stored : ∀ id, sc.source.texture = some id → sc.world.host.texture? id = some p

/-- Two sources show one picture, with one font. -/
structure Alike (sc sc' : Scene σ) : Prop where
  canvas : sc.canvas = sc'.canvas
  font : sc.source.font = sc'.source.font
  picture : ∃ p, sc.picture? = some p ∧ sc'.picture? = some p

/-- And they show it in one texture. -/
structure Unmoved (sc sc' : Scene σ) : Prop extends Alike sc sc' where
  texture : sc.source.texture = sc'.source.texture

/-- Canvas and texture agree, and the memory of the fonts is one among some. -/
structure Sound (among : σ → Prop) (sc : Scene σ) : Prop where
  agrees : sc.Agrees
  fonts : among sc.world.fonts

/-- A scene that shows in the texture `id` what `c` asks for. -/
structure Settled (k : SourceKind σ) (among : σ → Prop) (x : σ) (c : State.Change) (p : Pixels)
    (id : TextureId) (sc : Scene σ) : Prop extends Sound among sc where
  shows : sc.Shows k x c p
  held : sc.source.texture = some id

section

variable {k : SourceKind σ} {among : σ → Prop} {sc next last : Scene σ} {x : σ}
  {c : State.Change} {p : Pixels}

theorem Shows.picture?_eq {id : TextureId} (h : sc.Shows k x c p)
    (held : sc.source.texture = some id) : sc.picture? = some p := by
  rw [picture?, held]
  exact h.stored id held

/-- From one memory a change is shown in one font and one picture. -/
theorem Shows.unique {p' : Pixels} (h : sc.Shows k x c p) (h' : next.Shows k x c p') :
    sc.source.font = next.source.font ∧ p = p' := by
  have hfont : sc.source.font = next.source.font := h.font.trans h'.font.symm
  exact ⟨hfont, Except.ok.inj (h.drawn.symm.trans (hfont ▸ h'.drawn))⟩

theorem Shows.alike {p' : Pixels} {id id' : TextureId} (h : sc.Shows k x c p)
    (held : sc.source.texture = some id) (h' : next.Shows k x c p')
    (held' : next.source.texture = some id') : sc.Alike next := by
  obtain ⟨hfont, rfl⟩ := h.unique h'
  exact ⟨h.canvas.trans h'.canvas.symm, hfont, p, h.picture?_eq held, h'.picture?_eq held'⟩

/-! ## One update -/

/-- The canvas of before and the name of a file do not show. -/
theorem shows_of_refreshed (hk : k.provider.Steady among) (hx : among x) {s s' : Source}
    {w w' : World σ} (hw : among w.fonts) {canvas : Canvas} {file : String}
    (hstate : s.state = State.keeping canvas file (State.ofSettings c.1 c.2).value)
    (h : (k.reading c.2).Refreshed s w p s' w') : Shows k x c p ⟨s', w'⟩ := by
  obtain ⟨hfont, hdrawn, hstate', hdelivered, -⟩ := h
  have hfound : (k.reading c.2).found s.state = k.found (State.ofSettings c.1 c.2).value := by
    rw [hstate]
    rfl
  refine ⟨?_, ?_, congrArg State.canvas hstate', hdelivered.shows⟩
  · rw [hfound] at hfont
    exact hfont.trans ((SourceKind.steady_found hk _).same hw hx)
  · rw [hstate, SourceKind.drawn_keeping] at hdrawn
    exact hdrawn

theorem shows_step (hk : k.provider.Steady among) (hx : among x) (h : sc.Sound among)
    (hnext : sc.step k (.update c) = .ok next) : ∃ p, next.Shows k x c p := by
  obtain ⟨p, hrefreshed⟩ := refreshed_step h.agrees.holds hnext
  exact ⟨p, shows_of_refreshed hk hx h.fonts
    (by rw [State.apply_eq, Logged.map_eq]) hrefreshed⟩

theorem shows_start (hk : k.provider.Steady among) (hx : among x) {name : String} {w : World σ}
    (hw : among w.fonts) (hnext : start k name c w = .ok next) : ∃ p, next.Shows k x c p := by
  obtain ⟨p, hrefreshed⟩ := refreshed_start hnext
  exact ⟨p, shows_of_refreshed hk hx hw
    (s := ⟨name, (State.ofSettings c.1 c.2).value, none, .new name⟩) rfl hrefreshed⟩

theorem failedSince_step_iff (h : sc.Agrees) (hnext : sc.step k (.update c) = .ok next) :
    sc.world.host.FailedSince next.world.host ↔ next.source.texture = none := by
  obtain ⟨p, hrefreshed⟩ := refreshed_step h.holds hnext
  exact hrefreshed.delivered.failed_iff.symm

theorem failedSince_start_iff {name : String} {w : World σ}
    (hnext : start k name c w = .ok next) :
    w.host.FailedSince next.world.host ↔ next.source.texture = none := by
  obtain ⟨p, hrefreshed⟩ := refreshed_start hnext
  exact hrefreshed.delivered.failed_iff.symm

/-- An update and a new source with the same settings come to an end, both or neither. -/
theorem exists_step_iff_exists_start (hk : k.provider.Steady among) (h : sc.Sound among)
    (name : String) {w : World σ} (hw : among w.fonts) :
    (∃ next, sc.step k (.update c) = .ok next) ↔ ∃ first, start k name c w = .ok first := by
  rw [← Checked.ne_overflow_iff, ← Checked.ne_overflow_iff, ne_eq, ne_eq,
    step_eq_overflow_iff h.agrees.holds, start_eq_overflow_iff, SourceKind.tooLong_apply,
    SourceKind.tooLong_congr hk h.fonts hw]

/-! ## Several acts -/

theorem sound_step (hk : k.provider.Steady among) (h : sc.Sound among) {a : SceneAct}
    (hnext : sc.step k a = .ok next) : next.Sound among := by
  refine ⟨agrees_step h.agrees hnext, ?_⟩
  cases a with
  | update c =>
    obtain ⟨p, hrefreshed⟩ := refreshed_step h.agrees.holds hnext
    rw [hrefreshed.fonts]
    exact (SourceKind.steady_found (k := k.reading c.2) hk _).stays h.fonts
  | render => exact Except.ok.inj hnext ▸ h.fonts
  | setFailing on => exact Except.ok.inj hnext ▸ h.fonts

theorem sound_foldlM (hk : k.provider.Steady among) (h : sc.Sound among) {acts : List SceneAct}
    (hrun : run k sc acts = .ok last) : last.Sound among :=
  run_keeps (P := Sound among) (fun hsc hnext => sound_step hk hsc hnext) h hrun

theorem sound_start (hk : k.provider.Steady among) {name : String} {w : World σ}
    (hw : among w.fonts) (hstart : start k name c w = .ok next) : next.Sound among := by
  refine ⟨agrees_start hstart, ?_⟩
  obtain ⟨p, hrefreshed⟩ := refreshed_start hstart
  rw [hrefreshed.fonts]
  exact (SourceKind.steady_found (k := k.reading c.2) hk _).stays hw

/-- Each repeated update draws the same picture of the same size, so it comes to an end and the
picture is put into the texture there is, whether or not the host would make another. -/
theorem settled_step (hk : k.provider.Steady among) (hx : among x) {id : TextureId}
    (h : sc.Settled k among x c p id) {a : SceneAct} (ha : a.Repeats c) :
    ∃ next, sc.step k a = .ok next ∧ next.Settled k among x c p id := by
  obtain ⟨hfont, hdrawn, hcanvas, hstored⟩ := h.shows
  cases a with
  | update c' =>
    obtain rfl : c' = c := ha
    have hshort : ¬k.TooLong (State.ofSettings c'.1 c'.2).value x := by
      rw [← SourceKind.drawn_eq_overflow_iff_tooLong, ← hfont, hdrawn]
      nofun
    obtain ⟨next, hnext⟩ := exists_step (k := k) h.agrees.holds (c := c')
      (by rwa [SourceKind.tooLong_apply, SourceKind.tooLong_congr hk h.fonts hx])
    obtain ⟨p', hshows⟩ := shows_step hk hx h.toSound hnext
    obtain ⟨-, rfl⟩ := h.shows.unique hshows
    have hsize : next.canvas = sc.canvas := hshows.canvas.trans hcanvas.symm
    exact ⟨next, hnext, sound_step hk h.toSound hnext, hshows,
      ((updated_step h.agrees hnext).in_place id h.held hsize).1⟩
  | render =>
    have hrender : sc.step k .render = .ok _ := rfl
    obtain ⟨-, htextures⟩ := texture?_render hrender
    exact ⟨_, hrender, sound_step hk h.toSound hrender,
      ⟨hfont, hdrawn, hcanvas, htextures ▸ hstored⟩, h.held⟩
  | setFailing on =>
    have hset : sc.step k (.setFailing on) = .ok _ := rfl
    exact ⟨_, hset, sound_step hk h.toSound hset, ⟨hfont, hdrawn, hcanvas, hstored⟩, h.held⟩

theorem settled_foldlM (hk : k.provider.Steady among) (hx : among x) {id : TextureId}
    (h : sc.Settled k among x c p id) {acts : List SceneAct} (hacts : ∀ a ∈ acts, a.Repeats c) :
    ∃ last, run k sc acts = .ok last ∧ last.Settled k among x c p id :=
  run_completes (P := Settled k among x c p id) (fun hsc ha => settled_step hk hx hsc ha) h hacts

end

/-! ## Any acts -/

/-- After any acts an update comes to an end if a new source with the same settings does. If its
texture can be made it leaves a source that looks like the new one, and it stays just so while that
update is all that is repeated. -/
theorem alike_latest (k : SourceKind σ) {among : σ → Prop} (hk : k.provider.Steady among)
    (name name' : String) (c₀ c : State.Change) {w w' : World σ} (hw : among w.fonts)
    (hw' : among w'.fonts) {first : Scene σ} (hfirst : start k name c₀ w = .ok first)
    {acts : List SceneAct} {earlier : Scene σ} (hearlier : run k first acts = .ok earlier) :
    Checked.Both (fun last new =>
        ¬ earlier.world.host.FailedSince last.world.host →
          (¬ w'.host.FailedSince new.world.host → last.Alike new) ∧
            ∀ again : List SceneAct, (∀ a ∈ again, a.Repeats c) →
              ∃ sc, run k last again = .ok sc ∧ sc.Unmoved last)
      (earlier.step k (.update c)) (start k name' c w') := by
  have hsound : earlier.Sound among := sound_foldlM hk (sound_start hk hw hfirst) hearlier
  have hexists := exists_step_iff_exists_start hk hsound (c := c) name' hw'
  refine .of_exists_iff hexists fun last new hlast hnew hmade => ?_
  obtain ⟨p, hshows⟩ := shows_step hk hw hsound hlast
  obtain ⟨id, held⟩ :=
    Option.ne_none_iff_exists'.1 (mt (failedSince_step_iff hsound.agrees hlast).2 hmade)
  refine ⟨fun hmade' => ?_, fun again hagain => ?_⟩
  · obtain ⟨id', held'⟩ := Option.ne_none_iff_exists'.1 (mt (failedSince_start_iff hnew).2 hmade')
    obtain ⟨p', hshows'⟩ := shows_start hk hw hw' hnew
    exact hshows.alike held hshows' held'
  · have hsettled : last.Settled k among w.fonts c p id :=
      ⟨sound_step hk hsound hlast, hshows, held⟩
    obtain ⟨sc, hsc, hend⟩ := settled_foldlM hk hw hsettled hagain
    exact ⟨sc, hsc, hend.shows.alike hend.held hshows held, hend.held.trans held.symm⟩

/-- A longer text that the host refused in between does not show in the end. -/
theorem alike_latest_hello :
    let k : SourceKind BlockShelf := ⟨BlockShelf.load, fun _ => pure [], "Arial", .words, .sampled⟩
    let world : World BlockShelf := ⟨.ofFamilies ["Arial"], .empty⟩
    let hello : State.Change := ({ Settings.default with text := "Hello" }, k.reader)
    let longer : State.Change := ({ Settings.default with text := "Hello again" }, k.reader)
    ∃ first earlier last new sc, start k "first" hello world = .ok first ∧
      run k first [.setFailing true, .update longer, .render, .setFailing false] = .ok earlier ∧
      earlier.step k (.update hello) = .ok last ∧ start k "second" hello world = .ok new ∧
      last.Alike new ∧
      run k last [.setFailing true, .update hello, .render] = .ok sc ∧ sc.Unmoved last := by
  intro k world hello longer
  let among (shelf : BlockShelf) : Prop := shelf.families = ["Arial"]
  have hk : k.provider.Steady among := BlockShelf.steady_load ["Arial"]
  have hw : among world.fonts := rfl
  have hshort : ¬k.TooLong (State.ofSettings hello.1 hello.2).value world.fonts :=
    SourceKind.not_tooLong (by decide +kernel) (by decide +kernel)
  have hshort' : ¬k.TooLong (State.ofSettings longer.1 longer.2).value world.fonts :=
    SourceKind.not_tooLong (by decide +kernel) (by decide +kernel)
  obtain ⟨first, hfirst⟩ := exists_start "first" hshort
  obtain ⟨new, hnew⟩ := exists_start "second" hshort
  have hsound : first.Sound among := sound_start hk hw hfirst
  -- the longer text is laid out, but its texture is refused
  let full : Scene BlockShelf :=
    { first with world := { first.world with host := first.world.host.setFailing true } }
  have hfull : full.Sound among := sound_step hk hsound (a := .setFailing true) rfl
  obtain ⟨refused, hrefused⟩ := exists_step (k := k) hfull.agrees.holds (c := longer)
    (by rwa [SourceKind.tooLong_apply, SourceKind.tooLong_congr hk hfull.fonts hw])
  have hacts (rest : List SceneAct) :
      run k first (.setFailing true :: .update longer :: rest) = run k refused rest := by
    change (full.step k (.update longer) >>= fun sc => run k sc rest) = _
    rw [hrefused]
    rfl
  have hearlier := hacts [.render, .setFailing false]
  have hagrees := agrees_foldlM hsound.agrees hearlier
  have hboth := alike_latest k hk "first" "second" hello hello hw hw hfirst hearlier
  obtain ⟨last, hlast, hshown⟩ := hboth.exists_left hnew
  have hmade : last.source.texture ≠ none := by
    rw [ne_eq, (updated_step hagrees hlast).refused_iff]
    exact fun hrefuses => absurd hrefuses.1 nofun
  obtain ⟨halike, hagain⟩ := hshown (mt (failedSince_step_iff hagrees hlast).1 hmade)
  have hmade' : new.source.texture ≠ none := mt (texture_start_eq_none_iff hnew).1 nofun
  obtain ⟨sc, hsc, hunmoved⟩ := hagain [.setFailing true, .update hello, .render]
    (by simp [SceneAct.Repeats])
  exact ⟨first, _, last, new, sc, hfirst, hearlier, hlast, hnew,
    halike (mt (failedSince_start_iff hnew).1 hmade'), hsc, hunmoved⟩

end Scene

end Caption
