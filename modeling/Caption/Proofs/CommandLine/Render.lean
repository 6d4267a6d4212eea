import Caption.CommandLine.Run
import Caption.Proofs.FileTree.Written
import Caption.Proofs.Png.Answer
import Caption.Proofs.Source.Agreement

/-!
# A picture in a file or nothing

Drawing a picture into a file takes the long way: a source on a host of its own, whose texture is
read back and saved. What comes of it is the picture that state, font, layout and pixels give
without any host, and this picture is what the file holds. All that can fail lies before the one
step that changes the files.

## Main definitions

* `SourceKind.direct`: the picture of settings without a host
* `Settings.Held`: the settings that a file holds
* `RenderOptions.Overrides`: what options change of the settings they start from
* `Outcome.Wrote`: a picture was written, and nothing else

## Main statements

* `SourceKind.value_picture`: the texture read back is the picture drawn directly
* `Png.value_write_of_ok`, `Png.value_write_of_error`: a whole picture is written if the codec takes
  it and there is a place for it
* `RenderOptions.run_writes_picture`
-/
namespace Caption

/-! ## The picture -/

namespace SourceKind

variable {σ : Type} (k : SourceKind σ) (t : Settings) (fonts : σ)

/-- The picture of settings by the shortest way: state, font, layout, pixels. -/
def direct : Checked Pixels := do
  let st := (State.ofSettings t k.reader).value
  let l ← Layout.compute k.cut st (k.found st fonts).1
  (rasterize k.backend "" st l).value

/-- The picture is drawn on the canvas of the layout, whatever the state has. -/
theorem direct_eq_drawn : k.direct t fonts =
    k.drawn (State.ofSettings t k.reader).value
      (k.found (State.ofSettings t k.reader).value fonts).1 := rfl

theorem direct_eq_overflow_iff :
    k.direct t fonts = .error .overflow ↔ k.TooLong (State.ofSettings t k.reader).value fonts := by
  rw [direct_eq_drawn, drawn_eq_overflow_iff_tooLong]

/-- What is read back is the texture of a new source. -/
theorem value_picture_eq : (k.picture t fonts).value.1 =
    (World.outcome (k.create "cli" t) ⟨fonts, .empty⟩).1.map fun s => s.texture.bind
      (World.outcome (k.create "cli" t) ⟨fonts, .empty⟩).2.host.texture? := by
  unfold picture World.outcome
  generalize k.create "cli" t ⟨fonts, .empty⟩ = made
  obtain ⟨⟨_ | s, w⟩, log⟩ := made
  · rfl
  · simp only [Logged.value_bind]
    -- the two branches differ in what they report
    split <;> rfl

/-- The texture of a new source is made if there is a picture, and it holds the picture drawn
directly. -/
theorem value_picture : (k.picture t fonts).value.1 = (k.direct t fonts).map some := by
  rw [value_picture_eq, outcome_create, direct_eq_drawn]
  let new : Source := ⟨"cli", (State.ofSettings t k.reader).value, none, .new "cli"⟩
  let world : World σ := ⟨fonts, .empty⟩
  have hs : new.surface.Holds world.host := Scene.holds_new "cli" .empty
  cases hp : k.drawn (State.ofSettings t k.reader).value
      (k.found (State.ofSettings t k.reader).value fonts).1 with
  | error =>
    have hout := refresh_overflows (k := k) (s := new) (w := world) hp
    rw [hout]
    rfl
  | ok p =>
    obtain ⟨s, w, hout, hrefreshed⟩ := exists_refreshed hs hp
    have hmade : s.surface.texture ≠ none := by
      rw [ne_eq, hrefreshed.delivered.refused_iff]
      rintro ⟨hfailing, -⟩
      cases hfailing
    obtain ⟨id, hid⟩ := Option.ne_none_iff_exists'.1 hmade
    have hshown : s.texture.bind w.host.texture? = some p := by
      rw [Source.texture, hid]
      exact hrefreshed.delivered.shows id hid
    rw [hout]
    exact congrArg Except.ok hshown

end SourceKind

/-! ## Saving -/

namespace Png

variable {codec : Codec} {p : Pixels} (hp : p.Whole) (hc : p.canvas.Legal)
include hp hc

/-- A whole picture that the codec takes is written where there is a place for its file. -/
theorem value_write_of_ok {content : ByteArray} (h : codec.encode p = .ok content) (path : String)
    (files : FileTree) : (write codec p path files).value =
      match files.target path with
      | .ok place => (.ok (.ok ()), files.put place content)
      | .error cause => (.ok (.error (.file cause)), files) := by
  have hencode : encode codec p = .ok (.ok content) := by
    rw [encode_of_filled hc.countable hp.filled, hp.trimmed_eq, h]
    rfl
  rw [write, hencode]
  dsimp only
  rw [FileTree.write_eq]
  cases files.target path <;> rfl

theorem value_write_of_error {reason : String} (h : codec.encode p = .error reason) (path : String)
    (files : FileTree) :
    ∃ cause, (write codec p path files).value = (.ok (.error cause), files) := by
  rw [write, encode_of_filled hc.countable hp.filled, hp.trimmed_eq, h]
  exact ⟨_, rfl⟩

end Png

/-- The picture is in the file that the path leads to, its size is printed, and every other file
is as it was. -/
structure Outcome.Wrote (codec : Png.Codec) (files : FileTree) (path : String) (p : Pixels)
    (result : Outcome) : Prop where
  failure : result.failure = none
  printed : result.printed =
    ["Wrote " ++ toString p.width ++ "x" ++ toString p.height ++ " to " ++ path]
  file : ∃ content, result.files.read path = .ok content ∧ codec.decode? content = some p
  others : ∀ place, files.target path ≠ .ok place →
    result.files.file? place = files.file? place

/-- A command has written a picture, or it has done nothing. If the codec takes the picture's size
all that matters is the place for the file. -/
structure Outcome.WroteOrNothing (codec : Png.Codec) (files : FileTree) (path : String)
    (p : Pixels) (result : Outcome) : Prop where
  wrote : result.failure = none → result.Wrote codec files path p
  nothing : result.failure ≠ none →
    ∃ cause, result = .failed files (.notWritten path cause)
  succeeds_iff : codec.Supports p.canvas →
    (result.failure = none ↔ ∃ place, files.target path = .ok place)

/-! ## Settings -/

/-- A file can be read, it is text throughout, and the text gives the settings. -/
def Settings.Held (files : FileTree) (path : String) (t : Settings) : Prop :=
  ∃ content text, files.read path = .ok content ∧ Utf8.decode? content.toList = some text ∧
    Settings.ofJson (String.ofList text) = .ok t

theorem Settings.ofFile_eq_ok_iff {files : FileTree} {path : String} {t : Settings} :
    ofFile files path = .ok t ↔ Held files path t := by
  unfold ofFile Held
  cases files.read path with
  | error cause => simp
  | ok content =>
    cases htext : Utf8.decode? content.toList with
    | none => simp [ofBytes, htext]
    | some text =>
      cases hjson : ofJson (String.ofList text) <;> simp [ofBytes, htext, parse, hjson]

namespace RenderOptions

/-- The settings to start from are those of the file named, or the default ones. -/
def StartsFrom (o : RenderOptions) (files : FileTree) (t : Settings) : Prop :=
  match o.settings with
  | some path => Settings.Held files path t
  | none => t = .default

theorem base_eq_ok_iff {o : RenderOptions} {files : FileTree} {t : Settings} :
    o.base files = .ok t ↔ o.StartsFrom files t := by
  unfold base StartsFrom
  cases o.settings with
  | none => simp [eq_comm]
  | some path => exact Settings.ofFile_eq_ok_iff

/-- What the options change of the settings they start from. -/
structure Overrides (o : RenderOptions) (t t' : Settings) : Prop where
  text : t'.text = o.text.getD t.text
  /-- A text that is given stands in for a file of text, too. -/
  readFromFile : t'.readFromFile = if o.text.isSome then false else t.readFromFile
  face : t'.font.face = o.face.getD t.font.face
  size : t'.font.size = o.fontSize.getD t.font.size
  rest : { t' with
    text := t.text
    readFromFile := t.readFromFile
    font := { t'.font with face := t.font.face, size := t.font.size } } = t

theorem overrides_override (o : RenderOptions) (t : Settings) : o.Overrides t (o.override t) where
  text := rfl
  readFromFile := by
    cases htext : o.text <;> simp [override, htext]
  face := rfl
  size := rfl
  rest := rfl

/-- The options leave no choice. -/
theorem Overrides.eq_override {o : RenderOptions} {t t' : Settings} (h : o.Overrides t t') :
    t' = o.override t := by
  have hall : t' = { t with
      text := t'.text
      readFromFile := t'.readFromFile
      font := { t.font with face := t'.font.face, size := t'.font.size } } :=
    congrArg (fun s : Settings => { s with
      text := t'.text
      readFromFile := t'.readFromFile
      font := { s.font with face := t'.font.face, size := t'.font.size } }) h.rest
  refine hall.trans ?_
  rw [h.text, h.readFromFile, h.face, h.size, ← (o.overrides_override t).readFromFile]
  rfl

/-! ## The command -/

/-- The picture of some settings, drawn directly. -/
def direct (o : RenderOptions) (libraries : Libraries) (system : List String) (files : FileTree)
    (t : Settings) : Checked Pixels :=
  (o.kind libraries files).direct t (o.fonts.catalogue system files).value

theorem whole_of_direct {o : RenderOptions} {libraries : Libraries} {system : List String}
    {files : FileTree} {t : Settings} {p : Pixels}
    (h : o.direct libraries system files t = .ok p) : p.Whole ∧ p.canvas.Legal :=
  ⟨SourceKind.whole_of_drawn h, SourceKind.legal_of_drawn h⟩

variable {o : RenderOptions} {files : FileTree} (libraries : Libraries) (system : List String)

theorem value_run_of_error {cause : SettingsError} (h : o.base files = .error cause) :
    (o.run libraries system files).value =
      .ok (.failed files (.settingsNotLoaded (o.settings.getD "") cause)) := by
  rw [run, h]
  rfl

/-- Once there are settings to start from, the picture is drawn and is all that is written. -/
theorem value_run_of_base {t : Settings} (h : o.base files = .ok t) :
    (o.run libraries system files).value =
      (o.direct libraries system files (o.override t)) >>= fun p =>
        (o.finish libraries.codec files (some p)).value := by
  have hpicture := (o.kind libraries files).value_picture (o.override t)
    (o.fonts.catalogue system files).value
  rw [run, h, direct]
  simp only [Logged.value_bind]
  generalize ((o.kind libraries files).picture _ _).value = made at hpicture ⊢
  obtain ⟨picture, fonts⟩ := made
  obtain rfl : picture = _ := hpicture
  cases (o.kind libraries files).direct _ (o.fonts.catalogue system files).value <;> rfl

theorem wrote_of_target {codec : Png.Codec} {place : Place} {p : Pixels} {content : ByteArray}
    (h : files.target o.output = .ok place) (hread : codec.decode? content = some p) :
    Outcome.Wrote codec files o.output p
      (.done (files.put place content) [writtenText p o.output]) where
  failure := rfl
  printed := by simp [Outcome.done, writtenText, extent, String.append_assoc]
  file := ⟨content, FileTree.read_put _ h, hread⟩
  others := by
    intro q hq
    have hne : q ≠ place := by
      rintro rfl
      exact hq h
    exact FileTree.file?_put_of_ne files _ hne

/-- Whatever becomes of it, a picture is written as a whole or nothing has happened. -/
theorem exists_value_finish {codec : Png.Codec} (hcodec : codec.Lossless) {p : Pixels}
    (hp : p.Whole) (hc : p.canvas.Legal) (o : RenderOptions) (files : FileTree) :
    ∃ result, (o.finish codec files (some p)).value = .ok result ∧
      result.WroteOrNothing codec files o.output p := by
  cases hfile : codec.encode p with
  | error reason =>
    obtain ⟨cause, hwrite⟩ := Png.value_write_of_error hp hc hfile o.output files
    refine ⟨.failed files (.notWritten o.output cause), ?_, nofun, fun _ => ⟨cause, rfl⟩, ?_⟩
    · rw [finish, Logged.value_bind, hwrite]
      rfl
    · intro hsupports
      obtain ⟨content, hcontent⟩ := hsupports p rfl hp
      exact absurd (hfile.symm.trans hcontent) nofun
  | ok content =>
    have hwrite := Png.value_write_of_ok hp hc hfile o.output files
    have hread : codec.decode? content = some p := hcodec.decodes p content hp hfile
    cases htarget : files.target o.output with
    | ok place =>
      rw [htarget] at hwrite
      refine ⟨.done (files.put place content) [writtenText p o.output], ?_,
        fun _ => wrote_of_target htarget hread, fun hfailed => absurd rfl hfailed,
        fun _ => ⟨fun _ => ⟨place, htarget⟩, fun _ => rfl⟩⟩
      rw [finish, Logged.value_bind, hwrite]
      rfl
    | error cause =>
      rw [htarget] at hwrite
      refine ⟨.failed files (.notWritten o.output (.file cause)), ?_, nofun, fun _ => ⟨_, rfl⟩,
        fun _ => iff_of_false nofun ?_⟩
      · rw [finish, Logged.value_bind, hwrite]
        rfl
      · rw [htarget]
        rintro ⟨place, hplace⟩
        cases hplace

end RenderOptions

end Caption
