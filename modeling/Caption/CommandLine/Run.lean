import Caption.Catalogue.Basic
import Caption.CommandLine.Basic
import Caption.Png.Save
import Caption.Reader
import Caption.Settings.File
import Caption.Source

/-!
# Carrying out commands

What a command prints, what it does to the files and why it fails, as a function of the files
there are. A command that fails has printed nothing and has left the files alone; so has one that
comes upon a number too large for its width, and it comes to nothing at all.

## Main definitions

* `Outcome`: what a command comes to
* `Libraries`: what pictures are made and written with
* `RenderOptions.override`: options win over the settings they name
* `SourceKind.picture`: the picture of one caption
* `Command.run`
-/
namespace Caption

inductive Failure where
  | settingsNotLoaded (path : String) (cause : SettingsError)
  | noTexture
  | notWritten (path : String) (cause : Error)

namespace Failure

def message : Failure → String
  | settingsNotLoaded path _ => "Failed to load settings from " ++ path
  | noTexture => "The source produced no texture"
  | notWritten path _ => "Failed to write " ++ path

/-- What lies behind a failure. -/
def cause? : Failure → Option Error
  | settingsNotLoaded _ cause => some (.settings cause)
  | noTexture => none
  | notWritten _ cause => some cause

end Failure

structure Outcome where
  /-- The lines printed. -/
  printed : List String
  failure : Option Failure
  /-- The files afterwards. -/
  files : FileTree

namespace Outcome

def failed (files : FileTree) (f : Failure) : Outcome := ⟨[], some f, files⟩

def done (files : FileTree) (printed : List String) : Outcome := ⟨printed, none, files⟩

end Outcome

/-! ## Fonts -/

namespace FontOptions

/-- The fonts installed, unless they are left out. -/
def installed (o : FontOptions) (system : List String) (files : FileTree) : Logged Catalogue :=
  if o.noSystemFonts then pure .empty
  else do
    let c := system.foldl (fun c folder => c.withFolder files folder) Catalogue.empty
    Logged.detail ("Loaded " ++ toString c.size ++ " system font faces")
    return c

/-- All fonts that the options ask for; `system` names the folders of installed ones. -/
def catalogue (o : FontOptions) (system : List String) (files : FileTree) : Logged Catalogue := do
  let c ← o.folders.foldlM (fun c folder => c.addFolder files folder) (← o.installed system files)
  Logged.detail ("Font library holds " ++ toString c.size ++ " faces")
  return c

end FontOptions

/-! ## Pictures -/

/-- What pictures are made and written with. -/
structure Libraries where
  cut : Segmenter
  backend : Backend
  codec : Png.Codec

namespace SourceKind

variable {σ : Type}

/-- The texture of a new source on a host of its own. -/
def picture (k : SourceKind σ) (t : Settings) : StateT σ Logged (Checked (Option Pixels)) :=
  fun fonts => do
  match ← k.create "cli" t ⟨fonts, .empty⟩ with
  | (.error .overflow, w) => return (.error .overflow, w.fonts)
  | (.ok s, w) =>
    if s.font.isNone then
      Logged.warn ("No usable font for '" ++ t.font.face ++ "'; only the background is drawn")
    return (.ok (s.texture.bind w.host.texture?), w.fonts)

end SourceKind

namespace RenderOptions

/-- The settings to start from. -/
def base (o : RenderOptions) (files : FileTree) : Except SettingsError Settings :=
  match o.settings with
  | some path => Settings.ofFile files path
  | none => .ok .default

/-- Puts in what the options name. A text stands in for a file of text, too. -/
def override (o : RenderOptions) (t : Settings) : Settings :=
  { t with
    text := o.text.getD t.text
    readFromFile := o.text.isNone && t.readFromFile
    font := { t.font with face := o.face.getD t.font.face, size := o.fontSize.getD t.font.size } }

/-- All sources of a command find their fonts in one catalogue. -/
def kind (o : RenderOptions) (libraries : Libraries) (files : FileTree) : SourceKind Catalogue where
  provider := Catalogue.load files
  reader := files.readText
  defaultFace := o.defaultFace.getD FontSettings.default.face
  cut := libraries.cut
  backend := libraries.backend

def writtenText (p : Pixels) (path : String) : String :=
  "Wrote " ++ extent p.width p.height ++ " to " ++ path

/-- Writes a picture to where the options say. -/
def finish (o : RenderOptions) (codec : Png.Codec) (files : FileTree) :
    Option Pixels → Logged (Checked Outcome)
  | none => pure (.ok (.failed files .noTexture))
  | some p => do
    let (result, files) ← Png.write codec p o.output files
    match result with
    | .error .overflow => return .error .overflow
    | .ok (.ok ()) => return .ok (.done files [writtenText p o.output])
    | .ok (.error cause) => return .ok (.failed files (.notWritten o.output cause))

def run (o : RenderOptions) (libraries : Libraries) (system : List String) (files : FileTree) :
    Logged (Checked Outcome) :=
  match o.base files with
  | .error cause => pure (.ok (.failed files (.settingsNotLoaded (o.settings.getD "") cause)))
  | .ok t => do
    let fonts ← o.fonts.catalogue system files
    let (.ok p, _) ← (o.kind libraries files).picture (o.override t) fonts
      | return .error .overflow
    o.finish libraries.codec files p

end RenderOptions

/-! ## Commands -/

/-- Prints the names of all font families. -/
def FontOptions.run (o : FontOptions) (system : List String) (files : FileTree) :
    Logged Outcome := do
  let families := (← o.catalogue system files).families
  if families.isEmpty then Logged.warn "No fonts found"
  return .done files families

def Command.run (c : Command) (libraries : Libraries) (system : List String) (files : FileTree) :
    Logged (Checked Outcome) :=
  match c with
  | render o => o.run libraries system files
  | defaults => pure (.ok (.done files [Settings.default.toJson]))
  | fonts o => do return .ok (← o.run system files)

end Caption
