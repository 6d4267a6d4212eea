import Caption.Draw.Rasterizer
import Caption.Font.Resolver
import Caption.Host.Surface

/-!
# Sources

A source shows one caption on a host. An update takes it through the whole way: state, font,
layout, picture, texture. Problems on the way are logged and the picture shows what can be
shown. Only a number that is too large for its width ends an update early.

## Main definitions

* `SourceKind`: what all sources of a program share
* `Source`: one caption
* `SourceKind.create`, `SourceKind.update`, `Source.draw`
-/
namespace Caption

/-- The fonts' own state and the host, which sources act on. -/
structure World (σ : Type) where
  fonts : σ
  host : Host

/-- An act of a source. -/
abbrev WorldM (σ : Type) := StateT (World σ) Logged

namespace World

variable {σ α : Type}

def onFonts (act : StateT σ Logged α) : WorldM σ α := fun w => do
  let (a, fonts) ← act w.fonts
  return (a, { w with fonts := fonts })

def onHost (act : HostM α) : WorldM σ α := fun w => do
  let (a, host) ← act w.host
  return (a, { w with host := host })

end World

structure SourceKind (σ : Type) where
  provider : FontProvider σ
  reader : TextReader
  defaultFace : String
  /-- Where a text may be cut into lines. -/
  cut : Segmenter
  backend : Backend

structure Source where
  name : String
  state : State
  /-- The font of the last update, if one was found. -/
  font : Option (Font Float32)
  surface : Surface

namespace Source

/-- The name that programs know this kind of source by. -/
def kindId : String := "text_skia"

/-- The name that is shown to people. -/
def kindName : String := "Text (Skia)"

def texture (s : Source) : Option TextureId := s.surface.texture

def draw {σ : Type} (s : Source) : WorldM σ Unit := World.onHost s.surface.draw

def drop {σ : Type} (s : Source) : WorldM σ Unit := World.onHost s.surface.drop

/-- What the log says about a texture that was brought up to date. -/
def syncText (name : String) (action : SyncAction) (p : Pixels) : String :=
  "[" ++ name ++ "] " ++
    (match action with
      | .created => "created "
      | .updated => "updated ") ++ extent p.width p.height ++ " texture"

end Source

namespace SourceKind

variable {σ : Type}

def resolver (k : SourceKind σ) : Resolver σ := ⟨k.provider, k.defaultFace⟩

/-- Draws the state anew and hands the picture to the host. -/
def refresh (k : SourceKind σ) (s : Source) : WorldM σ (Checked Source) := do
  let font ← World.onFonts (k.resolver.resolve s.state.font)
  let .ok l ← (layOut k.cut s.state font : Logged _) | return .error .overflow
  let state := { s.state with canvas := l.canvas }
  let .ok p ← (rasterize k.backend s.name state l : Logged _) | return .error .overflow
  let (.ok result, surface) ← World.onHost (s.surface.sync p) | return .error .overflow
  if let .ok action := result then
    (Logged.detail (Source.syncText s.name action p) : Logged Unit)
  return .ok { s with state := state, font := font, surface := surface }

/-- A new source after its first update. -/
def create (k : SourceKind σ) (name : String) (t : Settings) : WorldM σ (Checked Source) := do
  let state ← (State.ofSettings t k.reader : Logged _)
  k.refresh ⟨name, state, none, .new name⟩

def update (k : SourceKind σ) (s : Source) (t : Settings) : WorldM σ (Checked Source) := do
  let state ← (s.state.apply t k.reader : Logged _)
  k.refresh { s with state := state }

end SourceKind

end Caption
