import Caption.Font.Basic
import Caption.Font.Provider
import Caption.Log
import Caption.State

/-!
# Finding a font for a request

The face that is asked for, else the default face, else none: a caption without a font is drawn
as its background only. Each step that fails is logged.
-/
namespace Caption

structure Resolver (σ : Type) (ε : Type := FontError) where
  provider : FontProvider σ ε
  defaultFace : String

namespace Resolver

variable {σ ε : Type} [Cause ε]

/-- What the provider answers, as an error of its part if there is no face. -/
def ask (r : Resolver σ ε) (family : String) (style : Style) :
    StateM σ (Except Error (Typeface Float32)) := do
  return (← r.provider family style).mapError Cause.toError

/-- An empty name is refused before the provider is asked. -/
def requested (r : Resolver σ ε) (q : FontRequest) : StateM σ (Except Error (Typeface Float32)) :=
  if q.face = "" then pure (.error (.font .emptyName)) else r.ask q.face q.style

def fallback (r : Resolver σ ε) (q : FontRequest) : StateM σ (Except Error (Typeface Float32)) :=
  r.ask r.defaultFace q.style

def requestedText (r : Resolver σ ε) (q : FontRequest) (cause : String) : String :=
  "Font '" ++ q.face ++ "' unavailable (" ++ cause ++ "), falling back to '" ++ r.defaultFace ++ "'"

def fallbackText (r : Resolver σ ε) (cause : String) : String :=
  "Default font '" ++ r.defaultFace ++ "' unavailable (" ++ cause ++ "); text will not be drawn"

/-- Asks, and logs a failure. -/
def attempt (ask : StateM σ (Except Error (Typeface Float32))) (warning : String → String) :
    StateT σ Logged (Option (Typeface Float32)) := fun s =>
  match ask s with
  | (.ok face, s) => pure (some face, s)
  | (.error cause, s) => do
    Logged.warn (warning cause.message)
    return (none, s)

def face? (r : Resolver σ ε) (q : FontRequest) : StateT σ Logged (Option (Typeface Float32)) := do
  match ← attempt (r.requested q) (r.requestedText q) with
  | some face => return some face
  | none => attempt (r.fallback q) r.fallbackText

def fontOf (q : FontRequest) (face : Typeface Float32) : Font Float32 :=
  .ofFace face (Scalar.ofInt q.size.toInt) q.style

def resolve (r : Resolver σ ε) (q : FontRequest) : StateT σ Logged (Option (Font Float32)) := do
  match ← r.face? q with
  | some face =>
    let font := fontOf q face
    (Logged.detail ("Resolved font " ++ font.logText) : Logged Unit)
    return some font
  | none => return none

end Resolver

end Caption
