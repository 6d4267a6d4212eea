import Caption.Host.Basic

/-!
# Surfaces

A surface keeps one texture of a host in step with the latest pixels. While the size stays the
texture is updated in place; a new size means that the old texture is destroyed before the new
one is made. Every call but drawing holds the graphics context.

## Main definitions

* `Surface.sync`: hands over pixels
* `Surface.draw`, `Surface.drop`
-/
namespace Caption

inductive SyncAction where
  | created
  | updated
deriving DecidableEq, Repr

structure Surface where
  name : String
  /-- The texture, if the last one could be made. -/
  texture : Option TextureId
  /-- The size of the last texture that was asked for. -/
  size : Canvas
deriving DecidableEq, Repr

namespace Surface

def new (name : String) : Surface := ⟨name, none, ⟨0, 0⟩⟩

def warnFailed (s : Surface) (call : String) (cause : TextureError) : Logged Unit :=
  Logged.warn ("[" ++ s.name ++ "] " ++ call ++ ": call failed (" ++
    (Error.texture cause).message ++ ")")

/-- New bytes for the texture there is. -/
def refill (s : Surface) (id : TextureId) (p : Pixels) :
    HostM (Checked (Except TextureError SyncAction)) := do
  let .ok stride := p.stride | return .error .overflow
  match ← Host.update id p.data stride with
  | .error .overflow => return .error .overflow
  | .ok (.ok ()) => return .ok (.ok .updated)
  | .ok (.error cause) =>
    s.warnFailed "update_texture" cause
    return .ok (.error cause)

/-- A new texture in place of any old one, which is given up first. -/
def remake (s : Surface) (p : Pixels) :
    HostM (Checked (Except TextureError SyncAction) × Surface) := do
  if let some old := s.texture then Host.destroy old
  let s := { s with texture := none, size := p.canvas }
  match ← Host.create p with
  | .error .overflow => return (.error .overflow, s)
  | .ok (.ok id) => return (.ok (.ok .created), { s with texture := some id })
  | .ok (.error cause) =>
    s.warnFailed "create_texture" cause
    return (.ok (.error cause), s)

def syncHeld (s : Surface) (p : Pixels) :
    HostM (Checked (Except TextureError SyncAction) × Surface) :=
  match s.texture with
  | some id => if s.size = p.canvas then do return (← s.refill id p, s) else s.remake p
  | none => s.remake p

/-- Hands over pixels. After a failure to make a texture there is none until a later call
succeeds. -/
def sync (s : Surface) (p : Pixels) : HostM (Checked (Except TextureError SyncAction) × Surface) :=
  Host.within (s.syncHeld p)

/-- Draws the texture, if there is one. The caller holds the graphics context. -/
def draw (s : Surface) : HostM Unit :=
  match s.texture with
  | some id => Host.draw id
  | none => pure ()

/-- Gives the texture back. -/
def drop (s : Surface) : HostM Unit :=
  match s.texture with
  | some id => Host.within (Host.destroy id)
  | none => pure ()

end Surface

end Caption
