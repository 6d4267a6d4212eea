import Caption.Error
import Caption.Log
import Caption.Pixels

/-!
# Hosts

A host owns textures and lends its graphics context. It keeps a record of the calls it
receives, from which the order of events can be read.

## Main definitions

* `Host`: textures, record of calls, depth of the graphics context
* `Host.enter`, `Host.leave`, `Host.within`: the graphics context
* `Host.create`, `Host.destroy`, `Host.update`, `Host.draw`: calls on textures; those that count
  bytes end without an answer if there are too many
-/
namespace Caption

/-- Textures are numbered from one on in the order of their making. -/
abbrev TextureId := Nat

inductive HostEvent where
  | enter
  | leave
  | create (id : TextureId) (size : Canvas)
  | createFailed (size : Canvas)
  | destroy (id : TextureId)
  | update (id : TextureId)
  | draw (id : TextureId)
deriving DecidableEq, Repr

structure Host where
  textures : List (TextureId × Pixels)
  /-- Oldest call first. -/
  events : List HostEvent
  /-- How many textures have been made so far. -/
  created : Nat
  /-- How many times the graphics context is held. -/
  depth : Nat
  /-- Refuse to make textures. -/
  failing : Bool
  /-- Calls on textures made without the graphics context. -/
  outsideCalls : Nat

/-- A call on a host. -/
abbrev HostM := StateT Host Logged

namespace Host

def empty : Host := ⟨[], [], 0, 0, false, 0⟩

instance : Inhabited Host := ⟨empty⟩

def inGraphics (h : Host) : Bool := 0 < h.depth

def texture? (h : Host) (id : TextureId) : Option Pixels := h.textures.lookup id

def textureSize? (h : Host) (id : TextureId) : Option Canvas := (h.texture? id).map Pixels.canvas

def setFailing (h : Host) (on : Bool) : Host := { h with failing := on }

def record (e : HostEvent) (h : Host) : Host := { h with events := h.events ++ [e] }

/-! ## The graphics context -/

def enter : HostM Unit := modify fun h => { h with depth := h.depth + 1 }.record .enter

/-- Leaving once too often leaves the depth at zero. -/
def leave : HostM Unit := modify fun h => { h with depth := h.depth - 1 }.record .leave

/-- Does something while holding the graphics context, which is given back however that ends. -/
def within {α : Type} (act : HostM α) : HostM α := do
  enter
  let a ← act
  leave
  return a

/-- Reports a call that is made without the graphics context. -/
def checkContext (call : String) : HostM Unit := fun h =>
  if h.inGraphics then pure ((), h)
  else do
    Logged.warn (call ++ " called outside the graphics context")
    return ((), { h with outsideCalls := h.outsideCalls + 1 })

/-! ## Textures -/

def insert (h : Host) (p : Pixels) : Host :=
  { h with textures := (h.created + 1, p) :: h.textures, created := h.created + 1 }

def erase (h : Host) (id : TextureId) : Host :=
  { h with textures := h.textures.filter fun t => t.1 != id }

def replace (h : Host) (id : TextureId) (p : Pixels) : Host :=
  { h with textures := h.textures.map fun t => if t.1 == id then (id, p) else t }

/-- Why a texture of these pixels cannot be made, if so. -/
def createError? (h : Host) (p : Pixels) : Checked (Option TextureError) := do
  let expected ← p.canvas.byteLength
  if h.failing || p.width == 0 || p.height == 0 then
    return some (.creationFailed p.width p.height)
  else if p.data.size != expected.toNat then
    return some (.sizeMismatch expected p.data.size.toUInt64)
  else return none

def create (p : Pixels) : HostM (Checked (Except TextureError TextureId)) := do
  checkContext "create_texture"
  let h ← get
  match h.createError? p with
  | .error .overflow => return .error .overflow
  | .ok (some cause) =>
    modify (record (.createFailed p.canvas))
    return .ok (.error cause)
  | .ok none =>
    modify fun h => (h.insert p).record (.create (h.created + 1) p.canvas)
    return .ok (.ok (h.created + 1))

/-- An unknown texture is reported; the call is recorded all the same. -/
def destroy (id : TextureId) : HostM Unit := do
  checkContext "destroy_texture"
  let h ← get
  if (h.texture? id).isNone then
    (Logged.warn ("destroy_texture: unknown texture " ++ toString id) : Logged Unit)
  modify fun h => (h.erase id).record (.destroy id)

/-- Why a texture cannot take new bytes in rows of this length, if so. -/
def updateError? (h : Host) (id : TextureId) (data : ByteArray) (stride : UInt32) :
    Checked (Option TextureError) := do
  match h.texture? id with
  | none => return some (.unknownTexture id)
  | some old =>
    let row ← old.stride
    if stride != row || data.size != old.data.size then
      return some (.sizeMismatch old.data.size.toUInt64 data.size.toUInt64)
    else return none

/-- Puts new bytes into a texture of the same size. A call that fails is not recorded. -/
def update (id : TextureId) (data : ByteArray) (stride : UInt32) :
    HostM (Checked (Except TextureError Unit)) := do
  checkContext "update_texture"
  let h ← get
  match h.updateError? id data stride with
  | .error .overflow => return .error .overflow
  | .ok (some cause) => return .ok (.error cause)
  | .ok none =>
    modify fun h =>
      match h.texture? id with
      | some old => (h.replace id { old with data := data }).record (.update id)
      | none => h
    return .ok (.ok ())

def draw (id : TextureId) : HostM Unit := modify (record (.draw id))

end Host

end Caption
