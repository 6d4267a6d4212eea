import Mathlib.Data.Bool.Basic
import Mathlib.Data.List.Basic
import Caption.Host.Surface
import Caption.Proofs.Canvas.Size

/-!
# What calls do to a host

Each call on a host is a function of the host it meets. One equation per call says what it
answers and what it leaves; for a surface that hands over pixels the ways this can end are told
apart.

## Main definitions

* `Host.outcome`: the answer of a call and the host after it
* `Surface.Synced`: how handing over pixels can end

## Main statements

* `Host.outcome_create`, `Host.outcome_destroy`, `Host.outcome_update`: calls on textures
* `Surface.synced`: handing over pixels ends in one of these ways
* `Surface.outcome_drop`: giving a texture back
-/
namespace Caption

namespace Host

variable {α β : Type}

/-! ## Looking up textures -/

theorem texture?_insert (h : Host) (p : Pixels) (id : TextureId) :
    (h.insert p).texture? id = if id = h.created + 1 then some p else h.texture? id := by
  unfold texture? insert
  grind

theorem texture?_erase (h : Host) (gone id : TextureId) :
    (h.erase gone).texture? id = if id = gone then none else h.texture? id := by
  unfold texture? erase
  dsimp only
  induction h.textures with
  | nil => simp
  | cons t ts ih => grind

theorem texture?_replace (h : Host) (id j : TextureId) (p : Pixels) :
    (h.replace id p).texture? j =
      if j = id then (h.texture? id).map fun _ => p else h.texture? j := by
  unfold texture? replace
  dsimp only
  induction h.textures with
  | nil => simp
  | cons t ts ih => grind

/-- The handles of the textures that are stored. -/
def stored (h : Host) : List TextureId := h.textures.map Prod.fst

theorem stored_insert (h : Host) (p : Pixels) :
    (h.insert p).stored = (h.created + 1) :: h.stored := rfl

theorem stored_erase (h : Host) (id : TextureId) :
    (h.erase id).stored = h.stored.filter (· != id) := by
  simp only [stored, erase, List.filter_map]
  rfl

theorem stored_replace (h : Host) (id : TextureId) (p : Pixels) :
    (h.replace id p).stored = h.stored := by
  simp only [stored, replace, List.map_map]
  refine List.map_congr_left fun t _ => ?_
  by_cases ht : t.1 = id <;> simp [ht]

/-! ## Calls one by one -/

/-- What a call answers and the host it leaves. -/
def outcome (act : HostM α) (h : Host) : α × Host := (act h).value

@[simp] theorem outcome_pure (a : α) (h : Host) : outcome (pure a) h = (a, h) := rfl

@[simp] theorem outcome_bind (act : HostM α) (f : α → HostM β) (h : Host) :
    outcome (act >>= f) h = outcome (f (outcome act h).1) (outcome act h).2 := rfl

@[simp] theorem outcome_modify (f : Host → Host) (h : Host) :
    outcome (modify f) h = ((), f h) := rfl

@[simp] theorem outcome_get (h : Host) : outcome get h = (h, h) := rfl

@[simp] theorem outcome_report (x : Logged α) (h : Host) :
    outcome (liftM x) h = (x.value, h) := rfl

def entered (h : Host) : Host := { h with depth := h.depth + 1 }.record .enter

def left (h : Host) : Host := { h with depth := h.depth - 1 }.record .leave

/-- A call without the graphics context is counted. -/
def checked (h : Host) : Host :=
  if h.inGraphics then h else { h with outsideCalls := h.outsideCalls + 1 }

@[simp] theorem outcome_enter (h : Host) : outcome enter h = ((), h.entered) := rfl

@[simp] theorem outcome_leave (h : Host) : outcome leave h = ((), h.left) := rfl

theorem outcome_within (act : HostM α) (h : Host) :
    outcome (within act) h = ((outcome act h.entered).1, (outcome act h.entered).2.left) := rfl

@[simp] theorem outcome_checkContext (call : String) (h : Host) :
    outcome (checkContext call) h = ((), h.checked) := by
  unfold checkContext checked outcome
  by_cases hg : h.inGraphics <;> simp [hg]

theorem checked_of_inGraphics {h : Host} (hg : h.inGraphics = true) : h.checked = h := if_pos hg

@[simp] theorem inGraphics_entered (h : Host) : h.entered.inGraphics = true := by
  simp [inGraphics, entered, record]

@[simp] theorem createError?_checked (h : Host) (p : Pixels) :
    h.checked.createError? p = h.createError? p := by
  unfold checked
  split <;> rfl

@[simp] theorem updateError?_checked (h : Host) (id : TextureId) (data : ByteArray)
    (stride : UInt32) : h.checked.updateError? id data stride = h.updateError? id data stride := by
  unfold checked
  split <;> rfl

/-- To make a texture, its bytes have to be counted. -/
theorem createError?_eq_overflow_iff {h : Host} {p : Pixels} :
    h.createError? p = .error .overflow ↔ ¬p.canvas.Countable := by
  rw [← Canvas.byteLength_eq_overflow_iff]
  unfold createError?
  cases p.canvas.byteLength with
  | error => exact iff_of_true rfl rfl
  | ok n =>
    refine iff_of_false ?_ nofun
    dsimp only [bind, Except.bind]
    split
    · nofun
    · split <;> nofun

/-- To update a texture, the bytes of its rows have to be counted. -/
theorem updateError?_eq_overflow_iff (h : Host) (id : TextureId) (data : ByteArray)
    (stride : UInt32) : h.updateError? id data stride = .error .overflow ↔
      ∃ old, h.texture? id = some old ∧ UInt32.size ≤ old.width.toNat * 4 := by
  unfold updateError?
  cases h.texture? id with
  | none => simp [pure, Except.pure]
  | some old =>
    have hrow : old.stride = .error .overflow ↔ UInt32.size ≤ old.width.toNat * 4 :=
      Canvas.stride_eq_overflow_iff
    simp only [Option.some.injEq, exists_eq_left', ← hrow]
    cases old.stride with
    | error => exact iff_of_true rfl rfl
    | ok row =>
      refine iff_of_false ?_ nofun
      dsimp only [bind, Except.bind]
      split <;> nofun

theorem outcome_create (h : Host) (p : Pixels) :
    outcome (create p) h =
      match h.createError? p with
      | .error .overflow => (.error .overflow, h.checked)
      | .ok (some cause) => (.ok (.error cause), h.checked.record (.createFailed p.canvas))
      | .ok none => (.ok (.ok (h.checked.created + 1)),
          (h.checked.insert p).record (.create (h.checked.created + 1) p.canvas)) := by
  simp only [create, outcome_bind, outcome_checkContext, outcome_get, createError?_checked]
  cases h.createError? p with
  | error => rfl
  | ok cause? => cases cause? <;> rfl

theorem outcome_destroy (h : Host) (id : TextureId) :
    outcome (destroy id) h = ((), (h.checked.erase id).record (.destroy id)) := by
  simp only [destroy, outcome_bind, outcome_checkContext, outcome_get]
  by_cases hnone : (h.checked.texture? id).isNone = true <;> simp [hnone]

/-- The bytes of a texture changed, if it is there. -/
def refilled (h : Host) (id : TextureId) (data : ByteArray) : Host :=
  match h.texture? id with
  | some old => (h.replace id { old with data := data }).record (.update id)
  | none => h

theorem outcome_update (h : Host) (id : TextureId) (data : ByteArray) (stride : UInt32) :
    outcome (update id data stride) h =
      match h.updateError? id data stride with
      | .error .overflow => (.error .overflow, h.checked)
      | .ok (some cause) => (.ok (.error cause), h.checked)
      | .ok none => (.ok (.ok ()), h.checked.refilled id data) := by
  simp only [update, outcome_bind, outcome_checkContext, outcome_get, updateError?_checked]
  cases h.updateError? id data stride with
  | error => rfl
  | ok cause? => cases cause? <;> rfl

theorem outcome_draw (h : Host) (id : TextureId) :
    outcome (draw id) h = ((), h.record (.draw id)) := rfl

/-- An update is not refused only to a texture whose rows and bytes are as long. -/
theorem updateError?_eq_none {h : Host} {id : TextureId} {data : ByteArray} {stride : UInt32}
    (hok : h.updateError? id data stride = .ok none) :
    ∃ old, h.texture? id = some old ∧ old.stride = .ok stride ∧ data.size = old.data.size := by
  unfold updateError? at hok
  split at hok
  · cases hok
  next old hold =>
    obtain ⟨row, hrow, hok⟩ := bind_eq_ok_iff.1 hok
    refine ⟨old, hold, ?_⟩
    split at hok
    · cases hok
    next hsame =>
      obtain ⟨hstride, hsize⟩ : stride = row ∧ data.size = old.data.size := by simpa using hsame
      exact ⟨hstride ▸ hrow, hsize⟩

end Host

/-! ## Surfaces -/

namespace Surface

open Host

/-- The host after a texture, if there is one, is given back. -/
def release (h : Host) : Option TextureId → Host
  | some id => (h.erase id).record (.destroy id)
  | none => h

@[simp] theorem createError?_release (h : Host) (id? : Option TextureId) (p : Pixels) :
    (release h id?).createError? p = h.createError? p := by
  cases id? <;> rfl

@[simp] theorem created_release (h : Host) (id? : Option TextureId) :
    (release h id?).created = h.created := by
  cases id? <;> rfl

/-- How handing over the pixels `p` ends for a surface on the host `h`: the answer, the surface
after it, and the host before it leaves the graphics context. -/
inductive Synced (s : Surface) (p : Pixels) (h : Host) :
    Checked (Except TextureError SyncAction) → Surface → Host → Prop
  | updated {id : TextureId} {stride : UInt32} (held : s.texture = some id)
      (size : s.size = p.canvas) (row : p.stride = .ok stride)
      (ok : h.updateError? id p.data stride = .ok none) :
      Synced s p h (.ok (.ok .updated)) s (h.refilled id p.data)
  | refused {id : TextureId} {stride : UInt32} {cause : TextureError} (held : s.texture = some id)
      (size : s.size = p.canvas) (row : p.stride = .ok stride)
      (error : h.updateError? id p.data stride = .ok (some cause)) :
      Synced s p h (.ok (.error cause)) s h
  | created (ok : h.createError? p = .ok none) :
      Synced s p h (.ok (.ok .created))
        { s with texture := some (h.created + 1), size := p.canvas }
        (((release h s.texture).insert p).record (.create (h.created + 1) p.canvas))
  | failed {cause : TextureError} (error : h.createError? p = .ok (some cause)) :
      Synced s p h (.ok (.error cause)) { s with texture := none, size := p.canvas }
        ((release h s.texture).record (.createFailed p.canvas))
  /-- The bytes of a row cannot be counted. -/
  | rowOverflow {id : TextureId} (held : s.texture = some id) (size : s.size = p.canvas)
      (overflow : ∀ stride, p.stride = .ok stride →
        h.updateError? id p.data stride = .error .overflow) :
      Synced s p h (.error .overflow) s h
  /-- All bytes together cannot be counted, which is found out when the old texture is gone. -/
  | bytesOverflow (overflow : h.createError? p = .error .overflow) :
      Synced s p h (.error .overflow) { s with texture := none, size := p.canvas }
        (release h s.texture)

theorem synced_refill {s : Surface} {p : Pixels} {h : Host} {id : TextureId}
    (hg : h.inGraphics = true) (held : s.texture = some id) (size : s.size = p.canvas) :
    Synced s p h (outcome (s.refill id p) h).1 s (outcome (s.refill id p) h).2 := by
  unfold refill
  cases hrow : p.stride with
  | error => exact .rowOverflow held size fun stride hstride => absurd (hrow ▸ hstride) nofun
  | ok stride =>
    simp only [outcome_bind, outcome_update, checked_of_inGraphics hg]
    match hu : h.updateError? id p.data stride with
    | .error .overflow =>
      refine .rowOverflow held size fun stride' hstride => ?_
      obtain rfl : stride = stride' := Except.ok.inj (hrow.symm.trans hstride)
      exact hu
    | .ok (some cause) => exact .refused held size hrow hu
    | .ok none => exact .updated held size hrow hu

theorem inGraphics_release {h : Host} (hg : h.inGraphics = true) (id? : Option TextureId) :
    (release h id?).inGraphics = true := by
  cases id? <;> exact hg

theorem outcome_create_release {h : Host} (hg : h.inGraphics = true) (id? : Option TextureId)
    (p : Pixels) :
    outcome (create p) (release h id?) =
      match h.createError? p with
      | .error .overflow => (.error .overflow, release h id?)
      | .ok (some cause) => (.ok (.error cause), (release h id?).record (.createFailed p.canvas))
      | .ok none => (.ok (.ok (h.created + 1)),
          ((release h id?).insert p).record (.create (h.created + 1) p.canvas)) := by
  rw [outcome_create, checked_of_inGraphics (inGraphics_release hg id?), createError?_release,
    created_release]

theorem outcome_remake {h : Host} (hg : h.inGraphics = true) (s : Surface) (p : Pixels) :
    outcome (s.remake p) h =
      match h.createError? p with
      | .error .overflow =>
        ((.error .overflow, { s with texture := none, size := p.canvas }), release h s.texture)
      | .ok (some cause) => ((.ok (.error cause), { s with texture := none, size := p.canvas }),
          (release h s.texture).record (.createFailed p.canvas))
      | .ok none =>
        ((.ok (.ok .created), { s with texture := some (h.created + 1), size := p.canvas }),
          ((release h s.texture).insert p).record (.create (h.created + 1) p.canvas)) := by
  have hcreate := outcome_create_release hg s.texture p
  unfold remake
  cases ht : s.texture with
  | none =>
    rw [ht] at hcreate
    simp only [release] at hcreate ⊢
    simp only [outcome_bind, hcreate]
    match h.createError? p with
    | .error .overflow => rfl
    | .ok (some cause) => rfl
    | .ok none => rfl
  | some old =>
    rw [ht] at hcreate
    simp only [release] at hcreate ⊢
    simp only [outcome_bind, outcome_destroy, checked_of_inGraphics hg, hcreate]
    match h.createError? p with
    | .error .overflow => rfl
    | .ok (some cause) => rfl
    | .ok none => rfl

theorem synced_remake {s : Surface} {p : Pixels} {h : Host} (hg : h.inGraphics = true) :
    Synced s p h (outcome (s.remake p) h).1.1 (outcome (s.remake p) h).1.2
      (outcome (s.remake p) h).2 := by
  rw [outcome_remake hg]
  match hc : h.createError? p with
  | .error .overflow => exact .bytesOverflow hc
  | .ok (some cause) => exact .failed hc
  | .ok none => exact .created hc

/-- The context stays as it is held, and no call is made without it. -/
theorem context_release (h : Host) (id? : Option TextureId) :
    (release h id?).depth = h.depth ∧ (release h id?).outsideCalls = h.outsideCalls := by
  cases id? <;> exact ⟨rfl, rfl⟩

theorem Synced.context {s s' : Surface} {p : Pixels} {h h' : Host}
    {r : Checked (Except TextureError SyncAction)} (hs : Synced s p h r s' h') :
    h'.depth = h.depth ∧ h'.outsideCalls = h.outsideCalls := by
  cases hs with
  | updated held size row ok =>
    obtain ⟨old, hold, -⟩ := updateError?_eq_none ok
    simp only [refilled, hold]
    exact ⟨rfl, rfl⟩
  | refused | rowOverflow => exact ⟨rfl, rfl⟩
  | created | failed | bytesOverflow => exact context_release h s.texture

/-- Handing over pixels holds the graphics context around one of these endings. -/
theorem synced (s : Surface) (p : Pixels) (h : Host) :
    ∃ r s' h', outcome (s.sync p) h = ((r, s'), h'.left) ∧ Synced s p h.entered r s' h' := by
  refine ⟨_, _, _, outcome_within _ _, ?_⟩
  have hg := inGraphics_entered h
  unfold syncHeld
  split
  next id held =>
    split
    next size => exact synced_refill hg held size
    next => exact synced_remake hg
  next => exact synced_remake hg

theorem outcome_drop (s : Surface) (h : Host) :
    (outcome s.drop h).2 = if s.texture.isSome then (release h.entered s.texture).left else h := by
  unfold drop
  cases s.texture with
  | none => rfl
  | some id =>
    simp [outcome_within, outcome_destroy, checked_of_inGraphics (inGraphics_entered h), release]

theorem context_sync (s : Surface) (p : Pixels) (h : Host) :
    (outcome (s.sync p) h).2.depth = h.depth ∧
      (outcome (s.sync p) h).2.outsideCalls = h.outsideCalls := by
  obtain ⟨r, s', h', hout, hs⟩ := s.synced p h
  obtain ⟨hdepth, houtside⟩ := hs.context
  rw [hout]
  refine ⟨?_, houtside⟩
  change h'.depth - 1 = h.depth
  rw [hdepth]
  exact Nat.add_sub_cancel h.depth 1

theorem context_drop (s : Surface) (h : Host) :
    (outcome s.drop h).2.depth = h.depth ∧
      (outcome s.drop h).2.outsideCalls = h.outsideCalls := by
  rw [outcome_drop]
  split
  next =>
    obtain ⟨hdepth, houtside⟩ := context_release h.entered s.texture
    refine ⟨?_, houtside⟩
    change (release h.entered s.texture).depth - 1 = h.depth
    rw [hdepth]
    exact Nat.add_sub_cancel h.depth 1
  next => exact ⟨rfl, rfl⟩

theorem outcome_draw (s : Surface) (h : Host) :
    (outcome s.draw h).2 =
      match s.texture with
      | some id => h.record (.draw id)
      | none => h := by
  unfold draw
  cases s.texture <;> rfl

end Surface

end Caption
