import Caption.Proofs.Canvas.Size
import Caption.Proofs.Host.History

/-!
# Handing over whole pictures

A surface that only ever hands over whole pictures of legal sizes is refused for one reason: the
host does not make textures when one has to be made. In all other cases the host then stores just
what was handed over.

## Main definitions

* `Host.FailedSince`: a texture could not be made since
* `Surface.Holds`: the host stores a whole picture of the surface's size
* `Surface.Keeps`: a picture is of the size of the texture there is
* `Surface.Delivered`: what handing over a whole picture comes to

## Main statements

* `Host.createError?_of_whole`: when a texture can be made
* `Surface.updateError?_of_holds`: a texture of the same size takes new bytes
* `Surface.delivered`
-/
namespace Caption

namespace Host

/-- The record of `h'` names a texture that could not be made, after what was on record in `h`. -/
def FailedSince (h h' : Host) : Prop :=
  ∃ size, HostEvent.createFailed size ∈ h'.events.drop h.events.length

theorem failedSince_iff {h h' : Host} {es : List HostEvent} (hevents : h'.events = h.events ++ es) :
    FailedSince h h' ↔ ∃ size, HostEvent.createFailed size ∈ es := by
  simp [FailedSince, hevents]

/-- Only a host that refuses to make textures refuses a whole picture of a legal size. -/
theorem createError?_of_whole (h : Host) {p : Pixels} (hp : p.Whole) (hlegal : p.canvas.Legal) :
    h.createError? p =
      .ok (if h.failing then some (.creationFailed p.width p.height) else none) := by
  obtain ⟨n, hn⟩ := Canvas.exists_byteLength_iff.2 hlegal.countable
  have hwidth : p.width ≠ 0 := hlegal.width.ne_zero
  have hheight : p.height ≠ 0 := hlegal.height.ne_zero
  have hbytes := (Pixels.whole_iff hn).1 hp
  rw [createError?, hn]
  cases hfail : h.failing <;> simp [bind, Except.bind, pure, Except.pure, hwidth, hheight, hbytes]

end Host

namespace Surface

open Host

/-- The texture of a surface, if there is one, is stored as a whole picture of the surface's
size. -/
def Holds (s : Surface) (h : Host) : Prop :=
  ∀ id, s.texture = some id → ∃ p, h.texture? id = some p ∧ p.canvas = s.size ∧ p.Whole

theorem updateError?_of_holds {s : Surface} {h : Host} (hs : s.Holds h) {id : TextureId}
    (held : s.texture = some id) {p : Pixels} (hp : p.Whole) (size : s.size = p.canvas)
    {stride : UInt32} (hrow : p.stride = .ok stride) :
    h.updateError? id p.data stride = .ok none := by
  obtain ⟨old, hold, hcanvas, hwhole⟩ := hs id held
  have hsame : old.canvas = p.canvas := hcanvas.trans size
  have hstride : old.stride = .ok stride := (congrArg Canvas.stride hsame).trans hrow
  have hsize : p.data.size = old.data.size := by
    rw [hp, hwhole, show p.width = old.width from congrArg Canvas.width hsame.symm,
      show p.height = old.height from congrArg Canvas.height hsame.symm]
  simp [updateError?, hold, hstride, hsize, bind, Except.bind, pure, Except.pure]

/-- A surface has a texture of the picture's size. -/
def Keeps (s : Surface) (p : Pixels) : Prop := s.texture.isSome = true ∧ s.size = p.canvas

/-- What handing over the picture `p` comes to for a surface and its host. -/
structure Delivered (s : Surface) (p : Pixels) (h : Host) (s' : Surface) (h' : Host) : Prop where
  size : s'.size = p.canvas
  /-- What is stored is the picture. -/
  shows : ∀ id, s'.texture = some id → h'.texture? id = some p
  /-- The picture is not stored exactly when the host refuses to make a texture that is needed. -/
  refused_iff : s'.texture = none ↔ h.failing = true ∧ ¬ s.Keeps p
  /-- A texture of the right size is updated in place. -/
  in_place : ∀ id, s.texture = some id → s.size = p.canvas →
    s'.texture = some id ∧ h'.events = h.events ++ [.enter, .update id, .leave]
  failing : h'.failing = h.failing
  depth : h'.depth = h.depth
  /-- That the picture is not stored is on record. -/
  failed_iff : s'.texture = none ↔ FailedSince h h'

/-! ## In place or anew -/

theorem outcome_sync_of_keeps {s : Surface} {h : Host} (hs : s.Holds h) {id : TextureId}
    (held : s.texture = some id) {p : Pixels} (hp : p.Whole) (hlegal : p.canvas.Legal)
    (size : s.size = p.canvas) :
    outcome (s.sync p) h = ((.ok (.ok .updated), s), (h.entered.refilled id p.data).left) := by
  have hg := inGraphics_entered h
  have hentered : s.Holds h.entered := hs
  obtain ⟨stride, hrow⟩ : ∃ stride, p.stride = .ok stride := hlegal.exists_stride
  have hok := updateError?_of_holds hentered held hp size hrow
  simp only [sync, outcome_within, syncHeld, held, if_pos size, refill, hrow, outcome_bind,
    outcome_update, checked_of_inGraphics hg, hok]
  rfl

theorem outcome_sync_of_not_keeps {s : Surface} {p : Pixels} (hk : ¬ s.Keeps p) (h : Host) :
    outcome (s.sync p) h =
      ((outcome (s.remake p) h.entered).1, (outcome (s.remake p) h.entered).2.left) := by
  have hheld : s.syncHeld p = s.remake p := by
    unfold syncHeld
    split
    next id held => exact if_neg fun size => hk ⟨by rw [held]; rfl, size⟩
    next => rfl
  rw [sync, outcome_within, hheld]

theorem texture?_refilled {h : Host} {id : TextureId} {old : Pixels}
    (hold : h.texture? id = some old) (data : ByteArray) :
    (h.refilled id data).texture? id = some { old with data := data } := by
  rw [refilled, hold]
  change (h.replace id _).texture? id = _
  rw [texture?_replace, if_pos rfl, hold]
  rfl

theorem delivered_of_keeps {s : Surface} {h : Host} (hs : s.Holds h) {p : Pixels}
    (hp : p.Whole) (hlegal : p.canvas.Legal) (hk : s.Keeps p) :
    ∃ answer s' h', outcome (s.sync p) h = ((.ok answer, s'), h') ∧ s.Delivered p h s' h' := by
  obtain ⟨htexture, size⟩ := hk
  obtain ⟨id, held⟩ := Option.isSome_iff_exists.1 htexture
  obtain ⟨old, hold, hcanvas, -⟩ := hs id held
  have hsame : old.canvas = p.canvas := hcanvas.trans size
  have hpicture : ({ old with data := p.data } : Pixels) = p := by
    obtain ⟨hwidth, hheight⟩ := Canvas.mk.inj hsame
    rw [hwidth, hheight]
  have hstored : (h.entered.refilled id p.data).texture? id = some p :=
    (texture?_refilled (h := h.entered) hold p.data).trans (congrArg some hpicture)
  have hrefilled : h.entered.refilled id p.data =
      (h.entered.replace id p).record (.update id) := by
    rw [refilled, show h.entered.texture? id = some old from hold]
    exact congrArg (fun q => (h.entered.replace id q).record (.update id)) hpicture
  have hevents : (h.entered.refilled id p.data).left.events =
      h.events ++ [.enter, .update id, .leave] := by
    rw [hrefilled]
    calc ((h.entered.replace id p).record (.update id)).left.events
        = h.events ++ [.enter] ++ [.update id] ++ [.leave] := rfl
      _ = h.events ++ [.enter, .update id, .leave] := by simp
  have hout := outcome_sync_of_keeps hs held hp hlegal size
  have hdepth := (s.context_sync p h).1
  rw [hout] at hdepth
  refine ⟨_, _, _, hout, ?_⟩
  exact
    { size := size
      shows := by
        intro j hj
        obtain rfl : id = j := Option.some.inj (held.symm.trans hj)
        exact hstored
      refused_iff := by simp [held, size, Keeps]
      in_place := by
        intro j hj _
        obtain rfl : id = j := Option.some.inj (held.symm.trans hj)
        exact ⟨held, hevents⟩
      failing := by
        rw [hrefilled]
        rfl
      depth := hdepth
      failed_iff := by simp [failedSince_iff hevents, held] }

/-! ## Anew -/

theorem failing_release (h : Host) (id? : Option TextureId) :
    (release h id?).failing = h.failing := by
  cases id? <;> rfl

/-- What is on record of a texture made in place of an old one or of the failure to make it. -/
theorem events_anew {h made : Host} {old : Option TextureId}
    (hmade : made.events = (release h.entered old).events) (e : HostEvent) :
    (made.record e).left.events =
      h.events ++ (.enter :: (old.toList.map .destroy ++ [e, .leave])) := by
  calc (made.record e).left.events
      = made.events ++ [e] ++ [.leave] := rfl
    _ = (h.events ++ [.enter] ++ old.toList.map .destroy) ++ [e] ++ [.leave] := by
      rw [hmade, events_release]
      rfl
    _ = h.events ++ (.enter :: (old.toList.map .destroy ++ [e, .leave])) := by simp

theorem delivered_of_not_keeps {s : Surface} {p : Pixels} (hk : ¬ s.Keeps p) (hp : p.Whole)
    (hlegal : p.canvas.Legal) (h : Host) :
    ∃ answer s' h', outcome (s.sync p) h = ((.ok answer, s'), h') ∧ s.Delivered p h s' h' := by
  have hout := outcome_sync_of_not_keeps hk h
  have hdepth := (s.context_sync p h).1
  have hmove : ∀ id, s.texture = some id → s.size = p.canvas → False :=
    fun id held size => hk ⟨by rw [held]; rfl, size⟩
  have herror := h.entered.createError?_of_whole hp hlegal
  rw [outcome_remake (inGraphics_entered h), herror] at hout
  rw [hout] at hdepth
  cases hfail : h.failing with
  | true =>
    have hentered : h.entered.failing = true := hfail
    simp only [hentered, if_true] at hout hdepth
    refine ⟨_, _, _, hout, ?_⟩
    exact
      { size := rfl
        shows := by simp
        refused_iff := ⟨fun _ => ⟨hfail, hk⟩, fun _ => rfl⟩
        in_place := fun id held size => (hmove id held size).elim
        failing := failing_release h.entered s.texture
        depth := hdepth
        failed_iff := by simp [failedSince_iff (events_anew rfl _)] }
  | false =>
    have hentered : h.entered.failing = false := hfail
    simp only [hentered, Bool.false_eq_true, if_false] at hout hdepth
    refine ⟨_, _, _, hout, ?_⟩
    exact
      { size := rfl
        shows := by
          intro id hid
          obtain rfl : h.entered.created + 1 = id := Option.some.inj hid
          change ((release h.entered s.texture).insert p).texture? _ = some p
          rw [texture?_insert, created_release, if_pos rfl]
        refused_iff := by simp [hfail]
        in_place := fun id held size => (hmove id held size).elim
        failing := failing_release h.entered s.texture
        depth := hdepth
        failed_iff := iff_of_false (by simp)
          ((failedSince_iff (events_anew rfl _)).not.2 (by simp)) }

/-- Handing over a whole picture of a legal size comes to what it should, whatever the surface had
before. -/
theorem delivered {s : Surface} {h : Host} (hs : s.Holds h) {p : Pixels} (hp : p.Whole)
    (hlegal : p.canvas.Legal) :
    ∃ answer s' h', outcome (s.sync p) h = ((.ok answer, s'), h') ∧ s.Delivered p h s' h' := by
  by_cases hk : s.Keeps p
  · exact delivered_of_keeps hs hp hlegal hk
  · exact delivered_of_not_keeps hk hp hlegal h

end Surface

end Caption
