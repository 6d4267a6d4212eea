import Mathlib.Data.List.Induction
import Caption.Proofs.Host.Sharing

/-!
# The record of a shared host

However surfaces take turns on a host, its record can be read back: it falls into one piece for
each act, and the events of one texture tell a life from its making over its uses to its end.

## Main definitions

* `Host.history`: the events about one texture
* `Alive`, `Life`: the events that one texture can have
* `Stage.Recorded`: what an act can put on record
* `Host.Chronicled`: what a host stores and what it has on record agree

## Main statements

* `Host.Chronicled.use`, `Host.Chronicled.release`, `Host.Chronicled.acquire`: what becomes of
  the lives
* `Stage.recorded_step`, `Stage.chronicled_step`: one act
* `Stage.record_of_run`: the record after any acts
-/
namespace Caption

/-- The texture that an event is about. -/
def HostEvent.texture? : HostEvent → Option TextureId
  | .create id _ => some id
  | .destroy id => some id
  | .update id => some id
  | .draw id => some id
  | .enter => none
  | .leave => none
  | .createFailed _ => none

/-! ## Lives of textures -/

/-- The events of a texture that is there: it was made and then only updated and drawn. -/
def Alive (id : TextureId) (es : List HostEvent) : Prop :=
  ∃ size uses, es = .create id size :: uses ∧ ∀ e ∈ uses, e = .update id ∨ e = .draw id

/-- The events of a texture that was not made yet, is there, or was destroyed at last. -/
def Life (id : TextureId) (es : List HostEvent) : Prop :=
  es = [] ∨ Alive id es ∨ ∃ lived, Alive id lived ∧ es = lived ++ [.destroy id]

theorem Alive.create (id : TextureId) (size : Canvas) : Alive id [.create id size] :=
  ⟨size, [], rfl, by simp⟩

theorem Alive.concat {id : TextureId} {es : List HostEvent} {e : HostEvent} (h : Alive id es)
    (he : e = .update id ∨ e = .draw id) : Alive id (es ++ [e]) := by
  obtain ⟨size, uses, rfl, huses⟩ := h
  refine ⟨size, uses ++ [e], rfl, ?_⟩
  intro x hx
  rcases List.mem_append.1 hx with hx | hx
  · exact huses x hx
  · rwa [List.mem_singleton.1 hx]

namespace Host

/-- What is on record about one texture. -/
def history (h : Host) (id : TextureId) : List HostEvent :=
  h.events.filter fun e => e.texture? = some id

theorem history_record_self (h : Host) {e : HostEvent} {id : TextureId}
    (he : e.texture? = some id) : (h.record e).history id = h.history id ++ [e] := by
  simp [history, record, he]

theorem history_record_other (h : Host) {e : HostEvent} {id : TextureId}
    (he : e.texture? ≠ some id) : (h.record e).history id = h.history id := by
  simp [history, record, he]

/-- What the record tells about a texture: one that is stored is alive, one that is to come has
no history, and any history is a life. -/
structure Tells (h : Host) (id : TextureId) : Prop where
  alive : id ∈ h.stored → Alive id (h.history id)
  unmade : h.created < id → h.history id = []
  life : Life id (h.history id)

namespace Tells

variable {h h' : Host} {id : TextureId}

/-- Nothing changes for a texture while nothing happens to it. -/
theorem congr (ht : h.Tells id) (hstored : id ∈ h'.stored → id ∈ h.stored)
    (hmade : h.created ≤ h'.created) (hhistory : h'.history id = h.history id) : h'.Tells id := by
  obtain ⟨halive, hunmade, hlife⟩ := ht
  rw [← hhistory] at halive hunmade hlife
  exact ⟨fun hin => halive (hstored hin), fun hlt => hunmade (Nat.lt_of_le_of_lt hmade hlt), hlife⟩

/-- A texture whose life goes on was made before. -/
theorem of_alive (halive : Alive id (h.history id)) (hmade : id ≤ h.created) : h.Tells id :=
  ⟨fun _ => halive, fun hlt => absurd hmade (Nat.not_le.2 hlt), .inr (.inl halive)⟩

theorem le_created (ht : h.Tells id) (hin : id ∈ h.stored) : id ≤ h.created := by
  by_contra hlt
  obtain ⟨size, uses, hes, -⟩ := ht.alive hin
  rw [ht.unmade (Nat.not_le.1 hlt)] at hes
  cases hes

end Tells

/-- The record tells of all textures. -/
def Chronicled (h : Host) : Prop := ∀ id, h.Tells id

namespace Chronicled

variable {h : Host}

theorem empty : Host.empty.Chronicled :=
  fun _ => ⟨by simp [stored, Host.empty], fun _ => rfl, .inl rfl⟩

/-- Events about no texture, and what else a texture takes no part in, change nothing. -/
theorem congr {h' : Host} (hc : h.Chronicled) (hstored : h'.stored = h.stored)
    (hmade : h'.created = h.created) (hhistory : ∀ id, h'.history id = h.history id) :
    h'.Chronicled := by
  intro id
  refine (hc id).congr ?_ (Nat.le_of_eq hmade.symm) (hhistory id)
  rw [hstored]
  exact fun hin => hin

theorem record (hc : h.Chronicled) {e : HostEvent} (he : e.texture? = none) :
    (h.record e).Chronicled :=
  hc.congr rfl rfl fun id => h.history_record_other (by simp [he])

theorem entered (hc : h.Chronicled) : h.entered.Chronicled :=
  record (h := { h with depth := h.depth + 1 }) (hc.congr rfl rfl fun _ => rfl) rfl

theorem left (hc : h.Chronicled) : h.left.Chronicled :=
  record (h := { h with depth := h.depth - 1 }) (hc.congr rfl rfl fun _ => rfl) rfl

/-- A texture that is stored may be updated and drawn. -/
theorem use (hc : h.Chronicled) {id : TextureId} (hid : id ∈ h.stored) {e : HostEvent}
    (he : e = .update id ∨ e = .draw id) : (h.record e).Chronicled := by
  have htexture : e.texture? = some id := by rcases he with rfl | rfl <;> rfl
  intro j
  by_cases hj : j = id
  · subst hj
    refine .of_alive ?_ ((hc j).le_created hid)
    rw [history_record_self h htexture]
    exact ((hc j).alive hid).concat he
  · refine (hc j).congr (fun hin => hin) (Nat.le_refl _) (h.history_record_other ?_)
    simpa [htexture] using Ne.symm hj

/-- The life of a texture that is destroyed ends. -/
theorem destroy (hc : h.Chronicled) {id : TextureId} (hid : id ∈ h.stored) :
    ((h.erase id).record (.destroy id)).Chronicled := by
  have hstored : ((h.erase id).record (.destroy id)).stored = h.stored.filter (· != id) :=
    stored_erase h id
  intro j
  by_cases hj : j = id
  · subst hj
    have hhistory : ((h.erase j).record (.destroy j)).history j = h.history j ++ [.destroy j] :=
      history_record_self _ rfl
    refine ⟨?_, fun hlt => absurd ((hc j).le_created hid) (Nat.not_le.2 hlt), ?_⟩
    · rw [hstored]
      simp
    · exact .inr (.inr ⟨_, (hc j).alive hid, hhistory⟩)
  · refine (hc j).congr ?_ (Nat.le_refl _) (history_record_other _ ?_)
    · rw [hstored]
      exact fun hin => (List.mem_filter.1 hin).1
    · simpa [HostEvent.texture?] using Ne.symm hj

/-- The life of a texture that is made begins. -/
theorem create (hc : h.Chronicled) (p : Pixels) :
    ((h.insert p).record (.create (h.created + 1) p.canvas)).Chronicled := by
  intro j
  by_cases hj : j = h.created + 1
  · subst hj
    have hnew : (h.insert p).history (h.created + 1) = [] := (hc _).unmade (Nat.lt_succ_self _)
    refine .of_alive ?_ (Nat.le_refl _)
    rw [history_record_self _ rfl, hnew]
    exact .create _ _
  · refine (hc j).congr ?_ (Nat.le_succ _) (history_record_other _ ?_)
    · intro hin
      exact (List.mem_cons.1 hin).resolve_left hj
    · simpa [HostEvent.texture?] using Ne.symm hj

/-- New bytes are one use. -/
theorem refilled (hc : h.Chronicled) {id : TextureId} (hid : id ∈ h.stored) (data : ByteArray) :
    (h.refilled id data).Chronicled := by
  unfold Host.refilled
  split
  next old hold =>
    have hreplace : (h.replace id { old with data := data }).Chronicled :=
      hc.congr (stored_replace _ _ _) rfl fun _ => rfl
    refine hreplace.use ?_ (.inl rfl)
    rwa [stored_replace]
  next => exact hc

theorem release (hc : h.Chronicled) {id? : Option TextureId}
    (hid : ∀ id, id? = some id → id ∈ h.stored) : (Surface.release h id?).Chronicled := by
  cases id? with
  | none => exact hc
  | some id => exact hc.destroy (hid id rfl)

end Chronicled

end Host

/-! ## Handing over pixels -/

/-- What handing over pixels of a size puts on record while the graphics context is held. The old
texture is updated, or it refuses and nothing is done; else it is destroyed, if there is one,
before the new one is made or turns out not to be. -/
inductive Handover (old : Option TextureId) (new : TextureId) (size : Canvas) :
    List HostEvent → Prop
  | updated {id : TextureId} (held : old = some id) : Handover old new size [.update id]
  | refused {id : TextureId} (held : old = some id) : Handover old new size []
  | created : Handover old new size (old.toList.map .destroy ++ [.create new size])
  | failed : Handover old new size (old.toList.map .destroy ++ [.createFailed size])
  | overflow : Handover old new size (old.toList.map .destroy)

namespace Surface

open Host

variable {s s' : Surface} {p : Pixels} {h h' : Host} {r : Checked (Except TextureError SyncAction)}

theorem events_release (h : Host) (id? : Option TextureId) :
    (release h id?).events = h.events ++ id?.toList.map .destroy := by
  cases id? with
  | none => exact (List.append_nil h.events).symm
  | some id => rfl

theorem Synced.handover (hs : Synced s p h r s' h') :
    ∃ es, Handover s.texture (h.created + 1) p.canvas es ∧ h'.events = h.events ++ es := by
  cases hs with
  | updated held size row ok =>
    obtain ⟨old, hold, -⟩ := updateError?_eq_none ok
    refine ⟨_, .updated held, ?_⟩
    rw [refilled, hold]
    rfl
  | refused held | rowOverflow held =>
    exact ⟨_, .refused held, (List.append_nil h.events).symm⟩
  | created ok =>
    refine ⟨_, .created, ?_⟩
    rw [← List.append_assoc, ← events_release]
    rfl
  | failed error =>
    refine ⟨_, .failed, ?_⟩
    rw [← List.append_assoc, ← events_release]
    rfl
  | bytesOverflow => exact ⟨_, .overflow, events_release h s.texture⟩

theorem Synced.chronicled (hs : Synced s p h r s' h') (hc : h.Chronicled)
    (hheld : ∀ id, s.texture = some id → id ∈ h.stored) : h'.Chronicled := by
  cases hs with
  | updated held => exact hc.refilled (hheld _ held) p.data
  | refused | rowOverflow => exact hc
  | created => exact created_release h s.texture ▸ (hc.release hheld).create p
  | failed => exact (hc.release hheld).record rfl
  | bytesOverflow => exact hc.release hheld

end Surface

/-! ## Acts -/

namespace Stage

open Host

/-- What an act can put on record on a stage. An act of a client that is not there, and drawing
or dropping without a texture, put nothing there. -/
inductive Recorded (s : Stage) : Act → List HostEvent → Prop
  | make (name : String) : Recorded s (.make name) []
  | sync {k : Nat} {c : Client} {p : Pixels} (client : s.client? k = some c)
      {es : List HostEvent} (h : Handover c.surface.texture (s.host.created + 1) p.canvas es) :
      Recorded s (.sync k p) (.enter :: (es ++ [.leave]))
  | syncNone {k : Nat} {p : Pixels} (client : s.client? k = none) : Recorded s (.sync k p) []
  | draw {k : Nat} {id : TextureId} (held : Client.handle (s.client? k) = some id) :
      Recorded s (.draw k) [.draw id]
  | drawNone {k : Nat} (held : Client.handle (s.client? k) = none) : Recorded s (.draw k) []
  | drop {k : Nat} {id : TextureId} (held : Client.handle (s.client? k) = some id) :
      Recorded s (.drop k) [.enter, .destroy id, .leave]
  | dropNone {k : Nat} (held : Client.handle (s.client? k) = none) : Recorded s (.drop k) []
  | setFailing (on : Bool) : Recorded s (.setFailing on) []
  | openScope : Recorded s .openScope [.enter]
  | closeScope (opened : s.scopes ≠ 0) : Recorded s .closeScope [.leave]
  | closeNone (opened : s.scopes = 0) : Recorded s .closeScope []

theorem recorded_sync (s : Stage) (k : Nat) (p : Pixels) :
    ∃ es, s.Recorded (.sync k p) es ∧
      (s.step (.sync k p)).host.events = s.host.events ++ es := by
  cases hc : s.client? k with
  | none => exact ⟨[], .syncNone hc, by simp [step, hc]⟩
  | some c =>
    obtain ⟨r, surface, host, hout, hsync⟩ := c.surface.synced p s.host
    obtain ⟨es, hes, hevents⟩ := hsync.handover
    refine ⟨_, .sync hc hes, ?_⟩
    simp only [step, hc, Stage.sync, hout]
    calc host.left.events
        = host.events ++ [.leave] := rfl
      _ = (s.host.events ++ [.enter] ++ es) ++ [.leave] := by rw [hevents]; rfl
      _ = s.host.events ++ .enter :: (es ++ [.leave]) := by simp

theorem recorded_draw (s : Stage) (k : Nat) :
    ∃ es, s.Recorded (.draw k) es ∧ (s.step (.draw k)).host.events = s.host.events ++ es := by
  cases hc : s.client? k with
  | none => exact ⟨[], .drawNone (by rw [hc]; rfl), by simp [step, hc]⟩
  | some c =>
    simp only [step, hc, Surface.outcome_draw]
    cases hid : c.surface.texture with
    | none => exact ⟨[], .drawNone (by rw [hc]; exact hid), (List.append_nil _).symm⟩
    | some id => exact ⟨_, .draw (by rw [hc]; exact hid), rfl⟩

theorem recorded_drop (s : Stage) (k : Nat) :
    ∃ es, s.Recorded (.drop k) es ∧ (s.step (.drop k)).host.events = s.host.events ++ es := by
  cases hc : s.client? k with
  | none => exact ⟨[], .dropNone (by rw [hc]; rfl), by simp [step, hc]⟩
  | some c =>
    simp only [step, hc, Surface.outcome_drop]
    cases hid : c.surface.texture with
    | none => exact ⟨[], .dropNone (by rw [hc]; exact hid), (List.append_nil _).symm⟩
    | some id =>
      refine ⟨_, .drop (by rw [hc]; exact hid), ?_⟩
      calc ((s.host.entered.erase id).record (.destroy id)).left.events
          = s.host.events ++ [.enter] ++ [.destroy id] ++ [.leave] := rfl
        _ = s.host.events ++ [.enter, .destroy id, .leave] := by simp

/-- One act puts on record what it can and nothing else. -/
theorem recorded_step (s : Stage) (a : Act) :
    ∃ es, s.Recorded a es ∧ (s.step a).host.events = s.host.events ++ es := by
  cases a with
  | make name => exact ⟨[], .make name, (List.append_nil _).symm⟩
  | sync k p => exact s.recorded_sync k p
  | draw k => exact s.recorded_draw k
  | drop k => exact s.recorded_drop k
  | setFailing on => exact ⟨[], .setFailing on, (List.append_nil _).symm⟩
  | openScope => exact ⟨_, .openScope, rfl⟩
  | closeScope =>
    by_cases h : s.scopes = 0
    · exact ⟨[], .closeNone h, by simp [step, h]⟩
    · refine ⟨_, .closeScope h, ?_⟩
      simp only [step, if_neg h]
      rfl

theorem stored_of_held {s : Stage} (ho : s.Shared) {k : Nat} {c : Client}
    (hc : s.client? k = some c) (id : TextureId) (hid : c.surface.texture = some id) :
    id ∈ s.host.stored :=
  (ho.stored_iff id).2 ⟨k, handle_eq_some_iff.2 ⟨c, hc, hid⟩⟩

/-- Clients use what is theirs, so one act keeps the record true. -/
theorem chronicled_step {s : Stage} (ho : s.Shared) (ht : s.host.Chronicled) (a : Act) :
    (s.step a).host.Chronicled := by
  cases a with
  | make name => exact ht
  | sync k p =>
    simp only [step]
    split
    next c hc =>
      obtain ⟨r, surface, host, hout, hsync⟩ := c.surface.synced p s.host
      rw [Stage.sync, hout]
      exact (hsync.chronicled ht.entered (stored_of_held ho hc)).left
    next => exact ht
  | draw k =>
    simp only [step]
    split
    next c hc =>
      rw [Surface.outcome_draw]
      split
      next id hid => exact ht.use (stored_of_held ho hc id hid) (.inr rfl)
      next => exact ht
    next => exact ht
  | drop k =>
    simp only [step]
    split
    next c hc =>
      rw [Surface.outcome_drop]
      split
      next => exact (ht.entered.release (stored_of_held ho hc)).left
      next => exact ht
    next => exact ht
  | setFailing on => exact ht.congr rfl rfl fun _ => rfl
  | openScope => exact ht.entered
  | closeScope =>
    simp only [step]
    split
    next => exact ht
    next => exact ht.left

theorem run_concat (acts : List Act) (a : Act) : run (acts ++ [a]) = (run acts).step a :=
  List.foldl_concat _ _ _ _

theorem chronicled_run (acts : List Act) : (run acts).host.Chronicled := by
  induction acts using List.reverseRecOn with
  | nil => exact .empty
  | append_singleton acts a ih =>
    rw [run_concat]
    exact chronicled_step (shared_run acts) ih a

/-- The record of a run is made of pieces, one for each act: what the act can put on record on
the stage that the acts before it lead to. -/
theorem recorded_run (acts : List Act) :
    ∃ pieces : List (List HostEvent), (run acts).host.events = pieces.flatten ∧
      pieces.length = acts.length ∧
      ∀ before a after, acts = before ++ a :: after →
        ∃ es, pieces[before.length]? = some es ∧ (run before).Recorded a es := by
  induction acts using List.reverseRecOn with
  | nil => exact ⟨[], rfl, rfl, by simp⟩
  | append_singleton acts a ih =>
    obtain ⟨pieces, hevents, hlength, hpieces⟩ := ih
    obtain ⟨es, hes, hstep⟩ := (run acts).recorded_step a
    refine ⟨pieces ++ [es], ?_, by simp [hlength], ?_⟩
    · rw [run_concat, hstep, hevents]
      simp
    · intro before b after hsplit
      rcases List.eq_nil_or_concat' after with rfl | ⟨rest, last, rfl⟩
      · obtain ⟨rfl, hb⟩ := List.append_inj' hsplit rfl
        obtain rfl : a = b := by simpa using hb
        exact ⟨es, by simp [hlength], hes⟩
      · have hinit : acts = before ++ b :: rest := by
          have hcons : before ++ b :: (rest ++ [last]) = (before ++ b :: rest) ++ [last] := by simp
          exact (List.append_inj' (hsplit.trans hcons) rfl).1
        obtain ⟨piece, hpiece, hb⟩ := hpieces before b rest hinit
        have hlt : before.length < pieces.length := by
          rw [hlength, hinit]
          simp
        exact ⟨piece, by rw [List.getElem?_append_left hlt, hpiece], hb⟩

/-- After any acts the record is one piece for each act, and for each texture it tells a life:
nothing, or a making, then updates and drawings, then perhaps a destruction. -/
theorem record_of_run (acts : List Act) :
    (∃ pieces : List (List HostEvent), (run acts).host.events = pieces.flatten ∧
      pieces.length = acts.length ∧
      ∀ before a after, acts = before ++ a :: after →
        ∃ es, pieces[before.length]? = some es ∧ (run before).Recorded a es) ∧
      ∀ id, Life id ((run acts).host.history id) :=
  ⟨recorded_run acts, fun id => (chronicled_run acts id).life⟩

end Stage

end Caption
