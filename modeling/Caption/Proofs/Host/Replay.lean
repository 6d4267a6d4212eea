import Mathlib.Data.List.Induction
import Caption.Proofs.Host.Calls

/-!
# Replaying the record of a host

Whatever calls a host receives, in whatever order and with whatever arguments, what it is can be
read off its record: which textures it stores and how large they are, how many it has made and
whether its graphics context is held. Only the bytes are not on record; they are those of the last
call that filled the texture. A call that fails leaves all of this as it was.

## Main definitions

* `Host.Call`, `Host.step`, `Host.run`: calls on a host
* `Host.filling`: what a call that succeeds fills, and with which bytes
* `Unrevoked`: an entry of a list that nothing behind it takes back
* `Host.Replayed`: what a host is and what its record tells agree
* `Host.Untouched`: nothing happened that a later call could tell

## Main statements

* `Host.ends`: how a call can end
* `Host.replayed_step`: one call keeps host and record in agreement
* `Host.run_replays`: the host after any calls
-/
namespace Caption

/-! ## Entries that stand -/

/-- An entry of a list, with none behind it that takes it back. -/
def Unrevoked {α : Type} (revokes : α → Prop) (a : α) (xs : List α) : Prop :=
  ∃ before after, xs = before ++ a :: after ∧ ∀ x ∈ after, ¬revokes x

section Unrevoked

variable {α : Type} {revokes : α → Prop} {a x : α} {xs : List α}

theorem not_unrevoked_nil : ¬Unrevoked revokes a [] := by
  rintro ⟨before, after, h, -⟩
  simp at h

theorem unrevoked_concat :
    Unrevoked revokes a (xs ++ [x]) ↔ x = a ∨ Unrevoked revokes a xs ∧ ¬revokes x := by
  constructor
  · rintro ⟨before, after, h, hafter⟩
    rcases List.eq_nil_or_concat' after with rfl | ⟨rest, last, rfl⟩
    · obtain ⟨-, h⟩ := List.append_inj' h rfl
      exact .inl (by simpa using h)
    · rw [← List.cons_append, ← List.append_assoc] at h
      obtain ⟨rfl, h⟩ := List.append_inj' h rfl
      obtain rfl : x = last := by simpa using h
      exact .inr ⟨⟨before, rest, rfl, fun y hy => hafter y (by simp [hy])⟩, hafter x (by simp)⟩
  · rintro (rfl | ⟨⟨before, after, rfl, hafter⟩, hx⟩)
    · exact ⟨xs, [], rfl, by simp⟩
    · refine ⟨before, after ++ [x], by simp, fun y hy => ?_⟩
      rcases List.mem_append.1 hy with hy | hy
      · exact hafter y hy
      · rwa [List.mem_singleton.1 hy]

theorem Unrevoked.mem (h : Unrevoked revokes a xs) : a ∈ xs := by
  obtain ⟨before, after, rfl, -⟩ := h
  simp

end Unrevoked

/-! ## What a record tells -/

/-- The texture that an event makes. -/
def HostEvent.made? : HostEvent → Option TextureId
  | .create id _ => some id
  | _ => none

/-- The depth of the graphics context after an event. Leaving once too often leaves it at zero. -/
def HostEvent.depthAfter (depth : Nat) : HostEvent → Nat
  | .enter => depth + 1
  | .leave => depth - 1
  | _ => depth

/-- The depth of the graphics context that a record comes to. -/
def depthOf (es : List HostEvent) : Nat := es.foldl HostEvent.depthAfter 0

/-- A record has the making of a texture of this size and no destruction of it behind that. -/
def Lasting (id : TextureId) (size : Canvas) (es : List HostEvent) : Prop :=
  Unrevoked (· = .destroy id) (.create id size) es

/-- The bytes that a texture was filled with last. -/
def Latest (id : TextureId) (data : ByteArray) (fills : List (TextureId × ByteArray)) : Prop :=
  Unrevoked (fun f => f.1 = id) (id, data) fills

namespace Host

/-! ## Calls -/

inductive Call where
  | create (p : Pixels)
  | destroy (id : TextureId)
  | update (id : TextureId) (data : ByteArray) (stride : UInt32)
  | draw (id : TextureId)
  | enter
  | leave
  | setFailing (on : Bool)

/-- The host after a call. -/
def step (h : Host) : Call → Host
  | .create p => (outcome (create p) h).2
  | .destroy id => (outcome (destroy id) h).2
  | .update id data stride => (outcome (update id data stride) h).2
  | .draw id => (outcome (draw id) h).2
  | .enter => (outcome enter h).2
  | .leave => (outcome leave h).2
  | .setFailing on => h.setFailing on

/-- What a call answers if it succeeds. -/
def answer? {α : Type} : Checked (Except TextureError α) → Option α
  | .ok answer => answer.toOption
  | .error .overflow => none

/-- The texture that a call fills and the bytes it fills it with, if it succeeds. -/
def filling (h : Host) : Call → Option (TextureId × ByteArray)
  | .create p => (answer? (outcome (create p) h).1).map fun id => (id, p.data)
  | .update id data stride =>
    (answer? (outcome (update id data stride) h).1).map fun _ => (id, data)
  | _ => none

/-- What several calls in a row fill, in their order. -/
def fillings (h : Host) : List Call → List (TextureId × ByteArray)
  | [] => []
  | c :: cs => (h.filling c).toList ++ (h.step c).fillings cs

/-- A new host after some calls. -/
def run (calls : List Call) : Host := calls.foldl step empty

theorem run_concat (calls : List Call) (c : Call) : run (calls ++ [c]) = (run calls).step c :=
  List.foldl_concat _ _ _ _

theorem fillings_concat (h : Host) (calls : List Call) (c : Call) :
    h.fillings (calls ++ [c]) = h.fillings calls ++ ((calls.foldl step h).filling c).toList := by
  induction calls generalizing h with
  | nil => exact List.append_nil _
  | cons d calls ih =>
    rw [List.cons_append, fillings, ih, fillings, List.append_assoc]
    rfl

/-- How a call can end: what it fills, and the host after it, on which calls without the graphics
context may have been counted. -/
inductive Ends (h : Host) : Call → Option (TextureId × ByteArray) → Host → Prop
  | created {p : Pixels} (outside : Nat) :
      Ends h (.create p) (some (h.created + 1, p.data))
        ({ h.insert p with outsideCalls := outside }.record (.create (h.created + 1) p.canvas))
  | notCreated {p : Pixels} (outside : Nat) :
      Ends h (.create p) none ({ h with outsideCalls := outside }.record (.createFailed p.canvas))
  | uncounted {p : Pixels} (outside : Nat) :
      Ends h (.create p) none { h with outsideCalls := outside }
  | destroyed {id : TextureId} (outside : Nat) :
      Ends h (.destroy id) none
        ({ h.erase id with outsideCalls := outside }.record (.destroy id))
  | updated {id : TextureId} {data : ByteArray} {stride : UInt32} {old : Pixels} (outside : Nat)
      (held : h.texture? id = some old) :
      Ends h (.update id data stride) (some (id, data))
        ({ h.replace id { old with data := data } with outsideCalls := outside }.record
          (.update id))
  | notUpdated {id : TextureId} {data : ByteArray} {stride : UInt32} (outside : Nat) :
      Ends h (.update id data stride) none { h with outsideCalls := outside }
  | drawn (id : TextureId) : Ends h (.draw id) none (h.record (.draw id))
  | entered : Ends h .enter none h.entered
  | left : Ends h .leave none h.left
  | set (on : Bool) : Ends h (.setFailing on) none (h.setFailing on)

/-- Only the count of such calls may change while a call is checked. -/
theorem checked_eq (h : Host) : ∃ outside, h.checked = { h with outsideCalls := outside } := by
  unfold checked
  split
  · exact ⟨h.outsideCalls, rfl⟩
  · exact ⟨_, rfl⟩

theorem ends_create (h : Host) (p : Pixels) :
    h.Ends (.create p) (h.filling (.create p)) (h.step (.create p)) := by
  obtain ⟨outside, hchecked⟩ := h.checked_eq
  simp only [filling, step, outcome_create, hchecked]
  match h.createError? p with
  | .error .overflow => exact .uncounted outside
  | .ok (some cause) => exact .notCreated outside
  | .ok none => exact .created outside

theorem ends_update (h : Host) (id : TextureId) (data : ByteArray) (stride : UInt32) :
    h.Ends (.update id data stride) (h.filling (.update id data stride))
      (h.step (.update id data stride)) := by
  obtain ⟨outside, hchecked⟩ := h.checked_eq
  simp only [filling, step, outcome_update, hchecked]
  match hu : h.updateError? id data stride with
  | .error .overflow => exact .notUpdated outside
  | .ok (some cause) => exact .notUpdated outside
  | .ok none =>
    obtain ⟨old, held, -⟩ := updateError?_eq_none hu
    have hrefilled : ({ h with outsideCalls := outside } : Host).refilled id data =
        ({ h.replace id { old with data := data } with outsideCalls := outside }.record
          (.update id)) := by
      have held' : ({ h with outsideCalls := outside } : Host).texture? id = some old := held
      rw [refilled, held']
      rfl
    simp only [hrefilled]
    exact .updated outside held

/-- Every call ends in one of these ways. -/
theorem ends (h : Host) (c : Call) : h.Ends c (h.filling c) (h.step c) := by
  cases c with
  | create p => exact h.ends_create p
  | destroy id =>
    obtain ⟨outside, hchecked⟩ := h.checked_eq
    simp only [filling, step, outcome_destroy, hchecked]
    exact .destroyed outside
  | update id data stride => exact h.ends_update id data stride
  | draw id => exact .drawn id
  | enter => exact .entered
  | leave => exact .left
  | setFailing on => exact .set on

/-! ## Host and record -/

/-- What a host is and what its record tells agree, the bytes of its textures being those that
they were filled with last. -/
structure Replayed (h : Host) (fills : List (TextureId × ByteArray)) : Prop where
  texture?_iff : ∀ id p, h.texture? id = some p ↔
    Lasting id p.canvas h.events ∧ Latest id p.data fills
  filled : ∀ id size, Lasting id size h.events → ∃ data, Latest id data fills
  distinct : h.stored.Nodup
  made : h.events.filterMap HostEvent.made? = List.range' 1 h.created
  depth : depthOf h.events = h.depth

namespace Replayed

variable {h h' : Host} {fills : List (TextureId × ByteArray)}

theorem empty : Replayed .empty [] where
  texture?_iff _ _ := iff_of_false (by simp [texture?, Host.empty]) fun h => not_unrevoked_nil h.1
  filled _ _ h := absurd h not_unrevoked_nil
  distinct := List.nodup_nil
  made := rfl
  depth := rfl

theorem pixels_eq_iff (p q : Pixels) : p = q ↔ p.canvas = q.canvas ∧ p.data = q.data := by
  obtain ⟨width, height, data⟩ := p
  obtain ⟨width', height', data'⟩ := q
  simp [Pixels.canvas, and_assoc]

/-- What is stored, what is on record and how often the context is held are all that matters. -/
theorem congr (hr : h.Replayed fills) (htextures : h'.textures = h.textures)
    (hevents : h'.events = h.events) (hcreated : h'.created = h.created)
    (hdepth : h'.depth = h.depth) : h'.Replayed fills := by
  obtain ⟨hiff, hfilled, hdistinct, hmade, hheld⟩ := hr
  refine ⟨?_, ?_, ?_, ?_, ?_⟩
  · simpa only [texture?, htextures, hevents] using hiff
  · simpa only [hevents] using hfilled
  · simpa only [stored, htextures] using hdistinct
  · simpa only [hevents, hcreated] using hmade
  · simpa only [hevents, hdepth] using hheld

/-- An event that makes and destroys nothing may come on record with its effect on the depth. -/
theorem record (hr : h.Replayed fills) {e : HostEvent} (hmade : e.made? = none)
    (hdestroy : ∀ id, e ≠ .destroy id) :
    ({ h with depth := e.depthAfter h.depth }.record e).Replayed fills := by
  have hlasting (id : TextureId) (size : Canvas) :
      Lasting id size (h.events ++ [e]) ↔ Lasting id size h.events := by
    have hcreate : e ≠ .create id size := by
      rintro rfl
      cases hmade
    unfold Lasting
    simp [unrevoked_concat, hcreate, hdestroy id]
  refine ⟨fun id p => ?_, fun id size hl => ?_, hr.distinct, ?_, ?_⟩
  · change _ ↔ Lasting id p.canvas (h.events ++ [e]) ∧ _
    rw [hlasting]
    exact hr.texture?_iff id p
  · exact hr.filled id size ((hlasting id size).1 hl)
  · change (h.events ++ [e]).filterMap _ = _
    rw [List.filterMap_append, hr.made]
    simp [hmade, Host.record]
  · change depthOf (h.events ++ [e]) = _
    rw [depthOf, List.foldl_concat]
    exact congrArg (e.depthAfter ·) hr.depth

theorem mem_made (hr : h.Replayed fills) {id : TextureId} {size : Canvas}
    (hl : Lasting id size h.events) : id ≤ h.created := by
  have hmem : id ∈ h.events.filterMap HostEvent.made? :=
    List.mem_filterMap.2 ⟨_, hl.mem, rfl⟩
  rw [hr.made, List.mem_range'_1] at hmem
  exact Nat.lt_one_add_iff.1 hmem.2

theorem le_created (hr : h.Replayed fills) {id : TextureId} (hin : id ∈ h.stored) :
    id ≤ h.created := by
  obtain ⟨p, hp⟩ : ∃ p, h.texture? id = some p := by
    rw [← Option.isSome_iff_exists, texture?, List.lookup_isSome_iff]
    simpa [stored] using hin
  exact hr.mem_made ((hr.texture?_iff id p).1 hp).1

/-- A texture that was filled stays so. -/
theorem latest_concat {id : TextureId} (hfilled : ∃ data, Latest id data fills)
    (fill : TextureId × ByteArray) : ∃ data, Latest id data (fills ++ [fill]) := by
  obtain ⟨data, hdata⟩ := hfilled
  by_cases hid : fill.1 = id
  · exact ⟨fill.2, unrevoked_concat.2 (.inl (Prod.ext hid rfl))⟩
  · exact ⟨data, unrevoked_concat.2 (.inr ⟨hdata, hid⟩)⟩

/-- A new texture has the size and the bytes that it was made with. -/
theorem created (hr : h.Replayed fills) (p : Pixels) (outside : Nat) :
    ({ h.insert p with outsideCalls := outside }.record
      (.create (h.created + 1) p.canvas)).Replayed (fills ++ [(h.created + 1, p.data)]) := by
  refine ⟨fun id q => ?_, fun id size hl => ?_, ?_, ?_, ?_⟩
  · change (h.insert p).texture? id = some q ↔
      Lasting id q.canvas (h.events ++ [.create (h.created + 1) p.canvas]) ∧ _
    rw [texture?_insert]
    unfold Lasting Latest
    rw [unrevoked_concat, unrevoked_concat]
    by_cases hid : id = h.created + 1
    · subst hid
      have hnew : ¬Unrevoked (· = HostEvent.destroy (h.created + 1))
          (.create (h.created + 1) q.canvas) h.events := fun hl =>
        absurd (hr.mem_made hl) (Nat.not_succ_le_self _)
      rw [if_pos rfl, Option.some.injEq, pixels_eq_iff]
      simp [hnew]
    · have hother : ¬h.created + 1 = id := fun h => hid h.symm
      rw [if_neg hid, hr.texture?_iff]
      simp [hother, Lasting, Latest]
  · rcases unrevoked_concat.1 hl with hnew | ⟨hold, -⟩
    · obtain ⟨rfl, -⟩ := HostEvent.create.inj hnew
      exact ⟨p.data, unrevoked_concat.2 (.inl rfl)⟩
    · exact latest_concat (hr.filled id size hold) _
  · change ((h.created + 1) :: h.stored).Nodup
    exact List.nodup_cons.2 ⟨fun hin => absurd (hr.le_created hin) (Nat.not_succ_le_self _),
      hr.distinct⟩
  · change (h.events ++ [_]).filterMap _ = List.range' 1 (h.created + 1)
    rw [List.filterMap_append, hr.made, List.range'_1_concat, Nat.add_comm]
    rfl
  · change depthOf (h.events ++ [_]) = h.depth
    rw [depthOf, List.foldl_concat]
    exact hr.depth

/-- A destroyed texture is gone. -/
theorem destroyed (hr : h.Replayed fills) (id : TextureId) (outside : Nat) :
    ({ h.erase id with outsideCalls := outside }.record (.destroy id)).Replayed fills := by
  refine ⟨fun j q => ?_, fun j size hl => ?_, ?_, ?_, ?_⟩
  · change (h.erase id).texture? j = some q ↔
      Lasting j q.canvas (h.events ++ [.destroy id]) ∧ _
    rw [texture?_erase]
    unfold Lasting
    rw [unrevoked_concat]
    by_cases hj : j = id
    · simp [hj]
    · have hother : ¬id = j := fun h => hj h.symm
      rw [if_neg hj, hr.texture?_iff]
      simp [hother, Lasting]
  · rcases unrevoked_concat.1 hl with hnew | ⟨hold, -⟩
    · cases hnew
    · exact hr.filled j size hold
  · change (h.erase id).stored.Nodup
    rw [stored_erase]
    exact hr.distinct.filter _
  · change (h.events ++ [_]).filterMap _ = _
    rw [List.filterMap_append, hr.made]
    exact List.append_nil _
  · change depthOf (h.events ++ [_]) = h.depth
    rw [depthOf, List.foldl_concat]
    exact hr.depth

/-- New bytes take the place of those before; the size stays. -/
theorem updated (hr : h.Replayed fills) {id : TextureId} {old : Pixels}
    (held : h.texture? id = some old) (data : ByteArray) :
    (h.replace id { old with data := data }).Replayed (fills ++ [(id, data)]) := by
  obtain ⟨hlasting, hlatest⟩ := (hr.texture?_iff id old).1 held
  -- the record has one size for the texture: any other would be that of the texture itself
  have hsize (size : Canvas) : Lasting id size h.events ↔ size = old.canvas := by
    refine ⟨fun hl => ?_, fun h => h ▸ hlasting⟩
    have hsame := (hr.texture?_iff id ⟨size.width, size.height, old.data⟩).2 ⟨hl, hlatest⟩
    rw [held, Option.some.injEq] at hsame
    rw [hsame]
    rfl
  refine ⟨fun j q => ?_, fun j size hl => latest_concat (hr.filled j size hl) _, ?_, hr.made,
    hr.depth⟩
  · change _ ↔ Lasting j q.canvas h.events ∧ _
    rw [texture?_replace]
    by_cases hj : j = id
    · subst hj
      have hcanvas : ({ old with data := data } : Pixels).canvas = old.canvas := rfl
      rw [if_pos rfl, held, Option.map_some, Option.some.injEq, pixels_eq_iff, hsize, hcanvas]
      unfold Latest
      rw [unrevoked_concat]
      simp [eq_comm]
    · have hother : ¬id = j := fun h => hj h.symm
      rw [if_neg hj, hr.texture?_iff]
      unfold Latest
      rw [unrevoked_concat]
      simp [hother]
  · rw [stored_replace]
    exact hr.distinct

end Replayed

/-- One call keeps host and record in agreement. -/
theorem replayed_step {h : Host} {fills : List (TextureId × ByteArray)} (hr : h.Replayed fills)
    (c : Call) : (h.step c).Replayed (fills ++ (h.filling c).toList) := by
  have hends := h.ends c
  generalize h.step c = h' at hends
  generalize h.filling c = filled at hends
  have hcounted (outside : Nat) : Replayed { h with outsideCalls := outside } fills :=
    hr.congr rfl rfl rfl rfl
  cases hends
  all_goals simp only [Option.toList_some, Option.toList_none, List.append_nil]
  case created outside => exact hr.created _ outside
  case notCreated outside =>
    exact (hcounted outside).record (e := .createFailed _) rfl fun _ => nofun
  case uncounted outside => exact hcounted outside
  case destroyed outside => exact hr.destroyed _ outside
  case updated outside held =>
    exact ((hr.updated held _).record (e := .update _) rfl fun _ => nofun).congr rfl rfl rfl rfl
  case notUpdated outside => exact hcounted outside
  case drawn id => exact hr.record (e := .draw id) rfl fun _ => nofun
  case entered => exact hr.record (e := .enter) rfl fun _ => nofun
  case left => exact hr.record (e := .leave) rfl fun _ => nofun
  case set on => exact hr.congr rfl rfl rfl rfl

theorem replayed_run (calls : List Call) : (run calls).Replayed (empty.fillings calls) := by
  induction calls using List.reverseRecOn with
  | nil => exact .empty
  | append_singleton calls c ih =>
    rw [run_concat, fillings_concat]
    exact replayed_step ih c

/-! ## Calls that fail -/

/-- Two hosts that answer calls alike: they store the same textures, number new ones alike and
refuse to make them or not. -/
structure Alike (h h' : Host) : Prop where
  textures : h'.textures = h.textures
  created : h'.created = h.created
  failing : h'.failing = h.failing

namespace Alike

variable {h h' : Host}

theorem createError? (ha : h.Alike h') (p : Pixels) : h'.createError? p = h.createError? p := by
  simp only [Host.createError?, ha.failing]

theorem texture? (ha : h.Alike h') (id : TextureId) : h'.texture? id = h.texture? id := by
  simp only [Host.texture?, ha.textures]

theorem updateError? (ha : h.Alike h') (id : TextureId) (data : ByteArray) (stride : UInt32) :
    h'.updateError? id data stride = h.updateError? id data stride := by
  simp only [Host.updateError?, ha.texture?]

theorem checked (ha : h.Alike h') : h.checked.Alike h'.checked := by
  obtain ⟨outside, hchecked⟩ := h.checked_eq
  obtain ⟨outside', hchecked'⟩ := h'.checked_eq
  rw [hchecked, hchecked']
  exact ⟨ha.textures, ha.created, ha.failing⟩

/-- Alike hosts answer a call alike and stay alike. -/
theorem step (ha : h.Alike h') (c : Call) :
    h'.filling c = h.filling c ∧ (h.step c).Alike (h'.step c) := by
  obtain ⟨htextures, hcreated, hfailing⟩ := ha.checked
  cases c with
  | create p =>
    simp only [filling, Host.step, outcome_create, ha.createError?, hcreated]
    match h.createError? p with
    | .error .overflow => exact ⟨rfl, htextures, hcreated, hfailing⟩
    | .ok (some cause) => exact ⟨rfl, htextures, hcreated, hfailing⟩
    | .ok none =>
      refine ⟨rfl, ?_, ?_, hfailing⟩
      · simp only [Host.record, insert, htextures, hcreated]
      · simp only [Host.record, insert, hcreated]
  | update id data stride =>
    simp only [filling, Host.step, outcome_update, ha.updateError?]
    match h.updateError? id data stride with
    | .error .overflow => exact ⟨rfl, htextures, hcreated, hfailing⟩
    | .ok (some cause) => exact ⟨rfl, htextures, hcreated, hfailing⟩
    | .ok none =>
      refine ⟨rfl, ?_⟩
      simp only [refilled, ha.checked.texture?]
      cases h.checked.texture? id with
      | none => exact ha.checked
      | some old =>
        refine ⟨?_, hcreated, hfailing⟩
        simp only [Host.record, replace, htextures]
  | destroy id =>
    simp only [filling, Host.step, outcome_destroy, true_and]
    refine ⟨?_, hcreated, hfailing⟩
    simp only [Host.record, erase, htextures]
  | draw id => exact ⟨rfl, ha.textures, ha.created, ha.failing⟩
  | enter => exact ⟨rfl, ha.textures, ha.created, ha.failing⟩
  | leave => exact ⟨rfl, ha.textures, ha.created, ha.failing⟩
  | setFailing on => exact ⟨rfl, ha.textures, ha.created, rfl⟩

theorem fillings (ha : h.Alike h') (calls : List Call) :
    h'.fillings calls = h.fillings calls := by
  induction calls generalizing h h' with
  | nil => rfl
  | cons c calls ih =>
    obtain ⟨hfilling, hstep⟩ := ha.step c
    rw [Host.fillings, Host.fillings, hfilling, ih hstep]

end Alike

/-- What a call leaves that changes nothing but the record and the count of calls without the
graphics context: any later calls succeed or fail as they would have, with the same handles. -/
structure Untouched (h h' : Host) : Prop where
  textures : h'.textures = h.textures
  created : h'.created = h.created
  depth : h'.depth = h.depth
  later : ∀ calls, h'.fillings calls = h.fillings calls

theorem untouched_of_counted (h : Host) (outside : Nat) (events : List HostEvent) :
    h.Untouched { h with events := events, outsideCalls := outside } := by
  have ha : h.Alike { h with events := events, outsideCalls := outside } := ⟨rfl, rfl, rfl⟩
  exact ⟨rfl, rfl, rfl, ha.fillings⟩

theorem untouched_of_create {h : Host} {p : Pixels}
    (hfailed : ∀ id, (outcome (create p) h).1 ≠ .ok (.ok id)) :
    h.Untouched (outcome (create p) h).2 := by
  obtain ⟨outside, hchecked⟩ := h.checked_eq
  rw [outcome_create, hchecked] at hfailed ⊢
  match hc : h.createError? p with
  | .error .overflow => exact h.untouched_of_counted outside h.events
  | .ok (some cause) => exact h.untouched_of_counted outside _
  | .ok none =>
    rw [hc] at hfailed
    exact absurd rfl (hfailed _)

theorem untouched_of_update {h : Host} {id : TextureId} {data : ByteArray} {stride : UInt32}
    (hfailed : (outcome (update id data stride) h).1 ≠ .ok (.ok ())) :
    h.Untouched (outcome (update id data stride) h).2 := by
  obtain ⟨outside, hchecked⟩ := h.checked_eq
  rw [outcome_update, hchecked] at hfailed ⊢
  match hu : h.updateError? id data stride with
  | .error .overflow => exact h.untouched_of_counted outside h.events
  | .ok (some cause) => exact h.untouched_of_counted outside h.events
  | .ok none =>
    rw [hu] at hfailed
    exact absurd rfl hfailed

/-! ## Any calls -/

/-- After any calls a new host is what its record tells. It stores exactly the textures whose
making is on record with no destruction behind it, each once, in the size on record and with the
bytes that it was filled with last. The handles on record go up. The graphics context is held
exactly if what was entered on record was not all left. A texture that cannot be made or updated
leaves the host untouched. -/
theorem run_replays (calls : List Call) :
    let h := run calls
    (∀ id size, h.textureSize? id = some size ↔ Lasting id size h.events) ∧
      (∀ id p, h.texture? id = some p ↔
        Lasting id p.canvas h.events ∧ Latest id p.data (empty.fillings calls)) ∧
      h.stored.Nodup ∧
      (h.events.filterMap HostEvent.made?).Pairwise (· < ·) ∧
      (h.inGraphics = true ↔ 0 < depthOf h.events) ∧
      (∀ p, (∀ id, (outcome (create p) h).1 ≠ .ok (.ok id)) →
        h.Untouched (outcome (create p) h).2) ∧
      ∀ id data stride, (outcome (update id data stride) h).1 ≠ .ok (.ok ()) →
        h.Untouched (outcome (update id data stride) h).2 := by
  intro h
  obtain ⟨htexture, hfilled, hdistinct, hmade, hdepth⟩ := replayed_run calls
  refine ⟨fun id size => ⟨fun hsize => ?_, fun hl => ?_⟩, htexture, hdistinct, ?_, ?_,
    fun _ => untouched_of_create, fun _ _ _ => untouched_of_update⟩
  · obtain ⟨p, hp, rfl⟩ := Option.map_eq_some_iff.1 hsize
    exact ((htexture id p).1 hp).1
  · obtain ⟨data, hdata⟩ := hfilled id size hl
    have hp := (htexture id ⟨size.width, size.height, data⟩).2 ⟨hl, hdata⟩
    exact Option.map_eq_some_iff.2 ⟨_, hp, rfl⟩
  · rw [hmade]
    exact List.pairwise_lt_range'
  · rw [hdepth, inGraphics, decide_eq_true_iff]

end Host

end Caption
