import Caption.Proofs.Host.Replay

/-!
# Calls on record

A call on a host is described by one event. The record takes it up whatever comes of the call,
a texture that could not be made and the destruction of an unknown one included; only an update
that is refused and a texture whose bytes cannot be counted leave no trace.

## Main definitions

* `Host.eventOf?`: the event that describes a call
* `Host.Refuses`: an update of an unknown texture or of one with other rows or bytes, or a texture
  whose bytes cannot be counted

## Main statements

* `Host.events_step`: the record after any call
* `Host.recorded_iff`: the calls that come on record
-/
namespace Caption

namespace Host

/-- The event that describes a call, as the call is answered. To make textures fail or not is no
call of the graphics context. -/
def eventOf? (h : Host) : Call → Option HostEvent
  | .create p =>
    match (outcome (create p) h).1 with
    | .ok (.ok id) => some (.create id p.canvas)
    | _ => some (.createFailed p.canvas)
  | .destroy id => some (.destroy id)
  | .update id _ _ => some (.update id)
  | .draw id => some (.draw id)
  | .enter => some .enter
  | .leave => some .leave
  | .setFailing _ => none

/-- Whether a call is a texture whose bytes cannot be counted or an update that cannot be made: the
texture is unknown, or the rows or the bytes are not as long as its own. -/
def Refuses (h : Host) : Call → Prop
  | .create p => ¬p.canvas.Countable
  | .update id data stride =>
    ∀ old, h.texture? id = some old → old.stride ≠ .ok stride ∨ data.size ≠ old.data.size
  | _ => False

theorem updateError?_eq_none_iff {h : Host} {id : TextureId} {data : ByteArray} {stride : UInt32} :
    h.updateError? id data stride = .ok none ↔ ¬h.Refuses (.update id data stride) := by
  constructor
  · intro hok hrefuses
    obtain ⟨old, hold, hstride, hsize⟩ := updateError?_eq_none hok
    exact (hrefuses old hold).elim (absurd hstride) (absurd hsize)
  · intro hrefuses
    obtain ⟨old, hold, hsame⟩ : ∃ old, h.texture? id = some old ∧
        ¬(old.stride ≠ .ok stride ∨ data.size ≠ old.data.size) := by
      simpa only [Refuses, not_forall, exists_prop] using hrefuses
    obtain ⟨hstride, hsize⟩ : old.stride = .ok stride ∧ data.size = old.data.size := by
      simpa only [not_or, not_not] using hsame
    simp [updateError?, hold, hstride, hsize, bind, Except.bind, pure, Except.pure]

@[simp] theorem events_checked (h : Host) : h.checked.events = h.events := by
  obtain ⟨outside, hchecked⟩ := h.checked_eq
  rw [hchecked]

@[simp] theorem texture?_checked (h : Host) (id : TextureId) :
    h.checked.texture? id = h.texture? id := by
  obtain ⟨outside, hchecked⟩ := h.checked_eq
  rw [hchecked]
  rfl

/-! ## One call -/

theorem events_create {h : Host} {p : Pixels} (hrefuses : ¬h.Refuses (.create p)) :
    (h.step (.create p)).events = h.events ++ (h.eventOf? (.create p)).toList := by
  simp only [step, eventOf?, outcome_create]
  split
  next hc => exact absurd (createError?_eq_overflow_iff.1 hc) hrefuses
  next => exact congrArg (· ++ _) h.events_checked
  next => exact congrArg (· ++ _) h.events_checked

/-- A texture whose bytes cannot be counted leaves the record as it was. -/
theorem events_create_of_refuses {h : Host} {p : Pixels} (hrefuses : h.Refuses (.create p)) :
    (h.step (.create p)).events = h.events := by
  simp only [step, outcome_create, createError?_eq_overflow_iff.2 hrefuses]
  exact h.events_checked

theorem events_destroy (h : Host) (id : TextureId) :
    (h.step (.destroy id)).events = h.events ++ [.destroy id] := by
  simp only [step, outcome_destroy]
  exact congrArg (· ++ _) h.events_checked

/-- An update that is refused leaves the record as it was. -/
theorem events_update_of_refuses {h : Host} {id : TextureId} {data : ByteArray} {stride : UInt32}
    (hrefuses : h.Refuses (.update id data stride)) :
    (h.step (.update id data stride)).events = h.events := by
  simp only [step, outcome_update]
  split
  next => exact h.events_checked
  next => exact h.events_checked
  next hu => exact absurd hrefuses (updateError?_eq_none_iff.1 hu)

theorem events_update_of_not_refuses {h : Host} {id : TextureId} {data : ByteArray}
    {stride : UInt32} (hrefuses : ¬h.Refuses (.update id data stride)) :
    (h.step (.update id data stride)).events = h.events ++ [.update id] := by
  have hok := updateError?_eq_none_iff.2 hrefuses
  obtain ⟨old, hold, -⟩ := updateError?_eq_none hok
  simp only [step, outcome_update, hok, refilled, texture?_checked, hold]
  exact congrArg (· ++ _) h.events_checked

/-- A call that is not refused adds the event that describes it to the record, and nothing else. -/
theorem events_step {h : Host} {c : Call} (hrefuses : ¬h.Refuses c) :
    (h.step c).events = h.events ++ (h.eventOf? c).toList := by
  cases c with
  | create p => exact events_create hrefuses
  | destroy id => exact h.events_destroy id
  | update id data stride => exact events_update_of_not_refuses hrefuses
  | draw id => rfl
  | enter => rfl
  | leave => rfl
  | setFailing on => exact (List.append_nil _).symm

theorem events_step_of_refuses {h : Host} {c : Call} (hrefuses : h.Refuses c) :
    (h.step c).events = h.events := by
  cases c with
  | create p => exact events_create_of_refuses hrefuses
  | update id data stride => exact events_update_of_refuses hrefuses
  | destroy | draw | enter | leave | setFailing => exact hrefuses.elim

/-- A call of the graphics context is described by one event. -/
theorem exists_eventOf?_iff (h : Host) (c : Call) :
    (∃ e, h.eventOf? c = some e) ↔ ∀ on, c ≠ .setFailing on := by
  cases c with
  | create p =>
    simp only [eventOf?]
    split <;> simp
  | setFailing on => simp [eventOf?]
  | destroy | update | draw | enter | leave => simp [eventOf?]

/-- A call of the graphics context comes on record, with the one event that describes it, exactly if
it is not an update that is refused or a texture whose bytes cannot be counted; such a call leaves
the record as it was. -/
theorem recorded_iff (h : Host) (c : Call) :
    ((∃ e, h.eventOf? c = some e ∧ (h.step c).events = h.events ++ [e]) ↔
        (∀ on, c ≠ .setFailing on) ∧ ¬h.Refuses c) ∧
      (h.Refuses c → (h.step c).events = h.events) := by
  refine ⟨⟨?_, ?_⟩, events_step_of_refuses⟩
  · rintro ⟨e, he, hrecorded⟩
    refine ⟨(h.exists_eventOf?_iff c).1 ⟨e, he⟩, fun hrefuses => ?_⟩
    rw [events_step_of_refuses hrefuses] at hrecorded
    simp at hrecorded
  · rintro ⟨hcall, hrefuses⟩
    obtain ⟨e, he⟩ := (h.exists_eventOf?_iff c).2 hcall
    refine ⟨e, he, ?_⟩
    rw [events_step hrefuses, he, Option.toList_some]

/-- An update of a texture that was never made leaves no event. -/
theorem unknown_update_unrecorded :
    let c := Call.update 99 ⟨#[0, 0, 0, 0]⟩ 4
    empty.eventOf? c = some (.update 99) ∧
      ∀ e, (empty.step c).events ≠ empty.events ++ [e] := by
  intro c
  have hnone : (empty.step c).events = [] := by decide
  exact ⟨rfl, fun e => by simp [hnone]⟩

end Host

end Caption
