import Caption.Proofs.Host.Replay

/-!
# Sizes of stored textures

Whatever a host stores was once made with its size, and its byte count has not changed since. The
bytes of a size are counted in 64 bits and those of a row in 32. A size whose bytes cannot be
counted is never stored, so every stored texture has four bytes for each of its pixels; but the
check that counts them ends without an answer, where the right answer would be that there are too
few.

## Main definitions

* `Pixels.WellFormed`, `Host.WellFormed`: edges that are not zero and four bytes for each pixel

## Main statements

* `Host.createError?_eq_none_iff`: the textures that can be made
* `Host.wellFormed_step`, `Host.wellFormed_run`: all stored textures are well-formed
* `Host.stored_sizes`: what is stored, and the calls whose check overflows
-/
namespace Caption

/-- Neither edge is zero, and there are four bytes for each pixel. -/
structure Pixels.WellFormed (p : Pixels) : Prop where
  width_pos : 0 < p.width
  height_pos : 0 < p.height
  whole : p.Whole

/-- New bytes that are as many as the old ones take nothing from a picture. -/
theorem Pixels.WellFormed.refill {p : Pixels} (hp : p.WellFormed) {data : ByteArray}
    (hsize : data.size = p.data.size) : ({ p with data := data } : Pixels).WellFormed :=
  ⟨hp.width_pos, hp.height_pos, hsize.trans hp.whole⟩

namespace Host

/-- All stored textures are well-formed. -/
def WellFormed (h : Host) : Prop := ∀ t ∈ h.textures, t.2.WellFormed

/-- A texture can be made of well-formed pixels whose bytes can be counted, as long as the host does
not refuse. -/
theorem createError?_eq_none_iff {h : Host} {p : Pixels} : h.createError? p = .ok none ↔
    h.failing = false ∧ p.WellFormed ∧ p.canvas.Countable := by
  unfold createError?
  cases hn : p.canvas.byteLength with
  | error =>
    have hcount := Canvas.byteLength_eq_overflow_iff.1 hn
    exact iff_of_false nofun fun hp => hcount hp.2.2
  | ok n =>
    have hcount := Canvas.exists_byteLength_iff.1 ⟨n, hn⟩
    have hwhole : p.Whole ↔ p.data.size = n.toNat := Pixels.whole_iff hn
    have hformed : p.WellFormed ↔ p.width ≠ 0 ∧ p.height ≠ 0 ∧ p.Whole := by
      simp only [← UInt32.pos_iff_ne_zero]
      exact ⟨fun ⟨hw, hh, hp⟩ => ⟨hw, hh, hp⟩, fun ⟨hw, hh, hp⟩ => ⟨hw, hh, hp⟩⟩
    rw [hformed, hwhole]
    dsimp only [bind, Except.bind]
    split
    next hedges =>
      refine iff_of_false nofun fun ⟨hfailing, ⟨hwidth, hheight, _⟩, _⟩ => ?_
      simp [hfailing, hwidth, hheight] at hedges
    next hedges =>
      obtain ⟨⟨hfailing, hwidth⟩, hheight⟩ :
          (h.failing = false ∧ p.width ≠ 0) ∧ p.height ≠ 0 := by simpa using hedges
      split
      next hbytes => exact iff_of_false nofun fun ⟨_, ⟨_, _, hsize⟩, _⟩ => by simp [hsize] at hbytes
      next hbytes =>
        have hsize : p.data.size = n.toNat := by simpa using hbytes
        exact iff_of_true rfl ⟨hfailing, ⟨hwidth, hheight, hsize⟩, hcount⟩

section Steps

variable {h : Host}

theorem mem_textures {id : TextureId} {p : Pixels} (held : h.texture? id = some p) :
    (id, p) ∈ h.textures := by
  obtain ⟨before, after, htextures, -⟩ := List.lookup_eq_some_iff.1 held
  rw [htextures]
  exact List.mem_append_right _ List.mem_cons_self

theorem wellFormed_checked (hformed : h.WellFormed) : h.checked.WellFormed := by
  obtain ⟨outside, hchecked⟩ := h.checked_eq
  rw [hchecked]
  exact hformed

theorem wellFormed_create (hformed : h.WellFormed) (p : Pixels) :
    (h.step (.create p)).WellFormed := by
  simp only [step, outcome_create]
  split
  next => exact wellFormed_checked hformed
  next => exact wellFormed_checked hformed
  next hc =>
    intro t ht
    rcases List.mem_cons.1 ht with rfl | ht
    · exact (createError?_eq_none_iff.1 hc).2.1
    · exact wellFormed_checked hformed t ht

theorem wellFormed_update (hformed : h.WellFormed) (id : TextureId) (data : ByteArray)
    (stride : UInt32) : (h.step (.update id data stride)).WellFormed := by
  have hchecked := wellFormed_checked hformed
  simp only [step, outcome_update, ← updateError?_checked h id data stride]
  split
  next => exact hchecked
  next => exact hchecked
  next hu =>
    obtain ⟨old, held, -, hsize⟩ := updateError?_eq_none hu
    simp only [refilled, held]
    intro t ht
    obtain ⟨t, hmem, rfl⟩ := List.mem_map.1 ht
    split
    · exact (hchecked _ (mem_textures held)).refill hsize
    · exact hchecked t hmem

/-- A call leaves only well-formed textures. -/
theorem wellFormed_step (hformed : h.WellFormed) (c : Call) : (h.step c).WellFormed := by
  cases c with
  | create p => exact wellFormed_create hformed p
  | update id data stride => exact wellFormed_update hformed id data stride
  | destroy id =>
    simp only [step, outcome_destroy]
    exact fun t ht => wellFormed_checked hformed t (List.mem_of_mem_filter ht)
  | draw | enter | leave | setFailing => exact hformed

end Steps

theorem wellFormed_run (calls : List Call) : (run calls).WellFormed := by
  induction calls using List.reverseRecOn with
  | nil => exact fun t ht => absurd ht List.not_mem_nil
  | append_singleton calls c ih =>
    rw [run_concat]
    exact wellFormed_step ih c

/-- A texture that was just made is stored. -/
theorem texture?_create {h : Host} {p : Pixels} (hok : h.createError? p = .ok none) :
    (h.step (.create p)).texture? (h.checked.created + 1) = some p := by
  simp only [step, outcome_create, hok]
  change (h.checked.insert p).texture? (h.checked.created + 1) = some p
  rw [texture?_insert, if_pos rfl]

theorem create_overflows_iff (h : Host) (p : Pixels) :
    (outcome (create p) h).1 = .error .overflow ↔ ¬p.canvas.Countable := by
  rw [outcome_create, ← createError?_eq_overflow_iff (h := h)]
  match h.createError? p with
  | .error .overflow => exact iff_of_true rfl rfl
  | .ok (some cause) => exact iff_of_false nofun nofun
  | .ok none => exact iff_of_false nofun nofun

theorem update_overflows_iff (h : Host) (id : TextureId) (data : ByteArray) (stride : UInt32) :
    (outcome (update id data stride) h).1 = .error .overflow ↔
      ∃ old, h.texture? id = some old ∧ UInt32.size ≤ old.width.toNat * 4 := by
  rw [outcome_update, ← updateError?_eq_overflow_iff h id data stride]
  match h.updateError? id data stride with
  | .error .overflow => exact iff_of_true rfl rfl
  | .ok (some cause) => exact iff_of_false nofun nofun
  | .ok none => exact iff_of_false nofun nofun

/-- After any calls every stored texture has edges that are not zero and four bytes for each pixel.
The check of a new texture overflows exactly if 64 bits cannot count its bytes, and that of an
update exactly if 32 bits cannot count the bytes of a row of the texture. -/
theorem stored_sizes (calls : List Call) :
    (∀ t ∈ (run calls).textures, 0 < t.2.width ∧ 0 < t.2.height ∧
        t.2.data.size = t.2.width.toNat * t.2.height.toNat * 4) ∧
      (∀ p, (outcome (create p) (run calls)).1 = .error .overflow ↔
        UInt64.size ≤ p.width.toNat * p.height.toNat * 4) ∧
      ∀ id data stride, (outcome (update id data stride) (run calls)).1 = .error .overflow ↔
        ∃ old, (run calls).texture? id = some old ∧ UInt32.size ≤ old.width.toNat * 4 := by
  refine ⟨fun t ht => ?_, fun p => ?_, update_overflows_iff _⟩
  · obtain ⟨hwidth, hheight, hwhole⟩ := wellFormed_run calls t ht
    exact ⟨hwidth, hheight, hwhole⟩
  · rw [create_overflows_iff, Canvas.Countable, Nat.not_lt]
    rfl

/-- A texture may be made whose rows have too many bytes to be counted, and then not updated. -/
theorem update_overflows_of_wide {p : Pixels} (hformed : p.WellFormed) (hcount : p.canvas.Countable)
    (hwide : UInt32.size ≤ p.width.toNat * 4) (data : ByteArray) (stride : UInt32) :
    (outcome (update 1 data stride) (run [.create p])).1 = .error .overflow := by
  have hok : empty.createError? p = .ok none := createError?_eq_none_iff.2 ⟨rfl, hformed, hcount⟩
  exact (update_overflows_iff _ _ _ _).2 ⟨p, texture?_create hok, hwide⟩

/-- The bytes of a texture with edges of `2 ^ 31` cannot be counted, so nobody is told that it needs
more than none; and those of a row of `2 ^ 30` pixels cannot, so such a texture can be made but not
updated. -/
theorem size_checks_overflow :
    (outcome (create ⟨0x80000000, 0x80000000, .empty⟩) (run [])).1 = .error .overflow ∧
      (outcome (update 1 .empty 0) (run [.create (.clear ⟨0x40000000, 1⟩)])).1 =
        .error .overflow := by
  have hcount : ¬(⟨0x80000000, 0x80000000⟩ : Canvas).Countable := by decide
  have hcount' : (⟨0x40000000, 1⟩ : Canvas).Countable := by decide
  have hwide : UInt32.size ≤ (0x40000000 : UInt32).toNat * 4 := by decide
  have hformed (c : Canvas) (hwidth : 0 < c.width) (hheight : 0 < c.height) :
      (Pixels.clear c).WellFormed := ⟨hwidth, hheight, Pixels.whole_clear c⟩
  exact ⟨(create_overflows_iff _ _).2 hcount,
    update_overflows_of_wide (hformed ⟨0x40000000, 1⟩ (by decide) (by decide)) hcount' hwide _ _⟩

end Host

end Caption
