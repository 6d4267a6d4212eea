import Caption.Png.Save
import Caption.Proofs.Png.Lossless

/-!
# What becomes of a picture

A picture has a file exactly if its data is long enough, neither edge is zero and the codec takes
its size, and the file keeps all of the picture. Too few bytes are told from other faults, as long
as the bytes of the size can be counted at all. Where there is no file, writing changes nothing.

## Main definitions

* `Png.TooSmall`: a picture that is refused for too few bytes

## Main statements

* `Png.encode_of_short`, `Png.encode_of_filled`: each picture is refused or handed to the codec
* `Png.encode_answers`: what becomes of every picture
-/
namespace Caption

namespace Png

variable {codec : Codec} {p : Pixels}

/-- The picture is refused for too few bytes. -/
def TooSmall (codec : Codec) (p : Pixels) : Prop :=
  ∃ expected actual,
    encode codec p = .ok (.error (.bufferTooSmall p.width p.height expected actual))

theorem encode_eq_overflow_iff : encode codec p = .error .overflow ↔ ¬p.canvas.Countable := by
  rw [← Canvas.byteLength_eq_overflow_iff, encode]
  cases p.canvas.byteLength with
  | error => exact iff_of_true rfl rfl
  | ok n =>
    refine iff_of_false ?_ nofun
    change (if _ then _ else _) ≠ _
    split <;> nofun

/-! ## Countable bytes -/

/-- A picture without enough bytes is refused with the number of those it needs. -/
theorem encode_of_short {n : UInt64} (hn : p.canvas.byteLength = .ok n) (h : ¬p.Filled) :
    encode codec p = .ok (.error (.bufferTooSmall p.width p.height n p.data.size.toUInt64)) := by
  have hshort : p.data.size < n.toNat := by
    rw [Canvas.byteLength_eq_ok_iff.1 hn]
    exact Nat.not_le.1 h
  simp only [encode, hn, bind, Except.bind, if_pos hshort]
  rfl

/-- A picture with enough bytes is handed to the codec without those behind its last pixel. -/
theorem encode_of_filled (hcount : p.canvas.Countable) (hp : p.Filled) :
    encode codec p = .ok ((codec.encode p.trimmed).mapError fun reason =>
      .encodingFailed ("PNG encoding failed: " ++ reason)) := by
  obtain ⟨n, hn⟩ := Canvas.exists_byteLength_iff.2 hcount
  have hlength : n.toNat = p.width.toNat * p.height.toNat * 4 := Canvas.byteLength_eq_ok_iff.1 hn
  have hlong : ¬p.data.size < n.toNat := by
    rw [hlength]
    exact Nat.not_lt.2 hp
  have htrimmed : cutTo n.toNat p = p.trimmed := by rw [cutTo, hlength, Pixels.trimmed]
  simp only [encode, hn, bind, Except.bind, if_neg hlong, htrimmed]
  rfl

theorem tooSmall_iff (hcount : p.canvas.Countable) : TooSmall codec p ↔ ¬p.Filled := by
  constructor
  · rintro ⟨expected, actual, h⟩ hp
    rw [encode_of_filled hcount hp, Except.ok.injEq] at h
    cases hfile : codec.encode p.trimmed <;> rw [hfile] at h <;> cases h
  · intro hshort
    obtain ⟨n, hn⟩ := Canvas.exists_byteLength_iff.2 hcount
    exact ⟨n, _, encode_of_short hn hshort⟩

/-- Bytes that are none can be counted. -/
theorem countable_of_zero (hzero : p.width = 0 ∨ p.height = 0) : p.canvas.Countable := by
  have hnone : p.width.toNat * p.height.toNat * 4 = 0 := by rcases hzero with h | h <;> simp [h]
  exact Nat.lt_of_le_of_lt (Nat.le_of_eq hnone) (by decide)

theorem encode_of_zero (hcodec : codec.Lossless) (hp : p.Filled)
    (hzero : p.width = 0 ∨ p.height = 0) :
    ∃ reason, encode codec p = .ok (.error (.encodingFailed reason)) := by
  obtain ⟨reason, hreason⟩ := hcodec.refuses p.trimmed hp.whole_trimmed hzero
  rw [encode_of_filled (countable_of_zero hzero) hp, hreason]
  exact ⟨_, rfl⟩

/-- The file of a picture with enough bytes is read as the picture without those behind its last
pixel. -/
theorem decode?_of_encode (hcodec : codec.Lossless) (hcount : p.canvas.Countable) (hp : p.Filled)
    {content : ByteArray} (h : encode codec p = .ok (.ok content)) :
    codec.decode? content = some p.trimmed := by
  rw [encode_of_filled hcount hp, Except.ok.injEq] at h
  cases hfile : codec.encode p.trimmed with
  | error => rw [hfile] at h; cases h
  | ok bytes =>
    rw [hfile] at h
    obtain rfl : bytes = content := Except.ok.inj h
    exact hcodec.decodes _ _ hp.whole_trimmed hfile

theorem exists_encode_of_supports (hsupports : codec.Supports p.canvas)
    (hcount : p.canvas.Countable) (hp : p.Filled) :
    ∃ content, encode codec p = .ok (.ok content) := by
  obtain ⟨content, hfile⟩ := hsupports p.trimmed rfl hp.whole_trimmed
  rw [encode_of_filled hcount hp, hfile]
  exact ⟨content, rfl⟩

/-- Without a file nothing is written. -/
theorem write_of_no_file (h : ∀ content, encode codec p ≠ .ok (.ok content)) (path : String)
    (files : FileTree) : (write codec p path files).value.2 = files := by
  unfold write
  match hfile : encode codec p with
  | .error .overflow => rfl
  | .ok (.error cause) => rfl
  | .ok (.ok content) => exact absurd hfile (h content)

/-- What becomes of every picture, in a codec that loses nothing. Its bytes are counted first. Too
few are reported as such. A picture with enough of them is refused if an edge is zero, and else has
a file that it can be read back from, if the codec takes its size. Without a file nothing is
written. -/
theorem encode_answers (codec : Codec) (hcodec : codec.Lossless) (p : Pixels) :
    (encode codec p = .error .overflow ↔ ¬p.canvas.Countable) ∧
    (p.canvas.Countable → (TooSmall codec p ↔ ¬p.Filled)) ∧
    (p.Filled → p.width = 0 ∨ p.height = 0 →
      ∃ reason, encode codec p = .ok (.error (.encodingFailed reason))) ∧
    (p.canvas.Countable → p.Filled →
      (codec.Supports p.canvas → ∃ content, encode codec p = .ok (.ok content)) ∧
        ∀ content, encode codec p = .ok (.ok content) →
          codec.decode? content = some p.trimmed) ∧
    ((∀ content, encode codec p ≠ .ok (.ok content)) → ∀ path files,
      (write codec p path files).value.2 = files) := by
  refine ⟨encode_eq_overflow_iff, tooSmall_iff, encode_of_zero hcodec, ?_, write_of_no_file⟩
  intro hcount hp
  exact ⟨fun hsupports => exists_encode_of_supports hsupports hcount hp,
    fun content hcontent => decode?_of_encode hcodec hcount hp hcontent⟩

/-- A byte behind the last pixel is not kept. -/
theorem encode_answers_long :
    let p : Pixels := ⟨2, 1, ⟨#[1, 2, 3, 4, 5, 6, 7, 8, 9]⟩⟩
    Codec.plain.Lossless ∧ ¬TooSmall .plain p ∧ ∃ content, encode .plain p = .ok (.ok content) ∧
      Codec.plain.decode? content = some ⟨2, 1, ⟨#[1, 2, 3, 4, 5, 6, 7, 8]⟩⟩ := by
  intro p
  have hfilled : p.Filled := by decide
  have hcount : p.canvas.Countable := by decide
  have hkept : p.data.extract 0 8 = ⟨#[1, 2, 3, 4, 5, 6, 7, 8]⟩ := by decide
  obtain ⟨-, hsmall, -, hfile, -⟩ := encode_answers .plain Codec.plain_lossless p
  refine ⟨Codec.plain_lossless, fun h => (hsmall hcount).1 h hfilled, ?_⟩
  obtain ⟨hwritten, hread⟩ := hfile hcount hfilled
  obtain ⟨content, hcontent⟩ := hwritten (Codec.plain_supports (by decide) (by decide))
  rw [← hkept]
  exact ⟨content, hcontent, hread content hcontent⟩

/-- The bytes of this size cannot be counted, so nobody is told that there are too few. -/
theorem huge_not_tooSmall :
    let p : Pixels := ⟨0x80000000, 0x80000000, .empty⟩
    encode .plain p = .error .overflow ∧ ¬(TooSmall .plain p ↔ ¬p.Filled) := by
  intro p
  have hoverflow : encode .plain p = .error .overflow := encode_eq_overflow_iff.2 (by decide)
  refine ⟨hoverflow, fun h => ?_⟩
  obtain ⟨expected, actual, hsmall⟩ := h.2 (by decide)
  exact absurd (hoverflow.symm.trans hsmall) nofun

end Png

end Caption
