import Mathlib.Data.List.Infix
import Mathlib.Data.List.TakeWhile
import Caption.Text.Utf8

/-!
# Sequences of one character

The bytes of one character are a byte below `0x80` or a lead byte with its followers. The first
follower has a range of its own, which depends on the lead byte, and this range is just what makes
the bits of the sequence those of a character. So the beginnings of sequences are told byte by
byte, and from the first byte on it is known how many belong together.

## Main definitions

* `Utf8.Opens`: a lead byte and its first follower
* `Utf8.Shape`: the bytes of one character
* `Utf8.Begun`: bytes that a sequence may begin with

## Main statements

* `Utf8.encode_cases`, `Utf8.exists_encode_of_shape`: the shape of what encoding gives
* `Utf8.start_encode`: a character is read back, whatever follows
* `Utf8.begun_iff`: the beginnings of sequences
-/
namespace Caption

namespace Utf8

open String (utf8EncodeChar)

variable {n bits : Nat} {b c : UInt8} {bs cs : List UInt8}

/-! ## The first two bytes -/

/-- A lead byte with `n` followers and one that may be the first of them. -/
def Opens (n : Nat) (b c : UInt8) : Prop :=
  ∃ low high, lead b = some (n, low, high) ∧ low ≤ c ∧ c ≤ high

theorem isTail_iff : isTail b ↔ 0x80 ≤ b.toNat ∧ b.toNat ≤ 0xBF := by
  simp [isTail, UInt8.le_iff_toNat_le]

/-- The ranges of a lead byte and its first follower. -/
theorem opens_iff : Opens n b c ↔
    n = 1 ∧ 0xC2 ≤ b.toNat ∧ b.toNat < 0xE0 ∧ 0x80 ≤ c.toNat ∧ c.toNat ≤ 0xBF ∨
    n = 2 ∧ 0xE0 ≤ b.toNat ∧ b.toNat < 0xF0 ∧ 0x80 ≤ c.toNat ∧ c.toNat ≤ 0xBF ∧
      (b.toNat = 0xE0 → 0xA0 ≤ c.toNat) ∧ (b.toNat = 0xED → c.toNat ≤ 0x9F) ∨
    n = 3 ∧ 0xF0 ≤ b.toNat ∧ b.toNat ≤ 0xF4 ∧ 0x80 ≤ c.toNat ∧ c.toNat ≤ 0xBF ∧
      (b.toNat = 0xF0 → 0x90 ≤ c.toNat) ∧ (b.toNat = 0xF4 → c.toNat ≤ 0x8F) := by
  have hrange (m : Nat) (low high : UInt8) :
      (∃ low' high', some (m, low, high) = some (n, low', high') ∧ low' ≤ c ∧ c ≤ high') ↔
        m = n ∧ low.toNat ≤ c.toNat ∧ c.toNat ≤ high.toNat := by
    simp [UInt8.le_iff_toNat_le]
  unfold Opens lead
  split_ifs <;>
    simp only [beq_iff_eq, UInt8.lt_iff_toNat_lt, ← UInt8.toNat_inj, UInt8.reduceToNat, hrange,
      false_and, exists_false, false_iff] at * <;>
    omega

theorem Opens.le_three (h : Opens n b c) : 1 ≤ n ∧ n ≤ 3 := by
  have h := opens_iff.1 h
  omega

theorem Opens.not_lt (h : Opens n b c) : ¬b < 0x80 := by
  have h := opens_iff.1 h
  simp only [UInt8.lt_iff_toNat_lt, UInt8.reduceToNat]
  omega

theorem Opens.isTail (h : Opens n b c) : isTail c := by
  have h := opens_iff.1 h
  rw [isTail_iff]
  omega

/-! ## Whole sequences -/

/-- The bits of a lead byte with `n` followers and of these. -/
def value (n : Nat) (b : UInt8) (cs : List UInt8) : Nat :=
  cs.foldl (fun bits c => bits * 64 + tailBits c) (leadBits n b)

theorem value_one (b c : UInt8) : value 1 b [c] = b.toNat % 32 * 64 + c.toNat % 64 := rfl

theorem value_two (b c d : UInt8) :
    value 2 b [c, d] = (b.toNat % 16 * 64 + c.toNat % 64) * 64 + d.toNat % 64 := rfl

theorem value_three (b c d e : UInt8) : value 3 b [c, d, e] =
    ((b.toNat % 8 * 64 + c.toNat % 64) * 64 + d.toNat % 64) * 64 + e.toNat % 64 := rfl

/-- The bytes of one character: one below `0x80`, or a lead byte and as many followers as it
says. -/
inductive Shape : List UInt8 → Prop
  | single {b : UInt8} (h : b < 0x80) : Shape [b]
  | several {n : Nat} {b c : UInt8} {cs : List UInt8} (h : Opens n b c) (hn : cs.length + 1 = n)
      (hcs : ∀ x ∈ cs, isTail x) : Shape (b :: c :: cs)

/-- Encoding gives a byte below `0x80`, or a lead byte and its followers whose bits are those of
the character. -/
theorem encode_cases (c : Char) :
    (∃ b, utf8EncodeChar c = [b] ∧ b < 0x80 ∧ c.toNat = b.toNat) ∨
      ∃ n b d ds, utf8EncodeChar c = b :: d :: ds ∧ Opens n b d ∧ ds.length + 1 = n ∧
        (∀ x ∈ ds, isTail x) ∧ c.toNat = value n b (d :: ds) := by
  have hvalid : c.toNat < 0xD800 ∨ 0xDFFF < c.toNat ∧ c.toNat < 0x110000 := c.valid
  simp only [utf8EncodeChar, Char.toNat_val]
  split_ifs with hone htwo hthree
  · refine .inl ⟨_, rfl, ?_⟩
    simp only [UInt8.lt_iff_toNat_lt, UInt8.toNat_ofNat', UInt8.reduceToNat]
    omega
  · refine .inr ⟨1, _, _, [], rfl, opens_iff.2 (.inl ⟨rfl, ?_⟩), rfl, by simp, ?_⟩
    · simp only [UInt8.toNat_ofNat', Nat.reducePow]
      omega
    · simp only [value_one, UInt8.toNat_ofNat', Nat.reducePow]
      omega
  · refine .inr ⟨2, _, _, [_], rfl, opens_iff.2 (.inr (.inl ⟨rfl, ?_⟩)), rfl, ?_, ?_⟩
    · simp only [UInt8.toNat_ofNat', Nat.reducePow]
      omega
    · simp only [List.mem_singleton, forall_eq, isTail_iff, UInt8.toNat_ofNat', Nat.reducePow]
      omega
    · simp only [value_two, UInt8.toNat_ofNat', Nat.reducePow]
      omega
  · refine .inr ⟨3, _, _, [_, _], rfl, opens_iff.2 (.inr (.inr ⟨rfl, ?_⟩)), rfl, ?_, ?_⟩
    · simp only [UInt8.toNat_ofNat', Nat.reducePow]
      omega
    · simp only [List.mem_cons, List.not_mem_nil, or_false, forall_eq_or_imp, forall_eq,
        isTail_iff, UInt8.toNat_ofNat', Nat.reducePow]
      omega
    · simp only [value_three, UInt8.toNat_ofNat', Nat.reducePow]
      omega

theorem exists_char {v : Nat} (h : v < 0xD800 ∨ 0xDFFF < v ∧ v < 0x110000) :
    ∃ c : Char, c.toNat = v :=
  ⟨Char.ofNat v, by rw [Char.ofNat, dif_pos h]; rfl⟩

theorem ofNat_eq_iff {k : Nat} : UInt8.ofNat k = b ↔ k % 256 = b.toNat := by
  rw [← UInt8.toNat_inj, UInt8.toNat_ofNat']

/-- The range of the first follower makes the bits those of a character that is not encoded in
fewer bytes. -/
theorem exists_encode_of_shape (h : Shape bs) : ∃ c, utf8EncodeChar c = bs := by
  cases h with
  | @single b h =>
    simp only [UInt8.lt_iff_toNat_lt, UInt8.reduceToNat] at h
    obtain ⟨x, hx⟩ := exists_char (v := b.toNat) (by omega)
    refine ⟨x, ?_⟩
    simp only [utf8EncodeChar, Char.toNat_val]
    rw [if_pos (by omega)]
    simp only [List.cons.injEq, ofNat_eq_iff, and_true]
    omega
  | @several n b c cs h hn hcs =>
    obtain ⟨rfl, h⟩ | ⟨rfl, h⟩ | ⟨rfl, h⟩ := opens_iff.1 h
    · obtain rfl : cs = [] := List.length_eq_zero_iff.1 (Nat.succ.inj hn)
      obtain ⟨x, hx⟩ := exists_char (v := value 1 b [c]) (by rw [value_one]; omega)
      rw [value_one] at hx
      refine ⟨x, ?_⟩
      simp only [utf8EncodeChar, Char.toNat_val]
      rw [if_neg (by omega), if_pos (by omega)]
      simp only [List.cons.injEq, ofNat_eq_iff, and_true]
      omega
    · obtain ⟨d, rfl⟩ := List.length_eq_one_iff.1 (Nat.succ.inj hn)
      simp only [List.mem_singleton, forall_eq, isTail_iff] at hcs
      obtain ⟨x, hx⟩ := exists_char (v := value 2 b [c, d]) (by rw [value_two]; omega)
      rw [value_two] at hx
      refine ⟨x, ?_⟩
      simp only [utf8EncodeChar, Char.toNat_val]
      rw [if_neg (by omega), if_neg (by omega), if_pos (by omega)]
      simp only [List.cons.injEq, ofNat_eq_iff, and_true]
      omega
    · obtain ⟨d, e, rfl⟩ := List.length_eq_two.1 (Nat.succ.inj hn)
      simp only [List.mem_cons, List.not_mem_nil, or_false, forall_eq_or_imp, forall_eq,
        isTail_iff] at hcs
      obtain ⟨x, hx⟩ := exists_char (v := value 3 b [c, d, e]) (by rw [value_three]; omega)
      rw [value_three] at hx
      refine ⟨x, ?_⟩
      simp only [utf8EncodeChar, Char.toNat_val]
      rw [if_neg (by omega), if_neg (by omega), if_neg (by omega)]
      simp only [List.cons.injEq, ofNat_eq_iff, and_true]
      omega

/-! ## Reading a sequence -/

/-- The followers that bytes start with, at most `n`. -/
def followers (n : Nat) (bs : List UInt8) : List UInt8 := (bs.take n).takeWhile isTail

theorem length_followers_le (n : Nat) (bs : List UInt8) : (followers n bs).length ≤ n :=
  (List.takeWhile_prefix _).length_le.trans (List.length_take_le n bs)

theorem prefix_followers (n : Nat) (bs : List UInt8) : followers n bs <+: bs :=
  (List.takeWhile_prefix _).trans (List.take_prefix n bs)

theorem isTail_of_mem_followers {x : UInt8} (h : x ∈ followers n bs) : isTail x :=
  List.mem_takeWhile_imp h

theorem followers_append (hn : cs.length ≤ n) (hcs : ∀ x ∈ cs, isTail x) (bs : List UInt8) :
    followers n (cs ++ bs) = cs ++ followers (n - cs.length) bs := by
  rw [followers, List.take_append, List.take_of_length_le hn, List.takeWhile_append_of_pos hcs,
    followers]

theorem follow_eq (n bits : Nat) (bs : List UInt8) : follow n bits bs =
    (if (followers n bs).length = n then
      some ((followers n bs).foldl (fun bits c => bits * 64 + tailBits c) bits) else none,
      (followers n bs).length) := by
  induction n generalizing bits bs with
  | zero => rfl
  | succ n ih =>
    cases bs with
    | nil => rfl
    | cons b bs =>
      by_cases hb : isTail b
      · simp only [follow, followers, hb, ih, List.take_succ_cons, List.takeWhile_cons_of_pos,
          List.length_cons, List.foldl_cons, Nat.add_right_cancel_iff, if_true]
        congr
      · simp [follow, followers, hb]

/-- A byte below `0x80` is read as it is. -/
theorem start_single (h : b < 0x80) (bs : List UInt8) : start b bs = (some b.toNat, 0) := by
  unfold start
  exact if_pos h

/-- Behind a lead byte and its first follower, the others are read as far as they go. -/
theorem start_several (h : Opens n b c) (cs : List UInt8) : start b (c :: cs) =
    (if (followers (n - 1) cs).length = n - 1 then some (value n b (c :: followers (n - 1) cs))
      else none, (followers (n - 1) cs).length + 1) := by
  have hb := h.not_lt
  obtain ⟨low, high, hlead, hlow, hhigh⟩ := h
  simp only [start, hb, hlead, hlow, hhigh, follow_eq, value, List.foldl_cons, decide_true,
    Bool.and_self, if_true, if_false]

/-- Nothing is read where neither starts. -/
theorem start_stuck (hb : ¬b < 0x80) (h : ∀ n c cs, bs = c :: cs → ¬Opens n b c) :
    start b bs = (none, 0) := by
  unfold start
  rw [if_neg hb]
  split
  next n low high c cs hlead =>
    have hrange : ¬(low ≤ c && c ≤ high) = true := fun hrange =>
      h n c cs rfl ⟨low, high, hlead, by simpa using hrange⟩
    exact if_neg hrange
  next => rfl

/-- How bytes go on behind one of them. -/
inductive Front (b : UInt8) : List UInt8 → Prop
  | single {bs : List UInt8} (h : b < 0x80) : Front b bs
  | several {n : Nat} {c : UInt8} {cs : List UInt8} (h : Opens n b c) : Front b (c :: cs)
  | stuck {bs : List UInt8} (hb : ¬b < 0x80) (h : ∀ n c cs, bs = c :: cs → ¬Opens n b c) :
      Front b bs

theorem front (b : UInt8) (bs : List UInt8) : Front b bs := by
  by_cases hb : b < 0x80
  · exact .single hb
  · by_cases h : ∃ n c cs, bs = c :: cs ∧ Opens n b c
    · obtain ⟨n, c, cs, rfl, h⟩ := h
      exact .several h
    · exact .stuck hb fun n c cs hbs hopens => h ⟨n, c, cs, hbs, hopens⟩

/-- A character is read back from its bytes, whatever follows them. -/
theorem start_encode (c : Char) (bs : List UInt8) :
    ∃ b cs, utf8EncodeChar c = b :: cs ∧ start b (cs ++ bs) = (some c.toNat, cs.length) := by
  obtain ⟨b, hc, hb, hvalue⟩ | ⟨n, b, d, ds, hc, hopens, hn, hds, hvalue⟩ := encode_cases c
  · exact ⟨b, [], hc, hvalue ▸ start_single hb bs⟩
  · obtain rfl : n = ds.length + 1 := hn.symm
    have hfollowers : followers ds.length (ds ++ bs) = ds := by
      rw [followers_append (Nat.le_refl _) hds, Nat.sub_self]
      exact List.append_nil ds
    refine ⟨b, d :: ds, hc, ?_⟩
    rw [List.cons_append, start_several hopens, Nat.add_sub_cancel, hfollowers, if_pos rfl, hvalue,
      List.length_cons]

/-! ## Beginnings -/

/-- Some character's bytes begin with these. -/
def Begun (bs : List UInt8) : Prop := ∃ c, bs <+: utf8EncodeChar c

/-- From the second byte on, the first two bytes decide how many may follow. -/
theorem begun_iff : Begun (b :: c :: cs) ↔
    ∃ n, Opens n b c ∧ cs.length + 1 ≤ n ∧ ∀ x ∈ cs, isTail x := by
  constructor
  · rintro ⟨x, hx⟩
    obtain ⟨y, hy, -⟩ | ⟨n, y, d, ds, hy, hopens, hn, hds, -⟩ := encode_cases x
    · have hlength := hx.length_le
      simp [hy] at hlength
    · rw [hy, List.cons_prefix_cons, List.cons_prefix_cons] at hx
      obtain ⟨rfl, rfl, hfront⟩ := hx
      exact ⟨n, hopens, hn ▸ Nat.succ_le_succ hfront.length_le, fun x hx => hds x (hfront.mem hx)⟩
  · rintro ⟨n, hopens, hn, hcs⟩
    -- the least follower fills the sequence up
    have hshape : Shape (b :: c :: (cs ++ List.replicate (n - 1 - cs.length) 0x80)) := by
      refine .several hopens ?_ fun x hx => ?_
      · simp only [List.length_append, List.length_replicate]
        omega
      · rcases List.mem_append.1 hx with hx | hx
        · exact hcs x hx
        · rw [List.eq_of_mem_replicate hx]
          rfl
    obtain ⟨x, hx⟩ := exists_encode_of_shape hshape
    exact ⟨x, hx ▸ List.prefix_append (b :: c :: cs) _⟩

end Utf8

end Caption
