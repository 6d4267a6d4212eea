import Mathlib
import Caption.Proofs.Text.Sequence
import Caption.Reader

/-!
# Text read forgivingly

Reading bytes as text is told by a relation: from the left, the bytes of a character give this
character, and where no character starts, the longest piece that could have begun one, or a single
byte, gives one mark. The relation leaves no choice, so it is a function, and decoding is this
function. A piece never reaches into the bytes of a character, so a text within any bytes is read
as it is.

## Main definitions

* `Utf8.encode`: the bytes of a text
* `Utf8.Broken`: a piece that stands for no character
* `Utf8.Decodes`: what bytes are read as

## Main statements

* `Utf8.decodes_iff`: decoding is the one way to read bytes
* `Utf8.decode_append`: bytes are read in parts, cut in front of a character
* `FileTree.readText_of_file`: the text of a file
-/
namespace Caption

namespace Utf8

open String (utf8EncodeChar)

variable {b c : UInt8} {bs piece rest : List UInt8} {t : List Char}

/-- The bytes of a text. -/
def encode (t : List Char) : List UInt8 := t.flatMap utf8EncodeChar

/-- A piece that stands for no character: none starts where it does, and it is one byte or the
longest beginning of a sequence. -/
structure Broken (piece rest : List UInt8) : Prop where
  ne_nil : piece ≠ []
  no_char : ∀ c, ¬utf8EncodeChar c <+: piece ++ rest
  begun : piece.length = 1 ∨ Begun piece
  longest : ∀ front, front <+: piece ++ rest → Begun front → front.length ≤ piece.length

/-- What bytes are read as: each character from its bytes, and one mark for each piece that stands
for no character. -/
inductive Decodes : List UInt8 → List Char → Prop
  | nil : Decodes [] []
  | char (c : Char) {rest : List UInt8} {t : List Char} (h : Decodes rest t) :
      Decodes (utf8EncodeChar c ++ rest) (c :: t)
  | mark {piece rest : List UInt8} {t : List Char} (hb : Broken piece rest) (h : Decodes rest t) :
      Decodes (piece ++ rest) (replacement :: t)

/-! ## Where a piece ends -/

/-- How far a piece goes is decided. -/
theorem Broken.length_le {piece' rest' : List UInt8} (h : Broken piece rest)
    (h' : Broken piece' rest') (heq : piece ++ rest = piece' ++ rest') :
    piece.length ≤ piece'.length := by
  rcases h.begun with hone | hbegun
  · exact hone ▸ List.length_pos_iff.2 h'.ne_nil
  · exact h'.longest piece (heq ▸ List.prefix_append _ _) hbegun

/-- Where a number is read, the bytes of a character start. -/
theorem exists_char_of_start {v k : Nat} (h : start b bs = (some v, k)) :
    ∃ x, utf8EncodeChar x <+: b :: bs := by
  cases front b bs with
  | single hb =>
    obtain ⟨x, hx⟩ := exists_encode_of_shape (.single hb)
    exact ⟨x, hx ▸ List.prefix_append [b] bs⟩
  | @several n c cs hopens =>
    rw [start_several hopens] at h
    have hn : (followers (n - 1) cs).length = n - 1 := by
      by_contra hne
      rw [if_neg hne] at h
      cases h
    have hpos := hopens.le_three
    have hshape : Shape (b :: c :: followers (n - 1) cs) :=
      .several hopens (by omega) fun x hx => isTail_of_mem_followers hx
    obtain ⟨x, hx⟩ := exists_encode_of_shape hshape
    have hfront := prefix_followers (n - 1) cs
    refine ⟨x, hx ▸ ?_⟩
    rw [List.cons_prefix_cons, List.cons_prefix_cons]
    exact ⟨rfl, rfl, hfront⟩
  | stuck hb hopens =>
    rw [start_stuck hb hopens] at h
    cases h

/-- Where no number is read, no character starts. -/
theorem not_encode_prefix {k : Nat} (h : start b bs = (none, k)) (x : Char) :
    ¬utf8EncodeChar x <+: b :: bs := by
  rintro ⟨rest, hrest⟩
  obtain ⟨y, ys, hy, hstart⟩ := start_encode x rest
  rw [hy, List.cons_append] at hrest
  cases hrest
  rw [hstart] at h
  cases h

/-- Where no number is read, what is passed over is one byte or the beginning of a sequence. -/
theorem begun_of_start {k : Nat} (h : start b bs = (none, k)) :
    (b :: bs.take k).length = 1 ∨ Begun (b :: bs.take k) := by
  cases front b bs with
  | single hb =>
    rw [start_single hb] at h
    cases h
  | @several n c cs hopens =>
    rw [start_several hopens] at h
    obtain rfl : (followers (n - 1) cs).length + 1 = k := (Prod.mk.inj h).2
    have hpos := hopens.le_three
    have hle := length_followers_le (n - 1) cs
    have htake : cs.take (followers (n - 1) cs).length = followers (n - 1) cs :=
      (List.prefix_iff_eq_take.1 (prefix_followers (n - 1) cs)).symm
    rw [List.take_succ_cons, htake]
    exact .inr (begun_iff.2 ⟨n, hopens, by omega, fun x hx => isTail_of_mem_followers hx⟩)
  | stuck hb hopens =>
    rw [start_stuck hb hopens] at h
    obtain rfl : 0 = k := (Prod.mk.inj h).2
    exact .inl rfl

/-- No beginning of a sequence goes further than what is passed over. -/
theorem length_le_of_begun {k : Nat} (h : start b bs = (none, k)) {front : List UInt8}
    (hfront : front <+: b :: bs) (hbegun : Begun front) : front.length ≤ k + 1 := by
  match front with
  | [] | [_] => simp
  | x :: y :: cs =>
    obtain ⟨n, hopens, hn, hcs⟩ := begun_iff.1 hbegun
    obtain ⟨rest, hrest⟩ := hfront
    simp only [List.cons_append, List.cons.injEq] at hrest
    obtain ⟨rfl, rfl⟩ := hrest
    rw [start_several hopens, followers_append (by omega) hcs] at h
    obtain rfl := (Prod.mk.inj h).2
    simp

/-- What is passed over where no number is read is a piece that stands for no character. -/
theorem broken_of_start {k : Nat} (h : start b bs = (none, k)) :
    Broken (b :: bs.take k) (bs.drop k) := by
  have hcons : b :: bs.take k ++ bs.drop k = b :: bs := by simp
  refine ⟨List.cons_ne_nil _ _, hcons ▸ not_encode_prefix h, begun_of_start h, fun front => ?_⟩
  intro hfront hbegun
  have hle := length_le_of_begun h (hcons ▸ hfront) hbegun
  have hlength := hfront.length_le
  simp only [List.length_append, List.length_cons, List.length_take, List.length_drop] at hlength ⊢
  omega

/-! ## Decoding -/

theorem decodeFrom_eq (k : Nat) (bs : List UInt8) : decodeFrom k bs = decode (bs.drop k) := by
  induction k generalizing bs with
  | zero => rfl
  | succ k ih =>
    cases bs with
    | nil => rfl
    | cons b bs => exact ih bs

theorem decode_cons_of_some {v k : Nat} (h : start b bs = (some v, k)) :
    decode (b :: bs) = Char.ofNat v :: decode (bs.drop k) := by
  rw [decode, decodeFrom, h, ← decodeFrom_eq]

theorem decode_cons_of_none {k : Nat} (h : start b bs = (none, k)) :
    decode (b :: bs) = replacement :: decode (bs.drop k) := by
  rw [decode, decodeFrom, h, ← decodeFrom_eq]

/-- A character is read from its bytes, whatever follows. -/
theorem decode_encodeChar_append (x : Char) (rest : List UInt8) :
    decode (utf8EncodeChar x ++ rest) = x :: decode rest := by
  obtain ⟨b, cs, hx, hstart⟩ := start_encode x rest
  rw [hx, List.cons_append, decode_cons_of_some hstart, List.drop_left, Char.ofNat_toNat]

/-- Each byte starts a character or a piece that stands for none. -/
theorem exists_char_or_broken (b : UInt8) (bs : List UInt8) :
    (∃ x rest, b :: bs = utf8EncodeChar x ++ rest) ∨
      ∃ piece rest, b :: bs = piece ++ rest ∧ Broken piece rest ∧
        decode (b :: bs) = replacement :: decode rest := by
  obtain ⟨found, k, hstart⟩ : ∃ found k, start b bs = (found, k) := ⟨_, _, rfl⟩
  cases found with
  | some v =>
    obtain ⟨x, rest, hrest⟩ := exists_char_of_start hstart
    exact .inl ⟨x, rest, hrest.symm⟩
  | none =>
    refine .inr ⟨b :: bs.take k, bs.drop k, ?_, broken_of_start hstart, decode_cons_of_none hstart⟩
    simp

/-- A piece that stands for no character is read as one mark. -/
theorem decode_broken_append (h : Broken piece rest) :
    decode (piece ++ rest) = replacement :: decode rest := by
  obtain ⟨b, cs, rfl⟩ := List.exists_cons_of_ne_nil h.ne_nil
  rw [List.cons_append]
  obtain ⟨x, rest', heq⟩ | ⟨piece', rest', heq, h', hdecode⟩ := exists_char_or_broken b (cs ++ rest)
  · exact absurd ⟨rest', heq.symm⟩ (h.no_char x)
  · have hlength := Nat.le_antisymm (h.length_le h' heq) (h'.length_le h heq.symm)
    obtain ⟨-, rfl⟩ := List.append_inj heq hlength
    exact hdecode

theorem decodes_decode (bs : List UInt8) : Decodes bs (decode bs) := by
  induction hn : bs.length using Nat.strong_induction_on generalizing bs with
  | _ n ih =>
    subst hn
    cases bs with
    | nil => exact .nil
    | cons b bs =>
      obtain ⟨x, rest, heq⟩ | ⟨piece, rest, heq, hbroken, -⟩ := exists_char_or_broken b bs
      · have hx := List.length_pos_iff.2 (@String.utf8EncodeChar_ne_nil x)
        rw [heq, decode_encodeChar_append]
        rw [heq, List.length_append] at ih
        exact .char x (ih rest.length (by omega) rest rfl)
      · have hpiece := List.length_pos_iff.2 hbroken.ne_nil
        rw [heq, decode_broken_append hbroken]
        rw [heq, List.length_append] at ih
        exact .mark hbroken (ih rest.length (by omega) rest rfl)

/-- Decoding is the one way to read bytes. -/
theorem decodes_iff : Decodes bs t ↔ decode bs = t := by
  constructor
  · intro h
    induction h with
    | nil => rfl
    | char x _ ih => rw [decode_encodeChar_append, ih]
    | mark hbroken _ ih => rw [decode_broken_append hbroken, ih]
  · rintro rfl
    exact decodes_decode bs

/-! ## Bytes in parts -/

theorem decode_encode_append (t : List Char) (bs : List UInt8) :
    decode (encode t ++ bs) = t ++ decode bs := by
  induction t with
  | nil => rfl
  | cons x t ih =>
    rw [encode, List.flatMap_cons, List.append_assoc, decode_encodeChar_append, ← encode, ih]
    rfl

/-- Bytes in front of which a piece always ends. -/
def Apart (bs : List UInt8) : Prop := ∀ b ∈ bs.head?, ¬isTail b

theorem apart_encode_append (ht : t ≠ []) (bs : List UInt8) : Apart (encode t ++ bs) := by
  obtain ⟨x, t, rfl⟩ := List.exists_cons_of_ne_nil ht
  rw [encode, List.flatMap_cons]
  intro e he
  obtain ⟨b, hx, hb, -⟩ | ⟨n, b, d, ds, hx, hopens, -⟩ := encode_cases x <;>
    rw [hx] at he <;> cases he <;> rw [isTail_iff]
  · simp only [UInt8.lt_iff_toNat_lt, UInt8.reduceToNat] at hb
    omega
  · have hlead := opens_iff.1 hopens
    omega

theorem followers_append_of_apart {es : List UInt8} (he : Apart es) (n : Nat) (bs : List UInt8) :
    followers n (bs ++ es) = followers n bs := by
  induction n generalizing bs with
  | zero => rfl
  | succ n ih =>
    cases bs with
    | nil =>
      cases es with
      | nil => rfl
      | cons e es => exact List.takeWhile_cons_of_neg (he e rfl)
    | cons b bs =>
      simp only [followers] at ih
      simp only [followers, List.cons_append, List.take_succ_cons, List.takeWhile_cons, ih]

/-- What is read does not go on into bytes that a piece ends in front of. -/
theorem start_append {es : List UInt8} (he : Apart es) (b : UInt8) (bs : List UInt8) :
    start b (bs ++ es) = start b bs := by
  cases front b bs with
  | single hb => rw [start_single hb, start_single hb]
  | several hopens =>
    rw [List.cons_append, start_several hopens, start_several hopens, followers_append_of_apart he]
  | stuck hb hopens =>
    rw [start_stuck hb hopens]
    refine start_stuck hb fun n c cs heq hc => ?_
    cases bs with
    | nil => exact he c (by rw [← List.nil_append es, heq]; rfl) hc.isTail
    | cons d ds =>
      rw [List.cons_append] at heq
      cases heq
      exact hopens n c ds rfl hc

theorem start_snd_le (b : UInt8) (bs : List UInt8) : (start b bs).2 ≤ bs.length := by
  cases front b bs with
  | single hb => simp [start_single hb]
  | @several n c cs hopens =>
    rw [start_several hopens]
    exact Nat.succ_le_succ (prefix_followers _ cs).length_le
  | stuck hb hopens => simp [start_stuck hb hopens]

/-- Bytes are read in parts, if no piece goes on from the first into the second. -/
theorem decode_append {es : List UInt8} (he : Apart es) (bs : List UInt8) :
    decode (bs ++ es) = decode bs ++ decode es := by
  induction hn : bs.length using Nat.strong_induction_on generalizing bs with
  | _ n ih =>
    subst hn
    cases bs with
    | nil => rfl
    | cons b bs =>
      have hle := start_snd_le b bs
      have happend := start_append he b bs
      obtain ⟨found, k, hstart⟩ : ∃ found k, start b bs = (found, k) := ⟨_, _, rfl⟩
      rw [hstart] at hle happend
      have hrest := ih (bs.drop k).length (by simp only [List.length_drop, List.length_cons]; omega)
        (bs.drop k) rfl
      rw [List.cons_append]
      cases found with
      | some v =>
        rw [decode_cons_of_some hstart, decode_cons_of_some happend,
          List.drop_append_of_le_length hle, hrest, List.cons_append]
      | none =>
        rw [decode_cons_of_none hstart, decode_cons_of_none happend,
          List.drop_append_of_le_length hle, hrest, List.cons_append]

/-- A text is read as it is within any bytes. -/
theorem decode_append_encode_append (front back : List UInt8) (ht : t ≠ []) :
    decode (front ++ encode t ++ back) = decode front ++ t ++ decode back := by
  rw [List.append_assoc, decode_append (apart_encode_append ht back), decode_encode_append,
    List.append_assoc]

end Utf8

/-! ## Files -/

namespace Utf8

/-- The text `s` is the text `t` less one order mark in front, if there is one. -/
def Unmarked (t s : List Char) : Prop :=
  t = orderMark :: s ∨ t.head? ≠ some orderMark ∧ s = t

theorem unmarked_dropOrderMark (t : List Char) : Unmarked t (dropOrderMark t) := by
  cases t with
  | nil => exact .inr ⟨nofun, rfl⟩
  | cons c t =>
    by_cases hc : c = orderMark
    · exact .inl (by rw [dropOrderMark, if_pos hc, hc])
    · exact .inr ⟨by simpa using hc, if_neg hc⟩

end Utf8

namespace FileTree

open Utf8

theorem ne_empty_of_read {files : FileTree} {path : String} {content : ByteArray}
    (h : files.read path = .ok content) : path ≠ "" := by
  rintro rfl
  cases h

theorem value_readText {files : FileTree} {path : String} {content : ByteArray}
    (h : files.read path = .ok content) :
    (files.readText path).value = dropOrderMark (decode content.toList) := by
  unfold readText
  rw [if_neg (ne_empty_of_read h), h]
  rfl

/-- The text of a file is what its bytes are read as, less one order mark in front. Bytes are read
in one way, from the left, each character from its bytes and one mark for each longest piece that
stands for none. So the bytes of a text are read as this text, within any others, too. -/
theorem readText_of_file {files : FileTree} {path : String} {content : ByteArray}
    (h : files.read path = .ok content) :
    (∀ t, content.toList = encode t → Unmarked t (files.readText path).value) ∧
      (∃ t, Decodes content.toList t ∧ Unmarked t (files.readText path).value) ∧
      (∀ bs t, Decodes bs t ↔ decode bs = t) ∧
      (∀ t bs, decode (encode t ++ bs) = t ++ decode bs) ∧
      ∀ front t back, t ≠ [] →
        decode (front ++ encode t ++ back) = decode front ++ t ++ decode back := by
  rw [value_readText h]
  refine ⟨fun t ht => ?_, ⟨_, decodes_decode _, unmarked_dropOrderMark _⟩, fun _ _ => decodes_iff,
    decode_encode_append, fun front _ back ht => decode_append_encode_append front back ht⟩
  have hdecode : decode content.toList = t := by
    rw [ht, ← List.append_nil (encode t), decode_encode_append]
    exact List.append_nil t
  exact hdecode ▸ unmarked_dropOrderMark t

/-- A file that opens with two order marks, of which one is left, and holds a sequence that is cut
off in front of a letter and the three bytes of a surrogate. -/
theorem readText_of_file_cut :
    let content : ByteArray := ⟨#[0xEF, 0xBB, 0xBF, 0xEF, 0xBB, 0xBF, 0x61, 0xF0, 0x9F, 0xC3, 0xA9,
      0xED, 0xA0, 0x80]⟩
    let files : FileTree := ⟨[(["a"], content)], [], []⟩
    files.read "a" = .ok content ∧ (files.readText "a").value =
      [orderMark, 'a', replacement, 'é', replacement, replacement, replacement] := by
  intro content files
  have hread : files.read "a" = .ok content := by cbv
  have hdecode : decode content.toList = orderMark :: orderMark :: 'a' :: replacement :: 'é' ::
      List.replicate 3 replacement := by cbv
  obtain ⟨-, ⟨t, hdecodes, hunmarked⟩, hiff, -⟩ := readText_of_file hread
  obtain rfl := ((hiff _ _).1 hdecodes).symm.trans hdecode
  obtain hmarked | ⟨hfront, -⟩ := hunmarked
  · exact ⟨hread, (List.cons.inj hmarked).2.symm⟩
  · exact absurd rfl hfront

end FileTree

end Caption
