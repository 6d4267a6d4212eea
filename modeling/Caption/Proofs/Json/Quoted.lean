import Caption.Json.Quoted

/-!
# Spellings of strings

A character may stand between quotes as itself, as a one-letter escape, as a unit of four
hexadecimal digits or as a pair of units. Reading takes every spelling to the text it stands
for, and writing chooses one of them. A string that is only passed over may hold any units.

## Main definitions

* `Json.Quoted.SpellsChar`, `Json.Quoted.Spells`: what stands for a character and for a text
* `Json.Quoted.Escaped`: what may stand between quotes at all

## Main statements

* `Json.Quoted.Spells.scan`: a spelled text is read
* `Json.Quoted.Escaped.skip`: an escaped text is passed over
* `Json.Quoted.spells_encode`: what is written is a spelling
-/
namespace Caption

namespace Json

namespace Quoted

/-! ## Spellings -/

/-- A character that may stand for itself. -/
structure Plain (c : Char) : Prop where
  ne_quote : c ≠ '"'
  ne_backslash : c ≠ '\\'
  ge_blank : 0x20 ≤ c.toNat

instance (c : Char) : Decidable (Plain c) :=
  decidable_of_iff (c ≠ '"' ∧ c ≠ '\\' ∧ 0x20 ≤ c.toNat)
    ⟨fun h => ⟨h.1, h.2.1, h.2.2⟩, fun h => ⟨h.ne_quote, h.ne_backslash, h.ge_blank⟩⟩

/-- Four hexadecimal digits of a number. -/
inductive SpellsUnit : List Char → Nat → Prop where
  | digits {a b c d : Char} {w x y z : Nat} (ha : hexDigit? a = some w) (hb : hexDigit? b = some x)
      (hc : hexDigit? c = some y) (hd : hexDigit? d = some z) :
      SpellsUnit [a, b, c, d] (((w * 16 + x) * 16 + y) * 16 + z)

/-- What stands for one character. -/
inductive SpellsChar : List Char → Char → Prop where
  | plain {c : Char} (h : Plain c) : SpellsChar [c] c
  | short {e c : Char} (h : shortEscape? e = some c) : SpellsChar ['\\', e] c
  | unit {t : List Char} {n : Nat} (h : SpellsUnit t n) (hhigh : Utf16.isHigh n = false)
      (hlow : Utf16.isLow n = false) : SpellsChar ('\\' :: 'u' :: t) (Char.ofNat n)
  | pair {t u : List Char} {high low : Nat} (ht : SpellsUnit t high) (hu : SpellsUnit u low)
      (hhigh : Utf16.isHigh high = true) (hlow : Utf16.isLow low = true) :
      SpellsChar ('\\' :: 'u' :: t ++ '\\' :: 'u' :: u) (Utf16.pair high low)

/-- What stands for a text. -/
inductive Spells : List Char → List Char → Prop where
  | nil : Spells [] []
  | cons {t ts s : List Char} {c : Char} (hc : SpellsChar t c) (hs : Spells ts s) :
      Spells (t ++ ts) (c :: s)

/-- What may stand between quotes. Surrogates need no partner here. -/
inductive Escaped : List Char → Prop where
  | nil : Escaped []
  | plain {c : Char} {ts : List Char} (h : Plain c) (hts : Escaped ts) : Escaped (c :: ts)
  | short {e c : Char} {ts : List Char} (h : shortEscape? e = some c) (hts : Escaped ts) :
      Escaped ('\\' :: e :: ts)
  | unit {t ts : List Char} {n : Nat} (h : SpellsUnit t n) (hts : Escaped ts) :
      Escaped ('\\' :: 'u' :: (t ++ ts))

theorem spells_of_plain {s : List Char} (h : s.all (fun c => decide (Plain c)) = true) :
    Spells s s := by
  induction s with
  | nil => exact .nil
  | cons c s ih =>
    simp only [List.all_cons, Bool.and_eq_true, decide_eq_true_eq] at h
    exact .cons (.plain h.1) (ih h.2)

/-! ## Reading -/

theorem SpellsUnit.scan {t : List Char} {n : Nat} (h : SpellsUnit t n) (rest : List Char) :
    scanHex (t ++ rest) = .ok (n, rest) := by
  cases h with
  | digits ha hb hc hd => simp [scanHex, ha, hb, hc, hd]

/-- No one-letter escape is the letter of a unit. -/
theorem ne_of_shortEscape? {e c : Char} (h : shortEscape? e = some c) : e ≠ 'u' := by
  rintro rfl
  simp [shortEscape?] at h

theorem scanEscape_short {e c : Char} (h : shortEscape? e = some c) (rest : List Char) :
    scanEscape (e :: rest) = .ok (c, rest) := by
  have hne := ne_of_shortEscape? h
  rw [scanEscape.eq_3 e rest hne, h]

theorem scanEscape_unit {t : List Char} {n : Nat} (h : SpellsUnit t n)
    (hhigh : Utf16.isHigh n = false) (hlow : Utf16.isLow n = false) (rest : List Char) :
    scanEscape ('u' :: (t ++ rest)) = .ok (Char.ofNat n, rest) := by
  simp [scanEscape, h.scan, bind, Except.bind, hhigh, hlow]

theorem scanEscape_pair {t u : List Char} {high low : Nat} (ht : SpellsUnit t high)
    (hu : SpellsUnit u low) (hhigh : Utf16.isHigh high = true) (hlow : Utf16.isLow low = true)
    (rest : List Char) :
    scanEscape ('u' :: (t ++ '\\' :: 'u' :: (u ++ rest))) = .ok (Utf16.pair high low, rest) := by
  have hfirst : Utf16.isLow high = false := by
    simp only [Utf16.isHigh, Utf16.isLow, Bool.and_eq_true, Bool.and_eq_false_iff,
      decide_eq_true_eq, decide_eq_false_iff_not] at hhigh ⊢
    omega
  simp [scanEscape, ht.scan, scanTrail, hu.scan, bind, Except.bind, hhigh, hfirst, hlow]

/-- Every spelling of a character is one step of reading. -/
theorem SpellsChar.step {t : List Char} {c : Char} (h : SpellsChar t c) (fuel : Nat)
    (read rest : List Char) :
    scanTextWith (fuel + 1) read (t ++ rest) = scanTextWith fuel (c :: read) rest := by
  cases h with
  | plain h => simp [scanTextWith, h.ne_quote, h.ne_backslash, Nat.not_lt.2 h.ge_blank]
  | short h => simp [scanTextWith, scanEscape_short h, bind, Except.bind]
  | unit h hhigh hlow =>
    simp [scanTextWith, scanEscape_unit h hhigh hlow, bind, Except.bind]
  | pair ht hu hhigh hlow =>
    simp [scanTextWith, scanEscape_pair ht hu hhigh hlow, bind, Except.bind]

theorem SpellsChar.length_pos {t : List Char} {c : Char} (h : SpellsChar t c) : 0 < t.length := by
  cases h <;> simp

theorem Spells.scanWith {t s : List Char} (h : Spells t s) {fuel : Nat} (hfuel : t.length < fuel)
    (read rest : List Char) :
    scanTextWith fuel read (t ++ '"' :: rest) = .ok (read.reverse ++ s, rest) := by
  induction h generalizing fuel read with
  | nil =>
    obtain ⟨fuel, rfl⟩ := Nat.exists_eq_add_one.2 hfuel
    simp [scanTextWith]
  | @cons t ts s c hc hs ih =>
    have hlen := hc.length_pos
    rw [List.length_append] at hfuel
    obtain ⟨fuel, rfl⟩ := Nat.exists_eq_add_one.2 (Nat.zero_lt_of_lt hfuel)
    rw [List.append_assoc, hc.step, ih (by omega)]
    simp

/-- Every spelling of a text is read as that text. -/
theorem Spells.scan {t s : List Char} (h : Spells t s) (rest : List Char) :
    scanText (t ++ '"' :: rest) = .ok (s, rest) :=
  h.scanWith (by simp only [List.length_append, List.length_cons]; omega) [] rest

/-! ## Passing over -/

theorem Escaped.skipWith {t : List Char} (h : Escaped t) {fuel : Nat} (hfuel : t.length < fuel)
    (rest : List Char) : skipTextWith fuel (t ++ '"' :: rest) = .ok rest := by
  induction h generalizing fuel with
  | nil =>
    obtain ⟨fuel, rfl⟩ := Nat.exists_eq_add_one.2 hfuel
    simp [skipTextWith]
  | plain h _ ih =>
    obtain ⟨fuel, rfl⟩ := Nat.exists_eq_add_one.2 (Nat.zero_lt_of_lt hfuel)
    simp only [List.length_cons] at hfuel
    have hts := @ih fuel (by omega)
    simp [skipTextWith, h.ne_quote, h.ne_backslash, Nat.not_lt.2 h.ge_blank, hts]
  | @short e c ts h _ ih =>
    obtain ⟨fuel, rfl⟩ := Nat.exists_eq_add_one.2 (Nat.zero_lt_of_lt hfuel)
    simp only [List.length_cons] at hfuel
    have hskip : skipEscape (e :: (ts ++ '"' :: rest)) = .ok (ts ++ '"' :: rest) := by
      have hne := ne_of_shortEscape? h
      rw [skipEscape.eq_3 e _ hne, h]
    have hts := @ih fuel (by omega)
    simp [skipTextWith, hskip, bind, Except.bind, hts]
  | @unit t ts n h _ ih =>
    obtain ⟨fuel, rfl⟩ := Nat.exists_eq_add_one.2 (Nat.zero_lt_of_lt hfuel)
    simp only [List.length_cons, List.length_append] at hfuel
    have hskip : skipEscape ('u' :: (t ++ (ts ++ '"' :: rest))) = .ok (ts ++ '"' :: rest) := by
      simp [skipEscape, h.scan, bind, Except.bind]
    have hts := @ih fuel (by omega)
    simp [skipTextWith, hskip, bind, Except.bind, hts]

/-- Whatever may stand between quotes is passed over up to the closing one. -/
theorem Escaped.skip {t : List Char} (h : Escaped t) (rest : List Char) :
    skipText (t ++ '"' :: rest) = .ok rest :=
  h.skipWith (by simp only [List.length_append, List.length_cons]; omega) rest

/-! ## Writing -/

theorem hexDigit?_digitChar {n : Nat} (h : n < 16) : hexDigit? (Nat.digitChar n) = some n := by
  have hall : ∀ k : Fin 16, hexDigit? (Nat.digitChar k) = some k.val := by decide
  exact hall ⟨n, h⟩

theorem spellsUnit_control {n : Nat} (h : n < 0x20) :
    SpellsUnit ['0', '0', Nat.digitChar (n / 16), Nat.digitChar (n % 16)] n := by
  have hzero : hexDigit? '0' = some 0 := rfl
  have hunit := SpellsUnit.digits hzero hzero (hexDigit?_digitChar (n := n / 16) (by omega))
    (hexDigit?_digitChar (n := n % 16) (by omega))
  have hn : ((0 * 16 + 0) * 16 + n / 16) * 16 + n % 16 = n := by omega
  rwa [hn] at hunit

theorem spellsChar_encodeChar (c : Char) : SpellsChar (encodeChar c) c := by
  unfold encodeChar
  split
  case h_8 hquote hbackslash _ _ _ _ _ =>
    split
    case isTrue hcontrol =>
      have hchar := SpellsChar.unit (spellsUnit_control hcontrol)
        (by simp [Utf16.isHigh]; omega) (by simp [Utf16.isLow]; omega)
      rwa [Char.ofNat_toNat] at hchar
    case isFalse hcontrol => exact .plain ⟨hquote, hbackslash, Nat.not_lt.1 hcontrol⟩
  all_goals exact .short rfl

/-- The written form of a text stands for it. -/
theorem spells_encode (s : List Char) : Spells (encode s) s := by
  induction s with
  | nil => exact .nil
  | cons c s ih => exact .cons (spellsChar_encodeChar c) ih

end Quoted

end Json

end Caption
