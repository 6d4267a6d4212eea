import Caption.Json.Scan

/-!
# Spellings of numbers

A number is a whole part with an optional sign, an optional fraction and an optional exponent.
What stands behind it, be it a blank, a comma or a bracket, is no part of it. A whole number
without fraction and exponent is read with its value, as far as the range that is asked for
goes; any number is passed over, whatever its size.

## Main definitions

* `Json.Blanks`, `Json.Delimited`: what may stand before a value and behind it
* `Json.SpellsNumber`: the spellings of numbers
* `Json.SpellsWhole`: the spelling of a whole number

## Main statements

* `Json.SpellsNumber.skip`: numbers are passed over
* `Json.SpellsWhole.read`: whole numbers within a range are read
-/
namespace Caption

namespace Json

/-! ## Before and behind values -/

/-- Blanks between tokens. -/
def Blanks (b : List Char) : Prop := ∀ c ∈ b, isBlank c = true

/-- A text that may follow a value. -/
def Delimited (rest : List Char) : Prop :=
  ∀ c ∈ rest.head?, isBlank c = true ∨ c = ',' ∨ c = ']' ∨ c = '}'

theorem Blanks.skip {b : List Char} (h : Blanks b) (cs : List Char) :
    skipBlanks (b ++ cs) = skipBlanks cs :=
  List.dropWhile_append_of_pos h

theorem Blanks.skip_eq_nil {b : List Char} (h : Blanks b) : skipBlanks b = [] := by
  rw [← List.append_nil b, h.skip]
  rfl

theorem skipBlanks_cons {c : Char} (h : isBlank c = false) (cs : List Char) :
    skipBlanks (c :: cs) = c :: cs := by
  simp [skipBlanks, h]

theorem blanks_nil : Blanks [] := by
  intro c hc
  cases hc

theorem Blanks.append {b b' : List Char} (h : Blanks b) (h' : Blanks b') : Blanks (b ++ b') := by
  intro c hc
  rcases List.mem_append.1 hc with hc | hc
  · exact h c hc
  · exact h' c hc

theorem delimited_cons {c : Char} (h : isBlank c = true ∨ c = ',' ∨ c = ']' ∨ c = '}')
    (cs : List Char) : Delimited (c :: cs) := by
  simpa [Delimited] using h

theorem Blanks.delimited {b rest : List Char} (h : Blanks b) (hrest : Delimited rest) :
    Delimited (b ++ rest) := by
  cases b with
  | nil => exact hrest
  | cons c b => exact delimited_cons (.inl (h c List.mem_cons_self)) _

/-- Nothing that follows a value carries a number on. -/
theorem Delimited.ne {c : Char} {cs : List Char} (h : Delimited (c :: cs)) :
    c ≠ '.' ∧ c ≠ 'e' ∧ c ≠ 'E' := by
  have hc := h c rfl
  refine ⟨?_, ?_, ?_⟩ <;>
  · rintro rfl
    simp [isBlank] at hc

/-! ## Digits -/

structure Digits (ds : List Char) : Prop where
  ne_nil : ds ≠ []
  all : ∀ d ∈ ds, d.isDigit = true

/-- A text in front of which digits end. -/
def NoDigit (rest : List Char) : Prop := ∀ c ∈ rest.head?, c.isDigit = false

theorem noDigit_cons {c : Char} (h : c.isDigit = false) (cs : List Char) : NoDigit (c :: cs) := by
  simpa [NoDigit] using h

theorem ne_minus_of_isDigit {d : Char} (h : d.isDigit = true) : d ≠ '-' := by
  rintro rfl
  cases h

theorem isDigit_of_isBlank {c : Char} (h : isBlank c = true) : c.isDigit = false := by
  simp only [isBlank, Bool.or_eq_true, decide_eq_true_eq] at h
  rcases h with ((rfl | rfl) | rfl) | rfl <;> rfl

theorem Delimited.noDigit {rest : List Char} (h : Delimited rest) : NoDigit rest := by
  intro c hc
  rcases h c hc with hb | rfl | rfl | rfl
  · exact isDigit_of_isBlank hb
  all_goals rfl

theorem splitDigits_append {ds rest : List Char} (hds : ∀ d ∈ ds, d.isDigit = true)
    (hrest : NoDigit rest) : splitDigits (ds ++ rest) = (ds, rest) := by
  unfold splitDigits
  rw [List.takeWhile_append_of_pos hds, List.dropWhile_append_of_pos hds]
  cases rest with
  | nil => simp
  | cons c cs =>
    have hc : c.isDigit = false := hrest c rfl
    simp [hc]

/-! ## Any number -/

/-- Digits without a zero in front of others. -/
inductive WholePart : List Char → Prop where
  | zero : WholePart ['0']
  | digits {d : Char} {ds : List Char} (hd : d.isDigit = true) (hne : d ≠ '0')
      (hds : ∀ d ∈ ds, d.isDigit = true) : WholePart (d :: ds)

inductive Fraction : List Char → Prop where
  | none : Fraction []
  | digits {ds : List Char} (h : Digits ds) : Fraction ('.' :: ds)

inductive Exponent : List Char → Prop where
  | none : Exponent []
  | digits {e : Char} {sign ds : List Char} (he : e = 'e' ∨ e = 'E')
      (hsign : sign = [] ∨ sign = ['+'] ∨ sign = ['-']) (h : Digits ds) :
      Exponent (e :: sign ++ ds)

inductive SpellsNumber : List Char → Prop where
  | parts {sign whole fraction exponent : List Char} (hsign : sign = [] ∨ sign = ['-'])
      (hwhole : WholePart whole) (hfraction : Fraction fraction)
      (hexponent : Exponent exponent) : SpellsNumber (sign ++ whole ++ fraction ++ exponent)

theorem WholePart.exists_cons {t : List Char} (h : WholePart t) :
    ∃ d ds, t = d :: ds ∧ d.isDigit = true := by
  cases h with
  | zero => exact ⟨'0', [], rfl, rfl⟩
  | @digits d ds hd _ _ => exact ⟨d, ds, rfl, hd⟩

theorem Exponent.noDigit {e rest : List Char} (h : Exponent e) (hrest : NoDigit rest) :
    NoDigit (e ++ rest) := by
  cases h with
  | none => exact hrest
  | digits he _ _ => rcases he with rfl | rfl <;> exact noDigit_cons rfl _

theorem Fraction.noDigit {f rest : List Char} (h : Fraction f) (hrest : NoDigit rest) :
    NoDigit (f ++ rest) := by
  cases h with
  | none => exact hrest
  | digits _ => exact noDigit_cons rfl _

theorem splitSign_append {sign ds : List Char} (hsign : sign = [] ∨ sign = ['+'] ∨ sign = ['-'])
    (h : Digits ds) (rest : List Char) : (splitSign (sign ++ ds ++ rest)).2 = ds ++ rest := by
  rcases hsign with rfl | rfl | rfl
  · obtain ⟨d, ds, rfl⟩ := List.exists_cons_of_ne_nil h.ne_nil
    have hd := h.all d List.mem_cons_self
    have hplus : d ≠ '+' := by
      rintro rfl
      cases hd
    simp [splitSign, hplus, ne_minus_of_isDigit hd]
  all_goals rfl

theorem Exponent.skip {e rest : List Char} (h : Exponent e) (hrest : Delimited rest) :
    skipReal (e ++ rest) = .ok rest := by
  cases h with
  | none =>
    cases rest with
    | nil => rfl
    | cons c cs =>
      obtain ⟨-, he, hE⟩ := hrest.ne
      simp [skipReal, he, hE]
  | @digits e sign ds he hsign hds =>
    have hexponent : skipExponent (sign ++ ds ++ rest) = .ok rest := by
      rw [skipExponent, splitSign_append hsign hds, splitDigits_append hds.all hrest.noDigit]
      obtain ⟨d, ds, rfl⟩ := List.exists_cons_of_ne_nil hds.ne_nil
      rfl
    rcases he with rfl | rfl <;> exact hexponent

theorem Fraction.skip {f e rest : List Char} (h : Fraction f) (he : Exponent e)
    (hrest : Delimited rest) : skipFraction (f ++ (e ++ rest)) = .ok rest := by
  cases h with
  | none =>
    have hreal := he.skip hrest
    cases hcs : e ++ rest with
    | nil => rwa [hcs] at hreal
    | cons c cs =>
      have hpoint : c ≠ '.' := by
        rintro rfl
        cases he with
        | none =>
          obtain rfl : rest = '.' :: cs := hcs
          exact hrest.ne.1 rfl
        | digits he _ _ => rcases he with rfl | rfl <;> simp at hcs
      rw [hcs] at hreal
      simpa [skipFraction, hpoint] using hreal
  | @digits ds hds =>
    have hsplit := splitDigits_append hds.all (he.noDigit hrest.noDigit)
    obtain ⟨d, ds, rfl⟩ := List.exists_cons_of_ne_nil hds.ne_nil
    have hreal := he.skip hrest
    simp only [List.cons_append] at hsplit ⊢
    simpa [skipFraction, hsplit] using hreal

theorem skipUnsigned_append {w f e rest : List Char} (hw : WholePart w) (hf : Fraction f)
    (he : Exponent e) (hrest : Delimited rest) :
    skipUnsigned (w ++ (f ++ (e ++ rest))) = .ok rest := by
  have hnone := hf.noDigit (he.noDigit hrest.noDigit)
  have hfraction := hf.skip he hrest
  cases hw with
  | zero =>
    cases hcs : f ++ (e ++ rest) with
    | nil => rwa [hcs] at hfraction
    | cons c cs =>
      rw [hcs] at hnone hfraction
      have hc : c.isDigit = false := hnone c rfl
      simpa [skipUnsigned, hc] using hfraction
  | @digits d ds hd hne hds =>
    have hsplit := splitDigits_append hds hnone
    simpa [skipUnsigned, hne, hd, hsplit] using hfraction

/-- A number starts with its sign or with a digit. -/
theorem SpellsNumber.exists_cons {t : List Char} (h : SpellsNumber t) :
    ∃ c cs, t = c :: cs ∧ startsNumber c = true := by
  obtain ⟨hsign, hwhole, -, -⟩ := h
  rcases hsign with rfl | rfl
  · obtain ⟨d, ds, rfl, hd⟩ := hwhole.exists_cons
    exact ⟨d, _, rfl, by simp [startsNumber, hd]⟩
  · exact ⟨'-', _, rfl, rfl⟩

/-- Every number is passed over. -/
theorem SpellsNumber.skip {t rest : List Char} (h : SpellsNumber t) (hrest : Delimited rest) :
    skipNumber (t ++ rest) = .ok rest := by
  obtain ⟨hsign, hwhole, hfraction, hexponent⟩ := h
  have hskip := skipUnsigned_append hwhole hfraction hexponent hrest
  rcases hsign with rfl | rfl
  · obtain ⟨d, ds, rfl, hd⟩ := hwhole.exists_cons
    simpa [skipNumber, ne_minus_of_isDigit hd] using hskip
  · simpa [skipNumber] using hskip

/-! ## Whole numbers -/

/-- The spelling of a whole number. Only numbers below zero have a sign. -/
inductive SpellsWhole : List Char → Int → Prop where
  | nonneg {t : List Char} (h : WholePart t) : SpellsWhole t (Nat.ofDigitChars 10 t 0)
  | neg {t : List Char} (h : WholePart t) (hne : t ≠ ['0']) :
      SpellsWhole ('-' :: t) (-Nat.ofDigitChars 10 t 0)

theorem le_ofDigitChars (v : Nat) (ds : List Char) : v ≤ Nat.ofDigitChars 10 ds v := by
  induction ds generalizing v with
  | nil => exact Nat.le_refl v
  | cons d ds ih =>
    rw [Nat.ofDigitChars_cons]
    exact Nat.le_trans (by omega) (ih _)

/-- Only a zero that stands alone is worth nothing. -/
theorem WholePart.ofDigitChars_pos {t : List Char} (h : WholePart t) (hne : t ≠ ['0']) :
    0 < Nat.ofDigitChars 10 t 0 := by
  cases h with
  | zero => exact absurd rfl hne
  | @digits d ds hd hzero _ =>
    have hdigit : '0'.toNat ≤ d.toNat := by
      simp only [Char.isDigit, Bool.and_eq_true, decide_eq_true_eq] at hd
      exact hd.1
    have hd : d.toNat ≠ '0'.toNat := fun heq => hzero (Char.toNat_inj.1 heq)
    have hle := le_ofDigitChars (10 * 0 + (d.toNat - '0'.toNat)) ds
    rw [Nat.ofDigitChars_cons]
    omega

theorem appendDigits_eq {ds : List Char} {v : Nat}
    (h : Nat.ofDigitChars 10 ds v < 0x10000000000000000) :
    Number.appendDigits v ds = (Nat.ofDigitChars 10 ds v, 0) := by
  induction ds generalizing v with
  | nil => rfl
  | cons d ds ih =>
    rw [Nat.ofDigitChars_cons, Nat.mul_comm] at h
    have hnext := Nat.lt_of_le_of_lt (le_ofDigitChars _ ds) h
    rw [Number.appendDigits, Nat.ofDigitChars_cons, Nat.mul_comm 10]
    simp only [hnext, if_true]
    exact ih h

theorem scanFraction_none (negative : Bool) (v : Nat) {rest : List Char} (hrest : Delimited rest) :
    scanFraction negative v 0 rest = .ok (Number.ofSignificand negative v, rest) := by
  cases rest with
  | nil => rfl
  | cons c cs =>
    obtain ⟨hpoint, he, hE⟩ := hrest.ne
    simp [scanFraction, hpoint, he, hE]

theorem scanUnsigned_whole (negative : Bool) {t rest : List Char} (h : WholePart t)
    (hsize : Nat.ofDigitChars 10 t 0 < 0x10000000000000000) (hrest : Delimited rest) :
    scanUnsigned negative (t ++ rest) =
      .ok (Number.ofSignificand negative (Nat.ofDigitChars 10 t 0), rest) := by
  have hnone := scanFraction_none negative (Nat.ofDigitChars 10 t 0) hrest
  cases h with
  | zero =>
    have hzero : Nat.ofDigitChars 10 ['0'] 0 = 0 := rfl
    rw [hzero] at hnone ⊢
    cases rest with
    | nil => exact hnone
    | cons c cs =>
      have hc : c.isDigit = false := hrest.noDigit c rfl
      simpa [scanUnsigned, hc] using hnone
  | @digits d ds hd hne hds =>
    have hall : ∀ c ∈ d :: ds, c.isDigit = true := List.forall_mem_cons.2 ⟨hd, hds⟩
    have hsplit := splitDigits_append hall hrest.noDigit
    rw [List.cons_append] at hsplit ⊢
    simpa [scanUnsigned, hne, hd, hsplit, appendDigits_eq hsize] using hnone

theorem SpellsWhole.exists_cons {t : List Char} {n : Int} (h : SpellsWhole t n) :
    ∃ c cs, t = c :: cs ∧ startsNumber c = true ∧ isBlank c = false := by
  have hdigit {c : Char} (hc : c.isDigit = true) : isBlank c = false := by
    cases hb : isBlank c with
    | false => rfl
    | true => simp [isDigit_of_isBlank hb] at hc
  cases h with
  | nonneg h =>
    obtain ⟨d, ds, rfl, hd⟩ := h.exists_cons
    exact ⟨d, ds, rfl, by simp [startsNumber, hd], hdigit hd⟩
  | neg _ _ => exact ⟨'-', _, rfl, rfl, rfl⟩

theorem SpellsWhole.scan {t rest : List Char} {n : Int} (h : SpellsWhole t n)
    (hlow : -0x8000000000000000 ≤ n) (hhigh : n < 0x10000000000000000) (hrest : Delimited rest) :
    scanNumber (t ++ rest) = .ok (.whole n, rest) := by
  cases h with
  | nonneg h =>
    have hscan := scanUnsigned_whole false h (by omega) hrest
    obtain ⟨d, ds, rfl, hd⟩ := h.exists_cons
    simpa [scanNumber, ne_minus_of_isDigit hd, Number.ofSignificand] using hscan
  | @neg t h hne =>
    have hpos := h.ofDigitChars_pos hne
    have hscan := scanUnsigned_whole true h (by omega) hrest
    have hzero : Nat.ofDigitChars 10 t 0 ≠ 0 := Nat.ne_of_gt hpos
    have hlow : ¬ 0x8000000000000000 < Nat.ofDigitChars 10 t 0 := by omega
    simpa [scanNumber, Number.ofSignificand, hzero, hlow] using hscan

/-- A whole number is read wherever the range that is asked for, of at most 64 bits, has it. -/
theorem SpellsWhole.read {b t rest : List Char} {n : Int} (h : SpellsWhole t n)
    (expected : String) (low high : Int) (hlow : -0x8000000000000000 ≤ low)
    (hhigh : high < 0x10000000000000000) (hn : low ≤ n ∧ n ≤ high) (hb : Blanks b)
    (hrest : Delimited rest) :
    readWhole expected low high (b ++ (t ++ rest)) = .ok (n, rest) := by
  have hscan := h.scan (by omega) (by omega) hrest
  obtain ⟨c, cs, rfl, hstart, hblank⟩ := h.exists_cons
  rw [List.cons_append] at hscan
  simp [readWhole, hb.skip, skipBlanks_cons hblank, hstart, hscan, hn, bind, Except.bind]

theorem wholePart_toDigits (n : Nat) : WholePart (Nat.toDigits 10 n) := by
  have hdigits (k : Nat) : ∀ d ∈ Nat.toDigits 10 k, d.isDigit = true := fun d hd =>
    Nat.isDigit_of_mem_toDigits (by decide) (by decide) hd
  induction n using Nat.strongRecOn with
  | ind n ih =>
    by_cases hn : n < 10
    · have hall : ∀ k : Fin 10, k.val = 0 ∨ Nat.digitChar k ≠ '0' := by decide
      rw [Nat.toDigits_of_lt_base hn]
      rcases hall ⟨n, hn⟩ with rfl | hne
      · exact .zero
      · have hd := hdigits n _ (by rw [Nat.toDigits_of_lt_base hn]; exact List.mem_singleton_self _)
        exact .digits hd hne (by simp)
    · have hsplit := Nat.toDigits_of_base_le (b := 10) (by decide) (Nat.not_lt.1 hn)
      have hlast := hdigits n
      have hpos : Nat.toDigits 10 (n / 10) ≠ ['0'] := by
        intro hzero
        have hvalue := congrArg (Nat.ofDigitChars 10 · 0) hzero
        simp only [Nat.ofDigitChars_ten_toDigits] at hvalue
        have : n / 10 = 0 := hvalue
        omega
      have hfront := ih (n / 10) (by omega)
      rw [hsplit] at hlast ⊢
      -- The digits in front are those of a smaller number other than zero.
      cases hfront' : Nat.toDigits 10 (n / 10) with
      | nil => exact absurd hfront' Nat.toDigits_ne_nil
      | cons d ds =>
        rw [hfront'] at hfront hpos hlast
        cases hfront with
        | zero => exact absurd rfl hpos
        | digits hd hne _ =>
          exact .digits hd hne fun c hc => hlast c (List.mem_cons_of_mem d hc)

end Json

end Caption
