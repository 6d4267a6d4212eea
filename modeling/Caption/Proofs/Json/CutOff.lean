import Caption.Proofs.Json.Object

/-!
# Texts that are cut off

A text that is cut short before its end is refused because it ends too early, wherever it is cut: in
a key, in an escape, in a word, between tokens or within an object in an object. Only the digits of
a number may be a number again when some are missing. It is read, and then the end of its object is
missed.

## Main definitions

* `Json.CutFrom`: a text without some characters at its end
* `Json.CutOff`: reading failed because the text ends too early
* `Json.Breaks`: a value that is missed when its text is cut short
* `Json.Form.Breaks`: members that are fields with such values

## Main statements

* `Json.Quoted.Spells.cutOff`: strings that are cut short
* `Json.SpellsWhole.breaks`: whole numbers that are cut short
* `Json.Form.SpellsObject.cutOff`: objects that are cut short
-/
namespace Caption

namespace Json

/-! ## Cutting -/

/-- The text `t` without some characters at its end. -/
structure CutFrom (p t : List Char) : Prop where
  isPrefix : p <+: t
  ne : p ≠ t

theorem not_cutFrom_nil (p : List Char) : ¬CutFrom p [] :=
  fun h => h.ne (List.prefix_nil.1 h.isPrefix)

theorem cutFrom_cons_iff {p t : List Char} {c : Char} :
    CutFrom p (c :: t) ↔ p = [] ∨ ∃ q, p = c :: q ∧ CutFrom q t := by
  constructor
  · rintro ⟨hfront, hne⟩
    rcases List.prefix_cons_iff.1 hfront with rfl | ⟨q, rfl, hq⟩
    · exact .inl rfl
    · exact .inr ⟨q, rfl, hq, fun h => hne (congrArg (c :: ·) h)⟩
  · rintro (rfl | ⟨q, rfl, hq, hne⟩)
    · exact ⟨List.nil_prefix, (List.cons_ne_nil c t).symm⟩
    · exact ⟨List.cons_prefix_cons.2 ⟨rfl, hq⟩, fun h => hne (List.cons.inj h).2⟩

/-- The cut is in the first part or in the second. -/
theorem cutFrom_append_iff {p s t : List Char} :
    CutFrom p (s ++ t) ↔ CutFrom p s ∨ ∃ q, p = s ++ q ∧ CutFrom q t := by
  induction s generalizing p with
  | nil => simp [not_cutFrom_nil]
  | cons c s ih =>
    rw [List.cons_append, cutFrom_cons_iff, cutFrom_cons_iff]
    constructor
    · rintro (rfl | ⟨q, rfl, hq⟩)
      · exact .inl (.inl rfl)
      · rcases ih.1 hq with hq | ⟨u, rfl, hu⟩
        · exact .inl (.inr ⟨q, rfl, hq⟩)
        · exact .inr ⟨u, rfl, hu⟩
    · rintro ((rfl | ⟨q, rfl, hq⟩) | ⟨q, rfl, hq⟩)
      · exact .inl rfl
      · exact .inr ⟨q, rfl, ih.2 (.inl hq)⟩
      · exact .inr ⟨s ++ q, rfl, ih.2 (.inr ⟨q, rfl, hq⟩)⟩

theorem cutFrom_singleton_iff {p : List Char} {c : Char} : CutFrom p [c] ↔ p = [] := by
  simp [cutFrom_cons_iff, not_cutFrom_nil]

theorem Blanks.delimited_self {b : List Char} (h : Blanks b) : Delimited b := by
  have hnil : Delimited [] := by
    intro c hc
    cases hc
  rw [← List.append_nil b]
  exact h.delimited hnil

theorem Blanks.cutFrom {b q : List Char} (h : Blanks b) (hq : CutFrom q b) : Blanks q :=
  fun c hc => h c (hq.isPrefix.subset hc)

/-- Reading failed because the text ends too early. -/
def CutOff {β : Type} (r : Except Error β) : Prop :=
  ∃ e, r = .error e ∧ e.category = .cutOff

namespace CutOff

variable {β γ : Type} {r : Except Error β}

theorem bind (h : CutOff r) (f : β → Except Error γ) : CutOff (r >>= f) := by
  obtain ⟨e, rfl, he⟩ := h
  exact ⟨e, rfl, he⟩

theorem map (h : CutOff r) (f : β → γ) : CutOff (r.map f) := by
  obtain ⟨e, rfl, he⟩ := h
  exact ⟨e, rfl, he⟩

end CutOff

/-! ## Strings -/

namespace Quoted

theorem utf8Size_of_hexDigit? {c : Char} {n : Nat} (h : hexDigit? c = some n) : c.utf8Size = 1 := by
  have hle : c.toNat ≤ 0x7F := by
    have hchar {d : Char} (h : c ≤ d) : c.toNat ≤ d.toNat := h
    unfold hexDigit? at h
    split at h
    next hd => exact Nat.le_trans (hchar (by simpa using hd : '0' ≤ c ∧ c ≤ '9').2) (by decide)
    next =>
      split at h
      next hd => exact Nat.le_trans (hchar (by simpa using hd : 'a' ≤ c ∧ c ≤ 'f').2) (by decide)
      next =>
        split at h
        next hd => exact Nat.le_trans (hchar (by simpa using hd : 'A' ≤ c ∧ c ≤ 'F').2) (by decide)
        next => cases h
  exact Char.utf8Size_eq_one_iff.2 (UInt32.le_iff_toNat_le.2 hle)

/-- Fewer than four digits take fewer than four bytes. -/
theorem SpellsUnit.cutOff {t p : List Char} {n : Nat} (h : SpellsUnit t n) (hp : CutFrom p t) :
    CutOff (scanHex p) := by
  obtain @⟨a, b, c, d, w, x, y, z, ha, hb, hc, hd⟩ := h
  refine ⟨.unclosedText, ?_, rfl⟩
  simp only [cutFrom_cons_iff, not_cutFrom_nil, and_false, exists_false, or_false] at hp
  rcases hp with rfl | ⟨_, rfl, rfl | ⟨_, rfl, rfl | ⟨_, rfl, rfl⟩⟩⟩ <;>
    simp [scanHex, utf8Size_of_hexDigit? ha, utf8Size_of_hexDigit? hb, utf8Size_of_hexDigit? hc]

theorem cutOff_nil (fuel : Nat) (read : List Char) : CutOff (scanTextWith fuel read []) := by
  cases fuel <;> exact ⟨_, rfl, rfl⟩

theorem cutOff_backslash {q : List Char} (h : CutOff (scanEscape q)) (fuel : Nat)
    (read : List Char) : CutOff (scanTextWith fuel read ('\\' :: q)) := by
  cases fuel with
  | zero => exact ⟨_, rfl, rfl⟩
  | succ fuel => exact h.bind _

theorem cutOff_scanEscape_nil : CutOff (scanEscape []) := ⟨_, rfl, rfl⟩

theorem SpellsUnit.cutOff_scanEscape {t p : List Char} {n : Nat} (h : SpellsUnit t n)
    (hp : CutFrom p t) : CutOff (scanEscape ('u' :: p)) := (h.cutOff hp).bind _

/-- The second half of a pair may be cut as well. -/
theorem SpellsUnit.cutOff_scanTrail {u p : List Char} {low : Nat} (h : SpellsUnit u low)
    (hp : CutFrom p ('\\' :: 'u' :: u)) (high : Nat) : CutOff (scanTrail high p) := by
  rcases cutFrom_cons_iff.1 hp with rfl | ⟨q, rfl, hq⟩
  · exact ⟨_, rfl, rfl⟩
  · rcases cutFrom_cons_iff.1 hq with rfl | ⟨ds, rfl, hds⟩
    · exact ⟨_, rfl, rfl⟩
    · exact (h.cutOff hds).bind _

theorem cutOff_scanEscape_pair {t u p : List Char} {high low : Nat} (ht : SpellsUnit t high)
    (hu : SpellsUnit u low) (hhigh : Utf16.isHigh high = true)
    (hp : CutFrom p (t ++ '\\' :: 'u' :: u)) : CutOff (scanEscape ('u' :: p)) := by
  rcases cutFrom_append_iff.1 hp with hp | ⟨q, rfl, hq⟩
  · exact ht.cutOff_scanEscape hp
  · have hlow : Utf16.isLow high = false := by
      simp only [Utf16.isHigh, Utf16.isLow, Bool.and_eq_true, Bool.and_eq_false_iff,
        decide_eq_true_eq, decide_eq_false_iff_not] at hhigh ⊢
      omega
    have hescape : scanEscape ('u' :: (t ++ q)) = scanTrail high q := by
      simp [scanEscape, ht.scan, bind, Except.bind, hhigh, hlow]
    rw [hescape]
    exact hu.cutOff_scanTrail hq high

theorem SpellsChar.cutOff {t p : List Char} {c : Char} (h : SpellsChar t c) (hp : CutFrom p t)
    (fuel : Nat) (read : List Char) : CutOff (scanTextWith fuel read p) := by
  -- all spellings but that of a character by itself start with a backslash
  have hescaped {t : List Char} (hp : CutFrom p ('\\' :: t))
      (hcut : ∀ q, CutFrom q t → CutOff (scanEscape q)) : CutOff (scanTextWith fuel read p) := by
    rcases cutFrom_cons_iff.1 hp with rfl | ⟨q, rfl, hq⟩
    · exact cutOff_nil fuel read
    · exact cutOff_backslash (hcut q hq) fuel read
  cases h with
  | plain =>
    obtain rfl := cutFrom_singleton_iff.1 hp
    exact cutOff_nil fuel read
  | short =>
    refine hescaped hp fun q hq => ?_
    obtain rfl := cutFrom_singleton_iff.1 hq
    exact cutOff_scanEscape_nil
  | unit h =>
    refine hescaped hp fun q hq => ?_
    rcases cutFrom_cons_iff.1 hq with rfl | ⟨ds, rfl, hds⟩
    · exact cutOff_scanEscape_nil
    · exact h.cutOff_scanEscape hds
  | pair ht hu hhigh =>
    refine hescaped hp fun q hq => ?_
    rcases cutFrom_cons_iff.1 hq with rfl | ⟨ds, rfl, hds⟩
    · exact cutOff_scanEscape_nil
    · exact cutOff_scanEscape_pair ht hu hhigh hds

theorem Spells.cutOffWith {t s p : List Char} (h : Spells t s) (hp : CutFrom p (t ++ ['"']))
    (fuel : Nat) (read : List Char) : CutOff (scanTextWith fuel read p) := by
  induction h generalizing p fuel read with
  | nil =>
    obtain rfl := cutFrom_singleton_iff.1 hp
    exact cutOff_nil fuel read
  | @cons t ts s c hc _ ih =>
    rw [List.append_assoc] at hp
    rcases cutFrom_append_iff.1 hp with hp | ⟨q, rfl, hq⟩
    · exact hc.cutOff hp fuel read
    · cases fuel with
      | zero => exact ⟨_, rfl, rfl⟩
      | succ fuel =>
        rw [hc.step]
        exact ih hq fuel (c :: read)

/-- A string that is cut before its closing quote is missed. -/
theorem Spells.cutOff {t s p : List Char} (h : Spells t s) (hp : CutFrom p (t ++ ['"'])) :
    CutOff (scanText p) := h.cutOffWith hp _ _

end Quoted

/-! ## Values -/

/-- A value that is missed when its text is cut short: reading what is left, behind blanks, finds
the end of the text too early or finds nothing behind what it reads. -/
structure Breaks {β : Type} (read : List Char → Except Error (β × List Char)) (t : List Char) :
    Prop where
  ne_nil : t ≠ []
  cut : ∀ {b p : List Char}, Blanks b → CutFrom p t →
    CutOff (read (b ++ p)) ∨ ∃ y, read (b ++ p) = .ok (y, [])

section Values

variable {β γ : Type} {read : List Char → Except Error (β × List Char)} {t : List Char}

theorem Breaks.map (h : Breaks read t) (f : β → γ) :
    Breaks (fun cs => (read cs).map fun r => (f r.1, r.2)) t where
  ne_nil := h.ne_nil
  cut hb hp := by
    rcases h.cut hb hp with hcut | ⟨y, hy⟩
    · exact .inl (hcut.map _)
    · exact .inr ⟨f y, by rw [hy]; rfl⟩

/-- A value that starts with a token of its own needs only be cut behind it. -/
theorem breaks_cons {c : Char} (hnil : ∀ b, Blanks b → CutOff (read b))
    (hcons : ∀ b q, Blanks b → CutFrom q t → CutOff (read (b ++ c :: q))) :
    Breaks read (c :: t) where
  ne_nil := List.cons_ne_nil c t
  cut {b p} hb hp := by
    rcases cutFrom_cons_iff.1 hp with rfl | ⟨q, rfl, hq⟩
    · rw [List.append_nil]
      exact .inl (hnil b hb)
    · exact .inl (hcons b q hb hq)

theorem breaks_readText {s : List Char} (h : Quoted.Spells t s) :
    Breaks readText ('"' :: t ++ ['"']) := by
  refine breaks_cons (fun b hb => ⟨.missingValue, ?_, rfl⟩) fun b q hb hq => ?_
  · rw [readText, hb.skip_eq_nil]
    rfl
  · have hquote : skipBlanks ('"' :: q) = '"' :: q := skipBlanks_cons rfl q
    rw [readText, hb.skip, hquote]
    exact (h.cutOff hq).map _

theorem scanLiteral_cutFrom {word p : List Char} (h : CutFrom p word) :
    scanLiteral word p = .error .missingValue := by
  induction word generalizing p with
  | nil => exact absurd h (not_cutFrom_nil p)
  | cons c word ih =>
    rcases cutFrom_cons_iff.1 h with rfl | ⟨q, rfl, hq⟩
    · rfl
    · rw [scanLiteral, if_pos rfl, ih hq]

theorem cutOff_readFlag_blanks {b : List Char} (hb : Blanks b) : CutOff (readFlag b) := by
  refine ⟨.missingValue, ?_, rfl⟩
  rw [readFlag, hb.skip_eq_nil]
  rfl

theorem breaks_readFlag_true : Breaks readFlag ['t', 'r', 'u', 'e'] := by
  refine breaks_cons (fun b hb => cutOff_readFlag_blanks hb) fun b q hb hq =>
    ⟨.missingValue, ?_, rfl⟩
  have hletter : skipBlanks ('t' :: q) = 't' :: q := skipBlanks_cons rfl q
  simp only [readFlag, hb.skip, hletter, scanLiteral_cutFrom hq]
  rfl

theorem breaks_readFlag_false : Breaks readFlag ['f', 'a', 'l', 's', 'e'] := by
  refine breaks_cons (fun b hb => cutOff_readFlag_blanks hb) fun b q hb hq =>
    ⟨.missingValue, ?_, rfl⟩
  have hletter : skipBlanks ('f' :: q) = 'f' :: q := skipBlanks_cons rfl q
  simp only [readFlag, hb.skip, hletter, scanLiteral_cutFrom hq]
  rfl

/-- Digits of which some are missing are digits of a number that is no larger. -/
theorem WholePart.cutFrom {p : List Char} (h : WholePart t) (hp : CutFrom p t) (hne : p ≠ []) :
    WholePart p ∧ p ≠ ['0'] ∧ Nat.ofDigitChars 10 p 0 ≤ Nat.ofDigitChars 10 t 0 := by
  cases h with
  | zero => exact absurd (cutFrom_singleton_iff.1 hp) hne
  | @digits d ds hd hzero hds =>
    obtain ⟨q, rfl, hq⟩ := (cutFrom_cons_iff.1 hp).resolve_left hne
    obtain ⟨rest, rfl⟩ := hq.isPrefix
    refine ⟨.digits hd hzero fun c hc => hds c (List.mem_append_left _ hc), ?_, ?_⟩
    · simp [hzero]
    · rw [← List.cons_append, Nat.ofDigitChars_append]
      exact le_ofDigitChars _ rest

/-- A whole number of which digits are missing is a whole number between zero and it. -/
theorem SpellsWhole.cutFrom {p : List Char} {n : Int} (h : SpellsWhole t n) (hp : CutFrom p t)
    (hne : p ≠ []) : p = ['-'] ∨ ∃ m, SpellsWhole p m ∧ min 0 n ≤ m ∧ m ≤ max 0 n := by
  cases h with
  | nonneg h =>
    obtain ⟨hwhole, -, hle⟩ := h.cutFrom hp hne
    exact .inr ⟨_, .nonneg hwhole, by omega, by omega⟩
  | @neg t h _ =>
    obtain ⟨q, rfl, hq⟩ := (cutFrom_cons_iff.1 hp).resolve_left hne
    by_cases hnil : q = []
    · exact .inl (by rw [hnil])
    · obtain ⟨hwhole, hzero, hle⟩ := h.cutFrom hq hnil
      exact .inr ⟨_, .neg hwhole hzero, by omega, by omega⟩

theorem SpellsWhole.breaks {n : Int} (h : SpellsWhole t n) (expected : String) {low high : Int}
    (hlow : -0x8000000000000000 ≤ low) (hhigh : high < 0x10000000000000000)
    (hzero : low ≤ 0 ∧ 0 ≤ high) (hn : low ≤ n ∧ n ≤ high) :
    Breaks (readWhole expected low high) t where
  ne_nil := by
    obtain ⟨c, cs, rfl, -⟩ := h.exists_cons
    exact List.cons_ne_nil c cs
  cut {b p} hb hp := by
    by_cases hne : p = []
    · rw [hne, List.append_nil]
      refine .inl ⟨.missingValue, ?_, rfl⟩
      rw [readWhole, hb.skip_eq_nil]
    · rcases h.cutFrom hp hne with rfl | ⟨m, hm, hmin, hmax⟩
      · refine .inl ⟨.missingValue, ?_, rfl⟩
        rw [readWhole, hb.skip]
        rfl
      · have hread := hm.read expected low high hlow hhigh (by omega) hb blanks_nil.delimited_self
        rw [List.append_nil] at hread
        exact .inr ⟨m, hread⟩

end Values

/-! ## Objects -/

namespace Form

variable {φ ρ : Type} {r : Record φ ρ} (F : Form r)

/-- A value of which every text is missed when it is cut short. -/
def BreaksAt (f : φ) (v : F.Value f) : Prop :=
  ∀ t, F.Spells f v t → ∀ x, Json.Breaks (r.readField f x) t

/-- Members that are fields with such values. -/
def Breaks (ms : List (Member F.Value)) : Prop :=
  ∀ m ∈ ms, ∃ f v, m = .field f v ∧ F.BreaksAt f v

variable {F} [DecidableEq φ]

section Members

variable {b b₁ b₂ b₃ t p : List Char} (fuel : Nat) (first : Bool) {given : List φ} (x : ρ)

theorem cutOff_readMembers_blanks (hb : Blanks b) (given : List φ) :
    CutOff (r.readMembers fuel first given x b) := by
  cases fuel with
  | zero => exact ⟨_, rfl, rfl⟩
  | succ fuel =>
    refine ⟨.unclosedObject, ?_, rfl⟩
    rw [Record.readMembers, hb.skip_eq_nil]

/-- A comma asks for another member. -/
theorem cutOff_readMembers_lead (hb : Blanks b) (given : List φ) :
    CutOff (r.readMembers fuel first given x (lead first ++ b)) := by
  cases first with
  | true => exact cutOff_readMembers_blanks fuel true x hb given
  | false =>
    cases fuel with
    | zero => exact ⟨_, rfl, rfl⟩
    | succ fuel =>
      have hfront : skipBlanks (lead false ++ b) = ',' :: b := skipBlanks_cons rfl b
      have hopen : Record.openKey false (',' :: b) = .error .missingValue := by
        simp [Record.openKey, hb.skip_eq_nil]
      refine ⟨.missingValue, ?_, rfl⟩
      rw [Record.readMembers, hfront]
      change (Record.openKey false (',' :: b)).bind _ = _
      rw [hopen]
      rfl

variable {f : φ} {v : F.Value f} (hbreaks : F.BreaksAt f v) (hagain : F.again? f v = none)
  (ht : F.Spells f v t) (hb₂ : Blanks b₂) (hb₃ : Blanks b₃)

include hbreaks hagain ht hb₂ hb₃

/-- A member that is cut behind its colon. -/
theorem cutOff_readMembers_value (hp : CutFrom p (b₂ ++ (t ++ b₃))) (given : List φ) :
    CutOff (do
      let (x, rest) ← r.readField f x p
      r.readMembers fuel false given x rest) := by
  have hvalue := hbreaks t ht x
  have hmissed {p : List Char}
      (h : CutOff (r.readField f x p) ∨ ∃ y, r.readField f x p = .ok (y, [])) :
      CutOff (do
        let (x, rest) ← r.readField f x p
        r.readMembers fuel false given x rest) := by
    rcases h with h | ⟨y, hy⟩
    · exact h.bind _
    · rw [hy]
      exact cutOff_readMembers_blanks fuel false y blanks_nil given
  rcases cutFrom_append_iff.1 hp with hp | ⟨q, rfl, hq⟩
  · have hnil : CutFrom [] t := ⟨List.nil_prefix, hvalue.ne_nil.symm⟩
    have hcut := hvalue.cut (hb₂.cutFrom hp) hnil
    rw [List.append_nil] at hcut
    exact hmissed hcut
  · rcases cutFrom_append_iff.1 hq with hq | ⟨u, rfl, hu⟩
    · exact hmissed (hvalue.cut hb₂ hq)
    · have hu : Blanks u := hb₃.cutFrom hu
      rw [F.readField_eq ht hb₂ hu.delimited_self x, hagain]
      exact cutOff_readMembers_blanks fuel false _ hu given

/-- A member that is cut behind its key. -/
theorem cutOff_readMembers_colon (hb₁ : Blanks b₁)
    (hp : CutFrom p (b₁ ++ ':' :: (b₂ ++ (t ++ b₃)))) (given : List φ) :
    CutOff (do
      let rest ← skipColon p
      let (x, rest) ← r.readField f x rest
      r.readMembers fuel false given x rest) := by
  have hblank {q : List Char} (hq : Blanks q) : CutOff (skipColon q) := by
    refine ⟨.unclosedObject, ?_, rfl⟩
    rw [skipColon, hq.skip_eq_nil]
  rcases cutFrom_append_iff.1 hp with hp | ⟨q, rfl, hq⟩
  · exact (hblank (hb₁.cutFrom hp)).bind _
  · rcases cutFrom_cons_iff.1 hq with rfl | ⟨u, rfl, hu⟩
    · rw [List.append_nil]
      exact (hblank hb₁).bind _
    · rw [skipColon_blanks hb₁]
      exact cutOff_readMembers_value fuel x hbreaks hagain ht hb₂ hb₃ hu given

end Members

/-- A member of a field that was not given before is missed wherever it is cut. -/
theorem SpellsMember.cutOff {f : φ} {v : F.Value f} {t p : List Char}
    (h : F.SpellsMember (.field f v) t) (hbreaks : F.BreaksAt f v)
    (hagain : F.again? f v = none) {given : List φ} (hf : f ∉ given) (fuel : Nat) (first : Bool)
    (x : ρ) (hp : CutFrom p (lead first ++ t)) : CutOff (r.readMembers fuel first given x p) := by
  obtain @⟨f, v, b, k, b₁, b₂, t, b₃, hb, hk, hb₁, hb₂, ht, hb₃⟩ := h
  have htext : b ++ '"' :: k ++ '"' :: b₁ ++ ':' :: b₂ ++ t ++ b₃ =
      b ++ '"' :: (k ++ ['"'] ++ (b₁ ++ ':' :: (b₂ ++ (t ++ b₃)))) := by simp
  rw [htext] at hp
  rcases cutFrom_append_iff.1 hp with hp | ⟨q, rfl, hq⟩
  · have hnil : p = [] := by
      cases first with
      | true => exact absurd hp (not_cutFrom_nil p)
      | false => exact cutFrom_singleton_iff.1 hp
    rw [hnil]
    exact cutOff_readMembers_blanks fuel first x blanks_nil given
  rcases cutFrom_append_iff.1 hq with hq | ⟨u, rfl, hu⟩
  · exact cutOff_readMembers_lead fuel first x (hb.cutFrom hq) given
  rcases cutFrom_cons_iff.1 hu with rfl | ⟨w, rfl, hw⟩
  · rw [List.append_nil]
    exact cutOff_readMembers_lead fuel first x hb given
  cases fuel with
  | zero => exact ⟨_, rfl, rfl⟩
  | succ fuel =>
    rw [readMembers_key fuel first given x hb]
    rcases cutFrom_append_iff.1 hw with hw | ⟨q, rfl, hcolon⟩
    · exact (hk.cutOff hw).bind _
    · rw [List.append_assoc, List.singleton_append, hk.scan]
      simp only [bind, Except.bind, field?_key F, if_neg hf]
      exact cutOff_readMembers_colon fuel x hbreaks hagain ht hb₂ hb₃ hb₁ hcolon (f :: given)

/-- The cut is in a member or in what is behind it. -/
theorem SpellsMember.cutOff_append {f : φ} {v : F.Value f} {t u p : List Char}
    (h : F.SpellsMember (.field f v) t) (hbreaks : F.BreaksAt f v)
    (hagain : F.again? f v = none) {given : List φ} (hf : f ∉ given)
    (hdelimited : ∀ q, CutFrom q u → Delimited q)
    (hcut : ∀ q fuel x, CutFrom q u → CutOff (r.readMembers fuel false (f :: given) x q))
    (fuel : Nat) (first : Bool) (x : ρ) (hp : CutFrom p (lead first ++ (t ++ u))) :
    CutOff (r.readMembers fuel first given x p) := by
  rw [← List.append_assoc] at hp
  rcases cutFrom_append_iff.1 hp with hp | ⟨q, rfl, hq⟩
  · exact h.cutOff hbreaks hagain hf fuel first x hp
  · cases fuel with
    | zero => exact ⟨_, rfl, rfl⟩
    | succ fuel =>
      rw [List.append_assoc, readMembers_field fuel first given x h (hdelimited q hq), if_neg hf,
        hagain]
      exact hcut q fuel _ hq

/-- Members that are cut before the brace that closes their object. -/
theorem SpellsMembers.cutOff {ms : List (Member F.Value)} {t p : List Char}
    (h : F.SpellsMembers ms t) (hbreaks : F.Breaks ms) {given : List φ}
    (hdistinct : F.repeatedAfter? given ms = none) (fuel : Nat) (first : Bool) (x : ρ)
    (hp : CutFrom p (lead first ++ (t ++ ['}']))) :
    CutOff (r.readMembers fuel first given x p) := by
  have hfront {f : φ} {v : F.Value f} {ms : List (Member F.Value)} {given : List φ}
      (h : F.repeatedAfter? given (.field f v :: ms) = none) :
      f ∉ given ∧ F.again? f v = none ∧ F.repeatedAfter? (f :: given) ms = none := by
    rw [repeatedAfter?] at h
    split at h
    case isTrue => cases h
    case isFalse hf =>
      cases hagain : F.again? f v with
      | some key =>
        rw [hagain] at h
        cases h
      | none =>
        rw [hagain] at h
        exact ⟨hf, rfl, h⟩
  induction h generalizing given fuel first x p with
  | last h =>
    obtain ⟨f, v, rfl, hvalue⟩ := hbreaks _ List.mem_cons_self
    obtain ⟨hf, hagain, -⟩ := hfront hdistinct
    refine h.cutOff_append hvalue hagain hf (fun q hq => ?_) (fun q fuel x hq => ?_) fuel first x hp
    · rw [cutFrom_singleton_iff.1 hq]
      exact blanks_nil.delimited_self
    · rw [cutFrom_singleton_iff.1 hq]
      exact cutOff_readMembers_blanks fuel false x blanks_nil _
  | @cons m ms t ts h _ ih =>
    obtain ⟨f, v, rfl, hvalue⟩ := hbreaks _ List.mem_cons_self
    obtain ⟨hf, hagain, hrest⟩ := hfront hdistinct
    have hothers : F.Breaks ms := fun m hm => hbreaks m (List.mem_cons_of_mem _ hm)
    rw [List.append_assoc, List.cons_append] at hp
    refine h.cutOff_append hvalue hagain hf (fun q hq => ?_) (fun q fuel x hq => ?_) fuel first x hp
    · rcases cutFrom_cons_iff.1 hq with rfl | ⟨q, rfl, -⟩
      · exact blanks_nil.delimited_self
      · exact delimited_cons (by decide) q
    · exact ih hothers hrest fuel false x hq

/-- An object that gives every field once, each with a value that is missed when it is cut short, is
missed itself. -/
theorem SpellsObject.cutOff {ms : List (Member F.Value)} {b t p : List Char}
    (h : F.SpellsObject ms t) (hbreaks : F.Breaks ms) (hdistinct : F.Distinct ms) (hb : Blanks b)
    (hp : CutFrom p t) : CutOff (r.read (b ++ p)) := by
  have hcut {t : List Char} (hp : CutFrom p ('{' :: t ++ ['}']))
      (h : ∀ q, CutFrom q (t ++ ['}']) →
        CutOff (r.readMembers (q.length + 1) true [] r.start q)) : CutOff (r.read (b ++ p)) := by
    rcases cutFrom_cons_iff.1 hp with rfl | ⟨q, rfl, hq⟩
    · rw [List.append_nil, Record.read, hb.skip_eq_nil]
      exact ⟨_, rfl, rfl⟩
    · rw [r.read_object hb]
      exact h q hq
  cases h with
  | @empty b' hb' =>
    refine hcut hp fun q hq => ?_
    rcases cutFrom_append_iff.1 hq with hq | ⟨u, rfl, hu⟩
    · exact cutOff_readMembers_blanks _ true _ (hb'.cutFrom hq) []
    · rw [cutFrom_singleton_iff.1 hu, List.append_nil]
      exact cutOff_readMembers_blanks _ true _ hb' []
  | members h =>
    have hdistinct := repeated?_eq_none_iff.2 hdistinct
    exact hcut hp fun q hq => h.cutOff hbreaks hdistinct _ true _ hq

/-- An object is a value that is missed when its text is cut short. -/
theorem SpellsObject.breaks {ms : List (Member F.Value)} {t : List Char}
    (h : F.SpellsObject ms t) (hbreaks : F.Breaks ms) (hdistinct : F.Distinct ms) :
    Json.Breaks r.read t where
  ne_nil := by
    cases h <;> exact List.cons_ne_nil _ _
  cut hb hp := .inl (h.cutOff hbreaks hdistinct hb hp)

end Form

end Json

end Caption
