import Caption.Proofs.Json.Number
import Caption.Proofs.Json.Quoted

/-!
# Well-formed values

The grammar of JSON values, with blanks between tokens and brackets nested to any depth, and
what passing over a value comes to: exactly the value is gone, whatever brackets were open.

## Main definitions

* `Json.WellFormed`: the grammar, by the part of a text that it describes
* `Json.Part.PassedOver`: the part is gone after a number of steps that its length bounds

## Main statements

* `Json.WellFormed.passedOver`: every part is passed over
* `Json.WellFormed.skip`: every value is passed over
-/
namespace Caption

namespace Json

/-! ## The grammar -/

/-- The parts of a text: a value, one or several elements of a list with the blanks around them,
one or several members of an object with theirs. -/
inductive Part where
  | value | element | elements | member | members
deriving DecidableEq, Repr

inductive WellFormed : Part → List Char → Prop where
  | null : WellFormed .value ['n', 'u', 'l', 'l']
  | trueFlag : WellFormed .value ['t', 'r', 'u', 'e']
  | falseFlag : WellFormed .value ['f', 'a', 'l', 's', 'e']
  | number {t : List Char} (h : SpellsNumber t) : WellFormed .value t
  | text {t : List Char} (h : Quoted.Escaped t) : WellFormed .value ('"' :: t ++ ['"'])
  | emptyList {b : List Char} (hb : Blanks b) : WellFormed .value ('[' :: b ++ [']'])
  | list {t : List Char} (h : WellFormed .elements t) : WellFormed .value ('[' :: t ++ [']'])
  | emptyObject {b : List Char} (hb : Blanks b) : WellFormed .value ('{' :: b ++ ['}'])
  | object {t : List Char} (h : WellFormed .members t) : WellFormed .value ('{' :: t ++ ['}'])
  | element {b t b' : List Char} (hb : Blanks b) (h : WellFormed .value t) (hb' : Blanks b') :
      WellFormed .element (b ++ t ++ b')
  | lastElement {t : List Char} (h : WellFormed .element t) : WellFormed .elements t
  | elements {t ts : List Char} (h : WellFormed .element t) (hts : WellFormed .elements ts) :
      WellFormed .elements (t ++ ',' :: ts)
  | member {b k b₁ t : List Char} (hb : Blanks b) (hk : Quoted.Escaped k) (hb₁ : Blanks b₁)
      (h : WellFormed .element t) : WellFormed .member (b ++ '"' :: k ++ '"' :: b₁ ++ ':' :: t)
  | lastMember {t : List Char} (h : WellFormed .member t) : WellFormed .members t
  | members {t ts : List Char} (h : WellFormed .member t) (hts : WellFormed .members ts) :
      WellFormed .members (t ++ ',' :: ts)

theorem not_isBlank_of_startsNumber {c : Char} (h : startsNumber c = true) : isBlank c = false := by
  cases hb : isBlank c with
  | false => rfl
  | true =>
    have hminus : c ≠ '-' := by
      rintro rfl
      cases hb
    simp [startsNumber, hminus, isDigit_of_isBlank hb] at h

theorem ne_of_startsNumber {c d : Char} (hc : startsNumber c = true)
    (hd : startsNumber d = false) : c ≠ d := by
  rintro rfl
  simp [hc] at hd

/-- Behind its blanks no part starts with the end of a list or an object. -/
theorem WellFormed.exists_front {p : Part} {t : List Char} (h : WellFormed p t) :
    ∃ b c cs, t = b ++ c :: cs ∧ Blanks b ∧ isBlank c = false ∧ c ≠ ']' ∧ c ≠ '}' := by
  induction h with
  | null | trueFlag | falseFlag | text | emptyList | list | emptyObject | object =>
    exact ⟨[], _, _, rfl, blanks_nil, rfl, by decide, by decide⟩
  | number h =>
    obtain ⟨c, cs, rfl, hc⟩ := h.exists_cons
    exact ⟨[], c, cs, rfl, blanks_nil, not_isBlank_of_startsNumber hc, ne_of_startsNumber hc rfl,
      ne_of_startsNumber hc rfl⟩
  | @element b _ behind hb _ _ ih =>
    obtain ⟨b', c, cs, rfl, hb', hc⟩ := ih
    exact ⟨b ++ b', c, cs ++ behind, by simp, hb.append hb', hc⟩
  | lastElement _ ih | lastMember _ ih => exact ih
  | elements _ _ ih _ | members _ _ ih _ =>
    obtain ⟨b, c, cs, rfl, hb, hc⟩ := ih
    exact ⟨b, c, _, by rw [List.append_assoc, List.cons_append], hb, hc⟩
  | @member b k b₁ t hb _ _ _ _ =>
    exact ⟨b, '"', k ++ '"' :: (b₁ ++ ':' :: t), by simp, hb, rfl, by decide, by decide⟩

/-! ## Single steps -/

namespace Bracket

def opening : Bracket → Char
  | list => '['
  | object => '{'

def closing : Bracket → Char
  | list => ']'
  | object => '}'

/-- What stands first within the bracket. -/
def inside : Bracket → Place
  | list => .value
  | object => .key

/-- The elements or members within the bracket. -/
def parts : Bracket → Part
  | list => .elements
  | object => .members

theorem inside_ne_behind (bracket : Bracket) : bracket.inside ≠ .behind := by
  cases bracket <;> decide

theorem closing_delimited (bracket : Bracket) (rest : List Char) :
    Delimited (bracket.closing :: rest) := by
  cases bracket with
  | list => exact delimited_cons (by decide) rest
  | object => exact delimited_cons (by decide) rest

end Bracket

section Steps

variable {b rest : List Char} (fuel : Nat) (outer : List Bracket)

theorem skipWith_blanks (place : Place) (h : place = .behind → outer ≠ []) (hb : Blanks b)
    (cs : List Char) :
    skipWith fuel place outer (b ++ cs) = skipWith fuel place outer cs := by
  cases fuel with
  | zero => rfl
  | succ fuel =>
    cases place with
    | behind =>
      obtain ⟨bracket, outer, rfl⟩ := List.exists_cons_of_ne_nil (h rfl)
      simp [skipWith, hb.skip]
    | key => simp [skipWith, skipKey, hb.skip]
    | value => simp [skipWith, hb.skip]

theorem skipWith_value_blanks (hb : Blanks b) (cs : List Char) :
    skipWith fuel .value outer (b ++ cs) = skipWith fuel .value outer cs :=
  skipWith_blanks fuel outer .value (fun h => nomatch h) hb cs

/-- A value without parts takes one step. -/
theorem skipWith_scalar {c : Char} {cs : List Char} (hc : isBlank c = false)
    (hlist : c ≠ '[') (hobject : c ≠ '{') (h : skipScalar (c :: cs) = .ok rest) :
    skipWith (fuel + 1) .value outer (c :: cs) = skipWith fuel .behind outer rest := by
  simp [skipWith, skipBlanks_cons hc, hlist, hobject, h, bind, Except.bind]

/-- What follows an opening bracket decides whether it is closed at once. -/
theorem skipWith_opening (bracket : Bracket) (cs : List Char) :
    skipWith (fuel + 1) .value outer (bracket.opening :: cs) =
      (enter bracket cs).bind fun r =>
        skipWith fuel r.1 (if r.1 = .behind then outer else bracket :: outer) r.2 := by
  cases bracket <;> rfl

theorem enter_closing (hb : Blanks b) (bracket : Bracket) (rest : List Char) :
    enter bracket (b ++ bracket.closing :: rest) = .ok (.behind, rest) := by
  unfold enter
  rw [hb.skip]
  cases bracket <;> rfl

theorem enter_inside (hb : Blanks b) (bracket : Bracket) {c : Char} (hc : isBlank c = false)
    (hend : c ≠ bracket.closing) (cs : List Char) :
    enter bracket (b ++ c :: cs) = .ok (bracket.inside, c :: cs) := by
  unfold enter
  rw [hb.skip, skipBlanks_cons hc]
  cases bracket with
  | list =>
    have hne : c ≠ ']' := hend
    simp [hne, Bracket.inside]
  | object =>
    have hne : c ≠ '}' := hend
    simp [hne, Bracket.inside]

/-- An empty bracket takes one step. -/
theorem skipWith_empty (hb : Blanks b) (bracket : Bracket) (rest : List Char) :
    skipWith (fuel + 1) .value outer (bracket.opening :: (b ++ bracket.closing :: rest)) =
      skipWith fuel .behind outer rest := by
  rw [skipWith_opening, enter_closing hb]
  rfl

theorem skipWith_open (bracket : Bracket) {t : List Char} (h : WellFormed bracket.parts t)
    (rest : List Char) :
    skipWith (fuel + 1) .value outer (bracket.opening :: (t ++ rest)) =
      skipWith fuel bracket.inside (bracket :: outer) (t ++ rest) := by
  obtain ⟨b, c, cs, rfl, hb, hc, hlist, hobject⟩ := h.exists_front
  have hend : c ≠ bracket.closing := by
    cases bracket with
    | list => exact hlist
    | object => exact hobject
  have hinside := bracket.inside_ne_behind
  rw [List.append_assoc, List.cons_append, skipWith_opening, enter_inside hb bracket hc hend,
    skipWith_blanks fuel _ bracket.inside (fun h => absurd h hinside) hb]
  simp [Except.bind, hinside]

theorem skipWith_close (bracket : Bracket) (rest : List Char) :
    skipWith (fuel + 1) .behind (bracket :: outer) (bracket.closing :: rest) =
      skipWith fuel .behind outer rest := by
  cases bracket <;> rfl

theorem skipWith_next (bracket : Bracket) (rest : List Char) :
    skipWith (fuel + 1) .behind (bracket :: outer) (',' :: rest) =
      skipWith fuel bracket.inside (bracket :: outer) rest := by
  cases bracket <;> rfl

theorem skipColon_blanks (hb : Blanks b) (cs : List Char) :
    skipColon (b ++ ':' :: cs) = .ok cs := by
  have hcolon : skipBlanks (':' :: cs) = ':' :: cs := skipBlanks_cons rfl _
  simp [skipColon, hb.skip, hcolon]

theorem skipKey_blanks {k b₁ : List Char} (hb : Blanks b) (hk : Quoted.Escaped k)
    (hb₁ : Blanks b₁) (cs : List Char) :
    skipKey (b ++ '"' :: (k ++ '"' :: (b₁ ++ ':' :: cs))) = .ok cs := by
  have hquote : skipBlanks ('"' :: (k ++ '"' :: (b₁ ++ ':' :: cs))) =
      '"' :: (k ++ '"' :: (b₁ ++ ':' :: cs)) := skipBlanks_cons rfl _
  simp [skipKey, hb.skip, hquote, hk.skip, skipColon_blanks hb₁, bind, Except.bind]

theorem skipWith_key {k b₁ : List Char} (hb : Blanks b) (hk : Quoted.Escaped k) (hb₁ : Blanks b₁)
    (cs : List Char) :
    skipWith (fuel + 1) .key outer (b ++ '"' :: (k ++ '"' :: (b₁ ++ ':' :: cs))) =
      skipWith fuel .value outer cs := by
  change (skipKey _).bind (fun rest => skipWith fuel .value outer rest) = _
  rw [skipKey_blanks hb hk hb₁]
  rfl

end Steps

/-! ## Whole parts -/

/-- The part is gone after steps that are no more than its characters. A value may stand
anywhere, the other parts stand in brackets. -/
def Part.PassedOver (p : Part) (t : List Char) : Prop :=
  ∃ n ≤ t.length, ∀ (fuel : Nat) (outer : List Bracket) (rest : List Char), Delimited rest →
    match p with
    | .value => skipWith (fuel + n) .value outer (t ++ rest) = skipWith fuel .behind outer rest
    | .element => ∀ bracket, skipWith (fuel + n) .value (bracket :: outer) (t ++ rest) =
        skipWith fuel .behind (bracket :: outer) rest
    | .elements => skipWith (fuel + n) .value (.list :: outer) (t ++ rest) =
        skipWith fuel .behind (.list :: outer) rest
    | .member | .members => skipWith (fuel + n) .key (.object :: outer) (t ++ rest) =
        skipWith fuel .behind (.object :: outer) rest

theorem passedOver_scalar {c : Char} {t : List Char} (hc : isBlank c = false) (hlist : c ≠ '[')
    (hobject : c ≠ '{')
    (h : ∀ rest, Delimited rest → skipScalar (c :: t ++ rest) = .ok rest) :
    Part.value.PassedOver (c :: t) := by
  refine ⟨1, by simp, fun fuel outer rest hrest => ?_⟩
  exact skipWith_scalar fuel outer hc hlist hobject (h rest hrest)

theorem skipScalar_number {c : Char} (hc : startsNumber c = true) (cs : List Char) :
    skipScalar (c :: cs) = skipNumber (c :: cs) := by
  have hne {d : Char} (hd : startsNumber d = false) : c ≠ d := ne_of_startsNumber hc hd
  rw [skipScalar.eq_6 c cs (hne rfl) (hne rfl) (hne rfl) (hne rfl), if_pos hc]

theorem passedOver_number {t : List Char} (h : SpellsNumber t) : Part.value.PassedOver t := by
  have hskip (rest : List Char) (hrest : Delimited rest) := h.skip hrest
  obtain ⟨c, cs, rfl, hc⟩ := h.exists_cons
  refine passedOver_scalar (not_isBlank_of_startsNumber hc) (ne_of_startsNumber hc rfl)
    (ne_of_startsNumber hc rfl) fun rest hrest => ?_
  exact (skipScalar_number hc (cs ++ rest)).trans (hskip rest hrest)

theorem passedOver_empty {b : List Char} (hb : Blanks b) (bracket : Bracket) :
    Part.value.PassedOver (bracket.opening :: b ++ [bracket.closing]) := by
  refine ⟨1, by simp, fun fuel outer rest _ => ?_⟩
  simpa using skipWith_empty fuel outer hb bracket rest

/-- The parts of a bracket, as both kinds of brackets have them. -/
theorem Part.PassedOver.parts {bracket : Bracket} {t : List Char}
    (h : bracket.parts.PassedOver t) :
    ∃ n ≤ t.length, ∀ (fuel : Nat) (outer : List Bracket) (rest : List Char), Delimited rest →
      skipWith (fuel + n) bracket.inside (bracket :: outer) (t ++ rest) =
        skipWith fuel .behind (bracket :: outer) rest := by
  cases bracket <;> exact h

theorem passedOver_bracket {bracket : Bracket} {t : List Char} (ht : WellFormed bracket.parts t)
    (h : bracket.parts.PassedOver t) :
    Part.value.PassedOver (bracket.opening :: t ++ [bracket.closing]) := by
  obtain ⟨n, hn, hpass⟩ := h.parts
  have hlength : n + 2 ≤ (bracket.opening :: t ++ [bracket.closing]).length := by
    simp only [List.length_append, List.length_cons, List.length_nil]
    omega
  refine ⟨n + 2, hlength, fun fuel outer rest _ => ?_⟩
  have hend := bracket.closing_delimited rest
  calc skipWith (fuel + (n + 2)) .value outer (bracket.opening :: t ++ [bracket.closing] ++ rest)
      = skipWith (fuel + 1 + n + 1) .value outer
          (bracket.opening :: (t ++ bracket.closing :: rest)) := by
        simp [Nat.add_assoc, Nat.add_comm 1]
    _ = skipWith (fuel + 1 + n) bracket.inside (bracket :: outer)
          (t ++ bracket.closing :: rest) := skipWith_open _ outer bracket ht _
    _ = skipWith (fuel + 1) .behind (bracket :: outer) (bracket.closing :: rest) :=
        hpass _ _ _ hend
    _ = skipWith fuel .behind outer rest := skipWith_close fuel outer bracket rest

/-- One part in front of others. -/
theorem skipWith_cons (bracket : Bracket) {t ts rest : List Char} {n m : Nat}
    (hpass : ∀ (fuel : Nat) (outer : List Bracket) (rest : List Char), Delimited rest →
      skipWith (fuel + n) bracket.inside (bracket :: outer) (t ++ rest) =
        skipWith fuel .behind (bracket :: outer) rest)
    (hpassed : ∀ (fuel : Nat) (outer : List Bracket) (rest : List Char), Delimited rest →
      skipWith (fuel + m) bracket.inside (bracket :: outer) (ts ++ rest) =
        skipWith fuel .behind (bracket :: outer) rest)
    (fuel : Nat) (outer : List Bracket) (hrest : Delimited rest) :
    skipWith (fuel + (m + 1 + n)) bracket.inside (bracket :: outer) (t ++ ',' :: ts ++ rest) =
      skipWith fuel .behind (bracket :: outer) rest := by
  have hcomma : Delimited (',' :: (ts ++ rest)) := delimited_cons (by decide) _
  calc skipWith (fuel + (m + 1 + n)) bracket.inside (bracket :: outer) (t ++ ',' :: ts ++ rest)
      = skipWith (fuel + m + 1 + n) bracket.inside (bracket :: outer)
          (t ++ ',' :: (ts ++ rest)) := by simp [Nat.add_assoc]
    _ = skipWith (fuel + m + 1) .behind (bracket :: outer) (',' :: (ts ++ rest)) :=
        hpass _ _ _ hcomma
    _ = skipWith (fuel + m) bracket.inside (bracket :: outer) (ts ++ rest) :=
        skipWith_next _ outer bracket _
    _ = skipWith fuel .behind (bracket :: outer) rest := hpassed fuel outer rest hrest

/-- Every part is passed over. -/
theorem WellFormed.passedOver {p : Part} {t : List Char} (h : WellFormed p t) :
    p.PassedOver t := by
  induction h with
  | null | trueFlag | falseFlag =>
    exact passedOver_scalar rfl (by decide) (by decide) fun rest _ => rfl
  | number h => exact passedOver_number h
  | text h =>
    refine passedOver_scalar rfl (by decide) (by decide) fun rest _ => ?_
    simp [skipScalar, h.skip]
  | emptyList hb => exact passedOver_empty hb .list
  | emptyObject hb => exact passedOver_empty hb .object
  | list ht ih => exact @passedOver_bracket .list _ ht ih
  | object ht ih => exact @passedOver_bracket .object _ ht ih
  | @element b t b' hb ht hb' ih =>
    obtain ⟨n, hn, hpass⟩ := ih
    have hlength : n ≤ (b ++ t ++ b').length := by
      simp only [List.length_append]
      omega
    refine ⟨n, hlength, fun fuel outer rest hrest bracket => ?_⟩
    calc skipWith (fuel + n) .value (bracket :: outer) (b ++ t ++ b' ++ rest)
        = skipWith (fuel + n) .value (bracket :: outer) (t ++ (b' ++ rest)) := by
          rw [List.append_assoc, List.append_assoc, skipWith_value_blanks _ _ hb]
      _ = skipWith fuel .behind (bracket :: outer) (b' ++ rest) :=
          hpass fuel (bracket :: outer) (b' ++ rest) (hb'.delimited hrest)
      _ = skipWith fuel .behind (bracket :: outer) rest :=
          skipWith_blanks fuel _ .behind (fun _ => List.cons_ne_nil _ _) hb' rest
  | lastElement _ ih =>
    obtain ⟨n, hn, hpass⟩ := ih
    exact ⟨n, hn, fun fuel outer rest hrest => hpass fuel outer rest hrest .list⟩
  | lastMember _ ih => exact ih
  | @elements t ts _ _ ih ihs =>
    obtain ⟨n, hn, hpass⟩ := ih
    obtain ⟨m, hm, hpassed⟩ := ihs
    have hlength : m + 1 + n ≤ (t ++ ',' :: ts).length := by
      simp only [List.length_append, List.length_cons]
      omega
    exact ⟨m + 1 + n, hlength, fun fuel outer rest hrest =>
      skipWith_cons .list (fun fuel outer rest hrest => hpass fuel outer rest hrest .list) hpassed
        fuel outer hrest⟩
  | @members t ts _ _ ih ihs =>
    obtain ⟨n, hn, hpass⟩ := ih
    obtain ⟨m, hm, hpassed⟩ := ihs
    have hlength : m + 1 + n ≤ (t ++ ',' :: ts).length := by
      simp only [List.length_append, List.length_cons]
      omega
    exact ⟨m + 1 + n, hlength, fun fuel outer rest hrest =>
      skipWith_cons .object hpass hpassed fuel outer hrest⟩
  | @member b k b₁ t hb hk hb₁ _ ih =>
    obtain ⟨n, hn, hpass⟩ := ih
    have hlength : n + 1 ≤ (b ++ '"' :: k ++ '"' :: b₁ ++ ':' :: t).length := by
      simp only [List.length_append, List.length_cons]
      omega
    refine ⟨n + 1, hlength, fun fuel outer rest hrest => ?_⟩
    have hkey := skipWith_key (fuel + n) (.object :: outer) hb hk hb₁ (t ++ rest)
    rw [hpass fuel outer rest hrest .object] at hkey
    simpa [Nat.add_assoc] using hkey

/-- Every value is passed over with the blanks before it. -/
theorem WellFormed.skip {b t rest : List Char} (h : WellFormed .value t) (hb : Blanks b)
    (hrest : Delimited rest) : skipValue (b ++ (t ++ rest)) = .ok rest := by
  obtain ⟨n, hn, hpass⟩ := h.passedOver
  have hfuel : 2 * (b ++ (t ++ rest)).length + 2 =
      2 * (b ++ (t ++ rest)).length + 1 - n + 1 + n := by
    simp only [List.length_append]
    omega
  rw [skipValue, hfuel, skipWith_value_blanks _ _ hb, hpass _ _ _ hrest]
  rfl

end Json

end Caption
