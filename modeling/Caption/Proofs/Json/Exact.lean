import Caption.Proofs.Json.List

/-!
# Readers that take one value

Whatever a reader makes of a value, if it succeeds it has taken all of the value and nothing behind
it. So each element of a list is read into a field of its own, and a list with more elements than
there are fields is refused, whatever its elements are.

## Main definitions

* `Json.Exact`: a reader that takes one value
* `Json.Verbatim`, `Json.VerbatimMember`: the parts of lists and objects by their texts
* `Json.Record.Overlong`: a list with more elements than there are fields
* `Json.Record.Holds`: the value that stands for a field

## Main statements

* `Json.exact_readText`, `Json.exact_readFlag`, `Json.exact_readWhole`: values without parts
* `Json.Record.exact_read`: records of such values
* `Json.Record.Overlong.refused`, `Json.Record.Holds.refused`: what no record is read from
-/
namespace Caption

namespace Json

theorem exists_of_bind {β γ : Type} {x : Except Error β} {f : β → Except Error γ} {c : γ}
    (h : x >>= f = .ok c) : ∃ a, x = .ok a ∧ f a = .ok c := by
  cases x with
  | error e => cases h
  | ok a => exact ⟨a, rfl, h⟩

theorem exists_of_map {β γ : Type} {x : Except Error β} {f : β → γ} {c : γ}
    (h : x.map f = .ok c) : ∃ a, x = .ok a ∧ f a = c := by
  cases x with
  | error e => cases h
  | ok a => exact ⟨a, rfl, Except.ok.inj h⟩

/-! ## Strings -/

namespace Quoted

theorem exists_of_scanHex {cs rest : List Char} {n : Nat} (h : scanHex cs = .ok (n, rest)) :
    ∃ t, SpellsUnit t n ∧ cs = t ++ rest := by
  unfold scanHex at h
  split at h
  next a b c d rest =>
    split at h
    next ha hb hc hd =>
      cases h
      exact ⟨[a, b, c, d], .digits ha hb hc hd, rfl⟩
    next => cases h
  next => split at h <;> cases h

theorem exists_of_scanTrail {high : Nat} {cs rest : List Char} {c : Char}
    (h : scanTrail high cs = .ok (c, rest)) :
    ∃ t n, SpellsUnit t n ∧ cs = '\\' :: 'u' :: (t ++ rest) := by
  unfold scanTrail at h
  split at h
  next => cases h
  next => cases h
  next cs =>
    obtain ⟨⟨low, r⟩, hhex, hlow⟩ := exists_of_bind h
    obtain ⟨t, ht, rfl⟩ := exists_of_scanHex hhex
    dsimp only at hlow
    split at hlow
    next =>
      obtain ⟨-, rfl⟩ := Prod.mk.inj (Except.ok.inj hlow)
      exact ⟨t, low, ht, rfl⟩
    next => cases hlow
  next => cases h

/-- What an escape is read from may stand between quotes. -/
theorem exists_of_scanEscape {cs rest : List Char} {c : Char}
    (h : scanEscape cs = .ok (c, rest)) :
    ∃ t, cs = t ++ rest ∧ ∀ ts, Escaped ts → Escaped ('\\' :: (t ++ ts)) := by
  unfold scanEscape at h
  split at h
  next => cases h
  next cs =>
    obtain ⟨⟨n, r⟩, hhex, hunit⟩ := exists_of_bind h
    obtain ⟨t, ht, rfl⟩ := exists_of_scanHex hhex
    dsimp only at hunit
    split at hunit
    next => cases hunit
    next =>
      split at hunit
      next =>
        obtain ⟨u, _, hu, rfl⟩ := exists_of_scanTrail hunit
        refine ⟨'u' :: (t ++ '\\' :: 'u' :: u), by simp, fun ts hts => ?_⟩
        simpa using Escaped.unit ht (.unit hu hts)
      next =>
        obtain ⟨-, rfl⟩ := Prod.mk.inj (Except.ok.inj hunit)
        exact ⟨'u' :: t, rfl, fun ts hts => .unit ht hts⟩
  next e cs _ =>
    split at h
    next d hd =>
      cases h
      exact ⟨[e], rfl, fun ts hts => .short hd hts⟩
    next => cases h

theorem exists_of_scanTextWith {fuel : Nat} {read cs s rest : List Char}
    (h : scanTextWith fuel read cs = .ok (s, rest)) :
    ∃ t, Escaped t ∧ cs = t ++ '"' :: rest := by
  induction fuel generalizing read cs with
  | zero => cases h
  | succ fuel ih =>
    cases cs with
    | nil => cases h
    | cons c cs =>
      rw [scanTextWith] at h
      split at h
      case isTrue hquote =>
        cases h
        exact ⟨[], .nil, by rw [hquote]; rfl⟩
      case isFalse hquote =>
        split at h
        case isTrue hbackslash =>
          obtain ⟨⟨d, r⟩, hescape, hread⟩ := exists_of_bind h
          obtain ⟨t, rfl, ht⟩ := exists_of_scanEscape hescape
          obtain ⟨ts, hts, rfl⟩ := ih hread
          exact ⟨_, ht ts hts, by rw [hbackslash]; simp⟩
        case isFalse hbackslash =>
          split at h
          case isTrue => cases h
          case isFalse hcontrol =>
            obtain ⟨ts, hts, rfl⟩ := ih h
            exact ⟨c :: ts, .plain ⟨hquote, hbackslash, Nat.not_lt.1 hcontrol⟩ hts, rfl⟩

/-- A string that is read is passed over as well. -/
theorem skipText_of_scanText {cs s rest : List Char} (h : scanText cs = .ok (s, rest)) :
    skipText cs = .ok rest := by
  obtain ⟨t, ht, rfl⟩ := exists_of_scanTextWith h
  exact ht.skip rest

end Quoted

/-! ## Numbers -/

section Numbers

variable {negative : Bool} {significand : Nat} {e : Int} {cs rest : List Char} {x : Number}

theorem skipExponent_of_scan (h : scanExponent negative significand e cs = .ok (x, rest)) :
    skipExponent cs = .ok rest := by
  unfold scanExponent at h
  unfold skipExponent
  dsimp only at h
  split at h
  next => cases h
  next => cases h
  next ds r _ _ hdigits =>
    obtain ⟨y, -, hy⟩ := exists_of_bind h
    obtain ⟨-, rfl⟩ := Prod.mk.inj (Except.ok.inj hy)
    rw [hdigits]
    simp

theorem skipReal_of_scan (h : scanReal negative significand e cs = .ok (x, rest)) :
    skipReal cs = .ok rest := by
  unfold scanReal at h
  split at h
  next => exact skipExponent_of_scan h
  next => exact skipExponent_of_scan h
  next he hE =>
    obtain ⟨y, -, hy⟩ := exists_of_bind h
    obtain ⟨-, rfl⟩ := Prod.mk.inj (Except.ok.inj hy)
    exact skipReal.eq_3 _ he hE

theorem skipFraction_of_scan {dropped : Nat}
    (h : scanFraction negative significand dropped cs = .ok (x, rest)) :
    skipFraction cs = .ok rest := by
  unfold scanFraction at h
  split at h
  next cs =>
    split at h
    next => cases h
    next => cases h
    next ds r _ _ hdigits =>
      have hreal := skipReal_of_scan h
      rw [skipFraction, hdigits]
      simpa using hreal
  next => exact skipExponent_of_scan h
  next => exact skipExponent_of_scan h
  next hpoint he hE =>
    rw [skipFraction.eq_2 _ hpoint]
    split at h
    case isTrue =>
      obtain ⟨-, rfl⟩ := Prod.mk.inj (Except.ok.inj h)
      exact skipReal.eq_3 _ he hE
    case isFalse => exact skipReal_of_scan h

theorem skipUnsigned_of_scan (h : scanUnsigned negative cs = .ok (x, rest)) :
    skipUnsigned cs = .ok rest := by
  unfold scanUnsigned at h
  split at h
  next => cases h
  next c cs =>
    unfold skipUnsigned
    dsimp only
    split at h
    case isTrue hzero =>
      rw [if_pos hzero]
      split at h
      next => exact skipFraction_of_scan h
      next d ds =>
        split at h
        case isTrue => cases h
        case isFalse hd =>
          have hfraction := skipFraction_of_scan h
          simpa [hd] using hfraction
    case isFalse hzero =>
      rw [if_neg hzero]
      split at h
      case isTrue hdigit =>
        have hdigits : (splitDigits (c :: cs)).2 = (splitDigits cs).2 :=
          List.dropWhile_cons_of_pos hdigit
        rw [if_pos hdigit, ← hdigits]
        exact skipFraction_of_scan h
      case isFalse => cases h

/-- A number that is read is passed over as well. -/
theorem skipNumber_of_scanNumber (h : scanNumber cs = .ok (x, rest)) :
    skipNumber cs = .ok rest := by
  unfold scanNumber at h
  split at h
  next => exact skipUnsigned_of_scan h
  next hminus => 
    rw [skipNumber.eq_2 _ hminus]
    exact skipUnsigned_of_scan h

end Numbers

/-! ## Values -/

/-- A reader that takes one value: if it succeeds, all of the value is gone and nothing else. -/
structure Exact {β : Type} (read : List Char → Except Error (β × List Char)) : Prop where
  rest_eq : ∀ {b t rest u : List Char} {y : β}, Blanks b → WellFormed .value t →
    Delimited rest → read (b ++ (t ++ rest)) = .ok (y, u) → u = rest

section Values

variable {β γ : Type} {read : List Char → Except Error (β × List Char)}

theorem Exact.map (h : Exact read) (f : β → γ) :
    Exact fun cs => (read cs).map fun r => (f r.1, r.2) := by
  refine ⟨fun hb ht hrest hread => ?_⟩
  obtain ⟨⟨z, u⟩, hz, hu⟩ := exists_of_map hread
  obtain ⟨-, rfl⟩ := Prod.mk.inj hu
  exact h.rest_eq hb ht hrest hz

theorem WellFormed.startsValue {t : List Char} (h : WellFormed .value t) : StartsValue t := by
  cases h with
  | null | trueFlag | falseFlag | text | emptyList | list | emptyObject | object =>
    exact startsValue_cons rfl (by decide) _
  | number h =>
    obtain ⟨c, cs, rfl, hc⟩ := h.exists_cons
    exact startsValue_cons (not_isBlank_of_startsNumber hc) (ne_of_startsNumber hc rfl) cs

/-- A value without parts is passed over up to what is behind it. -/
theorem WellFormed.eq_of_skipScalar {t rest u : List Char} (h : WellFormed .value t)
    (hrest : Delimited rest) (hskip : skipScalar (t ++ rest) = .ok u) : u = rest := by
  cases h with
  | null | trueFlag | falseFlag => exact (Except.ok.inj hskip).symm
  | number h =>
    have hnumber := h.skip hrest
    obtain ⟨c, cs, rfl, hc⟩ := h.exists_cons
    rw [List.cons_append] at hnumber hskip
    rw [skipScalar_number hc, hnumber] at hskip
    exact (Except.ok.inj hskip).symm
  | text h =>
    rw [List.append_assoc, List.cons_append] at hskip
    exact (Except.ok.inj ((h.skip rest).symm.trans hskip)).symm
  | emptyList | list | emptyObject | object => cases hskip

/-- Values without parts are read by readers that go as far as passing over does. -/
theorem exact_of_skipScalar
    (h : ∀ cs y u, read cs = .ok (y, u) → skipScalar (skipBlanks cs) = .ok u) : Exact read := by
  refine ⟨fun hb ht hrest hread => ?_⟩
  have hskip := h _ _ _ hread
  obtain ⟨c, cs, rfl, hc, -⟩ := ht.startsValue
  rw [hb.skip, List.cons_append, skipBlanks_cons hc] at hskip
  exact ht.eq_of_skipScalar hrest hskip

theorem exact_readText : Exact readText := by
  refine exact_of_skipScalar fun cs y u h => ?_
  unfold readText at h
  split at h
  next rest hfront =>
    obtain ⟨⟨s, v⟩, hscan, hv⟩ := exists_of_map h
    obtain ⟨-, rfl⟩ := Prod.mk.inj hv
    rw [hfront]
    exact Quoted.skipText_of_scanText hscan
  next => cases h

theorem exact_readFlag : Exact readFlag := by
  refine exact_of_skipScalar fun cs y u h => ?_
  unfold readFlag at h
  split at h
  next rest hfront =>
    obtain ⟨v, hscan, hv⟩ := exists_of_map h
    obtain ⟨-, rfl⟩ := Prod.mk.inj hv
    rw [hfront]
    exact hscan
  next rest hfront =>
    obtain ⟨v, hscan, hv⟩ := exists_of_map h
    obtain ⟨-, rfl⟩ := Prod.mk.inj hv
    rw [hfront]
    exact hscan
  next => cases h

theorem exact_readWhole (expected : String) (low high : Int) :
    Exact (readWhole expected low high) := by
  refine exact_of_skipScalar fun cs y u h => ?_
  unfold readWhole at h
  split at h
  next => cases h
  next c rest hfront =>
    rw [hfront]
    split at h
    case isTrue hc =>
      obtain ⟨⟨x, v⟩, hscan, hx⟩ := exists_of_bind h
      have hskip := skipNumber_of_scanNumber hscan
      rw [skipScalar_number hc, hskip]
      cases x with
      | whole n =>
        dsimp only at hx
        split at hx
        case isTrue =>
          obtain ⟨-, rfl⟩ := Prod.mk.inj (Except.ok.inj hx)
          rfl
        case isFalse => cases hx
      | real x => cases hx
    case isFalse => cases h

end Values

/-! ## Parts of values -/

/-- The value that has this text. -/
inductive Verbatim : List Char → List Char → Prop where
  | value {t : List Char} (h : WellFormed .value t) : Verbatim t t

/-- The member with this text between the quotes of its key and this text of its value. -/
inductive VerbatimMember : List Char × List Char → List Char → Prop where
  | member {k b b' t : List Char} (hk : Quoted.Escaped k) (hb : Blanks b) (hb' : Blanks b')
      (h : WellFormed .value t) :
      VerbatimMember (k, t) ('"' :: k ++ '"' :: b ++ ':' :: b' ++ t)

/-- The elements of a list. -/
theorem WellFormed.exists_elements {t : List Char} (h : WellFormed .elements t) :
    ∃ ts, Elements Verbatim ts t := by
  generalize hp : Part.elements = p at h
  induction h with
  | lastElement h =>
    cases h with
    | element hb h hb' => exact ⟨_, .last hb (.value h) hb'⟩
  | elements h _ _ ih =>
    obtain ⟨ts, hts⟩ := ih rfl
    cases h with
    | element hb h hb' => exact ⟨_, .cons hb (.value h) hb' hts⟩
  | _ => cases hp

theorem WellFormed.exists_member {t : List Char} (h : WellFormed .member t) :
    ∃ b m v b', t = b ++ v ++ b' ∧ Blanks b ∧ VerbatimMember m v ∧ Blanks b' := by
  cases h with
  | member hb hk hb₁ h =>
    cases h with
    | element hb₂ h hb₃ => exact ⟨_, _, _, _, by simp, hb, .member hk hb₁ hb₂ h, hb₃⟩

/-- The members of an object. -/
theorem WellFormed.exists_members {t : List Char} (h : WellFormed .members t) :
    ∃ ms, Elements VerbatimMember ms t := by
  generalize hp : Part.members = p at h
  induction h with
  | lastMember h =>
    obtain ⟨b, m, v, b', rfl, hb, hm, hb'⟩ := h.exists_member
    exact ⟨[m], .last hb hm hb'⟩
  | members h _ _ ih =>
    obtain ⟨ms, hms⟩ := ih rfl
    obtain ⟨b, m, v, b', rfl, hb, hm, hb'⟩ := h.exists_member
    exact ⟨m :: ms, .cons hb hm hb' hms⟩
  | _ => cases hp

/-! ## Records -/

namespace Record

open Form

variable {φ ρ : Type} {r : Record φ ρ}

variable (r) in
/-- The value was read into the field, whatever was behind it. -/
def Reads (f : φ) (t : List Char) : Prop :=
  ∃ x y b rest u, Blanks b ∧ Delimited rest ∧ r.readField f x (b ++ (t ++ rest)) = .ok (y, u)

section Parts

variable (hexact : ∀ f x, Exact (r.readField f x)) {first : Bool} {x y : ρ}
  {b t b' rest u : List Char}

include hexact

/-- An element that is read has a field to be read into. -/
theorem exists_of_readElements {fs : List φ} (hb : Blanks b) (ht : WellFormed .value t)
    (hb' : Blanks b') (hrest : Delimited rest)
    (h : r.readElements first fs x (lead first ++ (b ++ t ++ b' ++ rest)) = .ok (y, u)) :
    ∃ f fs' z, fs = f :: fs' ∧ r.Reads f t ∧ r.readElements false fs' z rest = .ok (y, u) := by
  have hrest := hb'.delimited hrest
  have hstart := ht.startsValue.append (b' ++ rest)
  rw [List.append_assoc, List.append_assoc] at h
  cases fs with
  | nil =>
    obtain ⟨e, he⟩ := r.readElements_full first x hb hstart
    rw [he] at h
    cases h
  | cons f fs =>
    rw [r.readElements_next first x f fs hb hstart] at h
    obtain ⟨⟨z, v⟩, hz, hnext⟩ := exists_of_bind h
    obtain rfl := (hexact f x).rest_eq blanks_nil ht hrest hz
    dsimp only at hnext
    rw [r.readElements_blanks false z fs hb'] at hnext
    exact ⟨f, fs, z, rfl, ⟨x, z, [], _, _, blanks_nil, hrest, hz⟩, hnext⟩

/-- A list that is read has no more elements than there are fields, and each is read into its
field. -/
theorem readElements_exact {ts : List (List Char)} (h : Elements Verbatim ts t) {fs : List φ}
    (hread : r.readElements first fs x (lead first ++ (t ++ ']' :: rest)) = .ok (y, u)) :
    u = rest ∧ ts.length ≤ fs.length ∧ ∀ p ∈ fs.zip ts, r.Reads p.1 p.2 := by
  induction h generalizing first fs x with
  | last hb h hb' =>
    obtain ⟨h⟩ := h
    have hend : Delimited (']' :: rest) := delimited_cons (by decide) rest
    obtain ⟨f, fs, z, rfl, hf, hz⟩ := exists_of_readElements hexact hb h hb' hend hread
    rw [r.readElements_end] at hz
    obtain ⟨-, rfl⟩ := Prod.mk.inj (Except.ok.inj hz)
    refine ⟨rfl, by simp, fun p hp => ?_⟩
    obtain rfl : p = (f, _) := by simpa using hp
    exact hf
  | @cons _ _ b t b' us hb h hb' _ ih =>
    obtain ⟨h⟩ := h
    have hcomma : Delimited (',' :: (us ++ ']' :: rest)) := delimited_cons (by decide) _
    rw [List.append_assoc, List.cons_append] at hread
    obtain ⟨f, fs, z, rfl, hf, hz⟩ := exists_of_readElements hexact hb h hb' hcomma hread
    have hnext : r.readElements false fs z (lead false ++ (us ++ ']' :: rest)) = .ok (y, u) := hz
    obtain ⟨hu, hlength, hfields⟩ := ih hnext
    refine ⟨hu, Nat.succ_le_succ hlength, fun p hp => ?_⟩
    rcases List.mem_cons.1 hp with rfl | hp
    · exact hf
    · exact hfields p hp

variable [DecidableEq φ] {given : List φ} {fuel : Nat}

/-- A member that is read has a key, and a value that is read into the field of this key. -/
theorem exists_of_readMembers {m : List Char × List Char} (hb : Blanks b)
    (hm : VerbatimMember m t) (hb' : Blanks b') (hrest : Delimited rest)
    (h : r.readMembers fuel first given x (lead first ++ (b ++ t ++ b' ++ rest)) = .ok (y, u)) :
    ∃ fuel' given' z, r.readMembers fuel' false given' z rest = .ok (y, u) ∧
      ∀ key f, Quoted.Spells m.1 key → r.field? key = some f → r.Reads f m.2 := by
  obtain @⟨k, b₁, b₂, t, hk, hb₁, hb₂, ht⟩ := hm
  have hrest := hb'.delimited hrest
  have htext : b ++ ('"' :: k ++ '"' :: b₁ ++ ':' :: b₂ ++ t) ++ b' ++ rest =
      b ++ '"' :: (k ++ '"' :: (b₁ ++ ':' :: (b₂ ++ (t ++ (b' ++ rest))))) := by simp
  cases fuel with
  | zero => cases h
  | succ fuel =>
    rw [htext, readMembers_key fuel first given x hb] at h
    obtain ⟨⟨key, v⟩, hkey, hvalue⟩ := exists_of_bind h
    have hv := (Quoted.skipText_of_scanText hkey).symm.trans (hk.skip _)
    obtain rfl := Except.ok.inj hv
    have hspelled {s : List Char} (hs : Quoted.Spells k s) : s = key := by
      rw [hs.scan] at hkey
      exact (Prod.mk.inj (Except.ok.inj hkey)).1
    dsimp only at hvalue
    cases hfield : r.field? key with
    | none =>
      rw [hfield] at hvalue
      simp only [skipColon_blanks hb₁, ht.skip hb₂ hrest, bind, Except.bind] at hvalue
      rw [readMembers_blanks fuel false given x hb'] at hvalue
      refine ⟨fuel, given, x, hvalue, fun s f hs hf => ?_⟩
      rw [hspelled hs, hfield] at hf
      cases hf
    | some f =>
      rw [hfield] at hvalue
      dsimp only at hvalue
      split at hvalue
      case isTrue => cases hvalue
      case isFalse hgiven =>
        rw [skipColon_blanks hb₁] at hvalue
        obtain ⟨_, hcolon, hfield'⟩ := exists_of_bind hvalue
        cases hcolon
        obtain ⟨⟨z, w⟩, hz, hnext⟩ := exists_of_bind hfield'
        obtain rfl := (hexact f x).rest_eq hb₂ ht hrest hz
        dsimp only at hnext
        rw [readMembers_blanks fuel false _ z hb'] at hnext
        refine ⟨fuel, f :: given, z, hnext, fun s g hs hg => ?_⟩
        rw [hspelled hs, hfield] at hg
        cases hg
        exact ⟨x, z, b₂, _, _, hb₂, hrest, hz⟩

/-- The values of an object that is read are read into their fields. -/
theorem readMembers_exact {ms : List (List Char × List Char)} (h : Elements VerbatimMember ms t)
    (hread : r.readMembers fuel first given x (lead first ++ (t ++ '}' :: rest)) = .ok (y, u)) :
    u = rest ∧ ∀ m ∈ ms, ∀ key f, Quoted.Spells m.1 key → r.field? key = some f →
      r.Reads f m.2 := by
  induction h generalizing fuel first given x with
  | last hb h hb' =>
    have hend : Delimited ('}' :: rest) := delimited_cons (by decide) rest
    obtain ⟨fuel, given, z, hz, hfield⟩ := exists_of_readMembers hexact hb h hb' hend hread
    cases fuel with
    | zero => cases hz
    | succ fuel =>
      rw [readMembers_end] at hz
      obtain ⟨-, rfl⟩ := Prod.mk.inj (Except.ok.inj hz)
      exact ⟨rfl, List.forall_mem_singleton.2 hfield⟩
  | @cons m ms b t b' us hb h hb' _ ih =>
    have hcomma : Delimited (',' :: (us ++ '}' :: rest)) := delimited_cons (by decide) _
    rw [List.append_assoc, List.cons_append] at hread
    obtain ⟨fuel, given, z, hz, hfield⟩ := exists_of_readMembers hexact hb h hb' hcomma hread
    have hnext : r.readMembers fuel false given z (lead false ++ (us ++ '}' :: rest)) =
      .ok (y, u) := hz
    obtain ⟨hu, hfields⟩ := ih hnext
    exact ⟨hu, List.forall_mem_cons.2 ⟨hfield, hfields⟩⟩

/-- A record takes one value if its fields do. -/
theorem exact_read : Exact r.read := by
  refine ⟨fun {b t rest u y} hb ht hrest hread => ?_⟩
  have hscalar {c : Char} {cs : List Char} (hc : isBlank c = false) (hlist : c ≠ '[')
      (hobject : c ≠ '{') (h : r.read (b ++ c :: cs) = .ok (y, u)) : u = rest := by
    rw [r.read_other hb hc hlist hobject] at h
    cases h
  have htext (o e : Char) (t : List Char) : o :: t ++ [e] ++ rest = o :: (t ++ e :: rest) := by simp
  cases ht with
  | emptyList hb' =>
    rw [htext, r.read_list hb, r.readElements_blanks true _ _ hb', r.readElements_end] at hread
    exact (Prod.mk.inj (Except.ok.inj hread)).2.symm
  | list ht =>
    obtain ⟨ts, hts⟩ := ht.exists_elements
    rw [htext, r.read_list hb] at hread
    exact (readElements_exact hexact hts hread).1
  | emptyObject hb' =>
    rw [htext, r.read_object hb, readMembers_blanks _ true _ _ hb', readMembers_end] at hread
    exact (Prod.mk.inj (Except.ok.inj hread)).2.symm
  | object ht =>
    obtain ⟨ms, hms⟩ := ht.exists_members
    rw [htext, r.read_object hb] at hread
    exact (readMembers_exact hexact hms hread).1
  | number h =>
    obtain ⟨c, cs, rfl, hc⟩ := h.exists_cons
    exact hscalar (not_isBlank_of_startsNumber hc) (ne_of_startsNumber hc rfl)
      (ne_of_startsNumber hc rfl) hread
  | null | trueFlag | falseFlag | text =>
    exact hscalar rfl (by decide) (by decide) hread

end Parts

/-! ## Lists that are too long -/

section Refused

variable (r) in
/-- A list with more elements than there are fields. -/
inductive Overlong : List Char → Prop where
  | list {ts : List (List Char)} {t : List Char} (h : Elements Verbatim ts t)
      (hlong : r.fields.length < ts.length) : Overlong ('[' :: t ++ [']'])

variable (r) in
/-- The value `v` stands for the field, by its place in a list or by its key in an object. -/
inductive Holds (f : φ) (v : List Char) : List Char → Prop where
  | list {ts : List (List Char)} {t : List Char} (h : Elements Verbatim ts t)
      (hmem : (f, v) ∈ r.fields.zip ts) : Holds f v ('[' :: t ++ [']'])
  | object {ms : List (List Char × List Char)} {t k : List Char}
      (h : Elements VerbatimMember ms t) (hmem : (k, v) ∈ ms)
      (hk : Quoted.Spells k (r.key f).toList) : Holds f v ('{' :: t ++ ['}'])

variable [DecidableEq φ] (hexact : ∀ f x, Exact (r.readField f x)) {b t : List Char}

include hexact

/-- A list that is too long is refused, whatever its elements are. -/
theorem Overlong.refused (h : r.Overlong t) (hb : Blanks b) (rest : List Char) :
    ∃ e, r.read (b ++ (t ++ rest)) = .error e := by
  obtain @⟨ts, t, h, hlong⟩ := h
  have htext : '[' :: t ++ [']'] ++ rest = '[' :: (t ++ ']' :: rest) := by simp
  cases hread : r.read (b ++ ('[' :: t ++ [']'] ++ rest)) with
  | error e => exact ⟨e, rfl⟩
  | ok z =>
    rw [htext, r.read_list hb] at hread
    have hlength := (readElements_exact hexact h hread).2.1
    omega

/-- What holds a value that its field refuses is refused. -/
theorem Holds.refused {f : φ} {v : List Char} (h : r.Holds f v t)
    (hkey : r.field? (r.key f).toList = some f)
    (hv : ∀ x b rest, Blanks b → ∃ e, r.readField f x (b ++ (v ++ rest)) = .error e)
    (hb : Blanks b) (rest : List Char) : ∃ e, r.read (b ++ (t ++ rest)) = .error e := by
  have hnot : ¬r.Reads f v := by
    rintro ⟨x, y, b, rest, u, hb, -, hread⟩
    obtain ⟨e, he⟩ := hv x b rest hb
    rw [he] at hread
    cases hread
  cases hread : r.read (b ++ (t ++ rest)) with
  | error e => exact ⟨e, rfl⟩
  | ok z =>
    refine absurd ?_ hnot
    cases h with
    | @list ts t h hmem =>
      have htext : '[' :: t ++ [']'] ++ rest = '[' :: (t ++ ']' :: rest) := by simp
      rw [htext, r.read_list hb] at hread
      exact (readElements_exact hexact h hread).2.2 (f, v) hmem
    | @object ms t k h hmem hk =>
      have htext : '{' :: t ++ ['}'] ++ rest = '{' :: (t ++ '}' :: rest) := by simp
      rw [htext, r.read_object hb] at hread
      exact (readMembers_exact hexact h hread).2 (k, v) hmem _ f hk hkey

end Refused

end Record

end Json

end Caption
