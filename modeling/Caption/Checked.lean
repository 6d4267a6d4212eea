/-!
# Checked arithmetic

Whole numbers of a fixed width. A sum or a product that does not fit is not cut to the width: the
computation ends there, and whoever asked for its value gets none.

## Main definitions

* `Checked`: a value, or an overflow on the way to it
* `Checked.word`, `Checked.long`: numbers counted in 32 and in 64 bits
* `Checked.Both`: two computations that end alike

## Main statements

* `Checked.word_eq_ok_iff`, `Checked.long_eq_ok_iff`, `Checked.addInt64_eq_ok_iff`: a value that is
  given is the exact one
-/
namespace Caption

/-- A whole number is too large for its width. -/
inductive Overflow where
  | overflow
deriving DecidableEq, Repr

/-- A value, or an overflow on the way to it. -/
abbrev Checked (α : Type) := Except Overflow α

/-- Two acts succeed one after the other if both do. -/
theorem bind_eq_ok_iff {ε α β : Type} {x : Except ε α} {f : α → Except ε β} {b : β} :
    x >>= f = .ok b ↔ ∃ a, x = .ok a ∧ f a = .ok b := by
  cases x <;> simp [bind, Except.bind]

namespace Checked

/-! ## Arithmetic -/

/-- A number counted in 32 bits. -/
def word (n : Nat) : Checked UInt32 :=
  if n < UInt32.size then .ok n.toUInt32 else .error .overflow

/-- A number counted in 64 bits. -/
def long (n : Nat) : Checked UInt64 :=
  if n < UInt64.size then .ok n.toUInt64 else .error .overflow

def add32 (a b : UInt32) : Checked UInt32 := word (a.toNat + b.toNat)

def mul32 (a b : UInt32) : Checked UInt32 := word (a.toNat * b.toNat)

def mul64 (a b : UInt64) : Checked UInt64 := long (a.toNat * b.toNat)

/-- A sum of numbers with a sign. -/
def addInt64 (a b : Int64) : Checked Int64 :=
  if (a + b).toInt = a.toInt + b.toInt then .ok (a + b) else .error .overflow

theorem word_eq_ok_iff {n : Nat} {w : UInt32} : word n = .ok w ↔ w.toNat = n := by
  unfold word
  split
  next h => simp [← UInt32.toNat_inj, UInt32.toNat_ofNat_of_lt' h, eq_comm]
  next h =>
    have hlt : w.toNat < UInt32.size := w.toNat_lt
    exact iff_of_false nofun fun hw => h (hw ▸ hlt)

theorem long_eq_ok_iff {n : Nat} {w : UInt64} : long n = .ok w ↔ w.toNat = n := by
  unfold long
  split
  next h => simp [← UInt64.toNat_inj, UInt64.toNat_ofNat_of_lt' h, eq_comm]
  next h =>
    have hlt : w.toNat < UInt64.size := w.toNat_lt
    exact iff_of_false nofun fun hw => h (hw ▸ hlt)

theorem addInt64_eq_ok_iff {a b c : Int64} :
    addInt64 a b = .ok c ↔ c.toInt = a.toInt + b.toInt := by
  unfold addInt64
  split
  next h => rw [Except.ok.injEq, ← Int64.toInt_inj, h, eq_comm]
  next h =>
    refine iff_of_false nofun fun hc => h ?_
    have hlow := c.le_toInt
    have hhigh := c.toInt_lt
    rw [Int64.toInt_add, ← hc]
    exact Int.bmod_eq_of_le (by omega) (by omega)

theorem exists_word_eq_ok_iff {n : Nat} : (∃ w, word n = .ok w) ↔ n < UInt32.size := by
  unfold word
  split <;> simp [*]

theorem exists_long_eq_ok_iff {n : Nat} : (∃ w, long n = .ok w) ↔ n < UInt64.size := by
  unfold long
  split <;> simp [*]

/-! ## Computations side by side -/

variable {α β γ δ : Type}

/-- A computation without a value has overflowed. -/
theorem eq_overflow_iff {x : Checked α} : x = .error .overflow ↔ ¬∃ a, x = .ok a := by
  cases x with
  | ok a => simp
  | error e => simp

theorem ne_overflow_iff {x : Checked α} : x ≠ .error .overflow ↔ ∃ a, x = .ok a := by
  cases x with
  | ok a => simp
  | error e => simp

/-- Two computations end alike: both with values, which are related, or both without. -/
inductive Both (R : α → β → Prop) : Checked α → Checked β → Prop
  | ok {a : α} {b : β} (related : R a b) : Both R (.ok a) (.ok b)
  | overflow : Both R (.error .overflow) (.error .overflow)

theorem Both.refl {R : α → α → Prop} (h : ∀ a, R a a) (x : Checked α) : Both R x x := by
  cases x with
  | ok a => exact .ok (h a)
  | error => exact .overflow

theorem Both.of_exists_iff {R : α → β → Prop} {x : Checked α} {y : Checked β}
    (h : (∃ a, x = .ok a) ↔ ∃ b, y = .ok b) (hR : ∀ a b, x = .ok a → y = .ok b → R a b) :
    Both R x y := by
  cases x with
  | ok a =>
    obtain ⟨b, rfl⟩ := h.1 ⟨a, rfl⟩
    exact .ok (hR a b rfl rfl)
  | error =>
    cases y with
    | ok b => exact absurd (h.2 ⟨b, rfl⟩) nofun
    | error => exact .overflow

section Values

variable {R : α → β → Prop} {x : Checked α} {y : Checked β} (h : Both R x y)
include h

theorem Both.exists_right {a : α} (hx : x = .ok a) : ∃ b, y = .ok b ∧ R a b := by
  cases h with
  | ok related => exact ⟨_, rfl, Except.ok.inj hx ▸ related⟩
  | overflow => cases hx

theorem Both.exists_left {b : β} (hy : y = .ok b) : ∃ a, x = .ok a ∧ R a b := by
  cases h with
  | ok related => exact ⟨_, rfl, Except.ok.inj hy ▸ related⟩
  | overflow => cases hy

end Values

theorem Both.bind {R : α → β → Prop} {S : γ → δ → Prop} {x : Checked α} {y : Checked β}
    {f : α → Checked γ} {g : β → Checked δ} (h : Both R x y)
    (hfg : ∀ a b, R a b → Both S (f a) (g b)) : Both S (x >>= f) (y >>= g) := by
  cases h with
  | ok related => exact hfg _ _ related
  | overflow => exact .overflow

end Checked

end Caption
