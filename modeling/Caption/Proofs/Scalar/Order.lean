import Mathlib.Data.Prod.Lex
import Caption.Proofs.Scalar.Zero

/-!
# The larger of two numbers

Numbers have a rank, and the larger of two is the second only if its rank is higher. So the largest
of several numbers does not depend on how they are grouped. In single precision a value that is no
number ranks below all others, and the two zeros rank the same: of them the first is taken.

## Main definitions

* `Scalar.Ranks`: what a rank is to the larger of two numbers
* `Single.rank`: the rank of a value in single precision

## Main statements

* `Scalar.Ranks.larger_assoc`: grouping makes no difference
* `Single.ranks_rank`, `Scalar.ranks_rat`: the ranks of both kinds of scalars
-/
namespace Caption

namespace Scalar

variable {α β : Type} [Scalar α] [LinearOrder β]

/-- The larger of two numbers is the second only if its rank is higher. -/
def Ranks (rank : α → β) : Prop :=
  ∀ a b : α, larger a b = if rank a < rank b then b else a

namespace Ranks

variable {rank : α → β} (h : Ranks rank) {a b : α}

include h

theorem larger_of_lt (hab : rank a < rank b) : larger a b = b := by rw [h, if_pos hab]

theorem larger_of_le (hba : rank b ≤ rank a) : larger a b = a := by rw [h, if_neg (not_lt.2 hba)]

theorem larger_self (a : α) : larger a a = a := h.larger_of_le le_rfl

theorem larger_assoc (a b c : α) : larger (larger a b) c = larger a (larger b c) := by
  rcases lt_or_ge (rank a) (rank b) with hab | hba
  · rw [h.larger_of_lt hab]
    rcases lt_or_ge (rank b) (rank c) with hbc | hcb
    · rw [h.larger_of_lt hbc, h.larger_of_lt (hab.trans hbc)]
    · rw [h.larger_of_le hcb, h.larger_of_lt hab]
  · rw [h.larger_of_le hba]
    rcases lt_or_ge (rank b) (rank c) with hbc | hcb
    · rw [h.larger_of_lt hbc]
    · rw [h.larger_of_le hcb, h.larger_of_le hba, h.larger_of_le (hcb.trans hba)]

/-- What was taken into account makes no difference a second time. -/
theorem larger_again (a b : α) : larger (larger a b) a = larger a b := by
  rcases lt_or_ge (rank a) (rank b) with hab | hba
  · rw [h.larger_of_lt hab, h.larger_of_le hab.le]
  · rw [h.larger_of_le hba, h.larger_self]

end Ranks

theorem ranks_rat : Ranks (id : Rat → Rat) := by
  intro a b
  change (if a ≤ b then b else a) = if a < b then b else a
  rcases lt_trichotomy a b with hlt | rfl | hgt
  · rw [if_pos hlt.le, if_pos hlt]
  · rw [ite_self, ite_self]
  · rw [if_neg (not_le.2 hgt), if_neg (not_lt.2 hgt.le)]

end Scalar

namespace Single

open Scalar
open Float.Model (UnpackedFloat)

/-- The rank of a value: what is no number, the negative numbers, zero and the positive numbers,
each by exponent and mantissa. -/
def rank : UnpackedFloat → Int ×ₗ Int ×ₗ Int
  | .notANumber => toLex (-3, toLex (0, 0))
  | .infinity .negative => toLex (-2, toLex (0, 0))
  | .finite .negative m e _ => toLex (-1, toLex (-e, -m))
  | .zero _ => toLex (0, toLex (0, 0))
  | .finite .positive m e _ => toLex (1, toLex (e, m))
  | .infinity .positive => toLex (2, toLex (0, 0))

/-- Comparing two values, the first of them a number, compares their ranks. -/
theorem lt_iff_rank {u : UnpackedFloat} (hu : u.isNaN = false) (v : UnpackedFloat) :
    u.lt v = true ↔ rank u < rank v := by
  have hsign : compare UnpackedFloat.Sign.negative .positive = .lt := rfl
  have hless (m n : Nat) (e k : Int) :
      (compare e k).then (compare m n) = .lt ↔ e < k ∨ e = k ∧ m < n := by
    rw [Ordering.then_eq_lt, Int.compare_eq_lt, Int.compare_eq_eq, Nat.compare_eq_lt]
  have hgreater (m n : Nat) (e k : Int) :
      (compare e k).then (compare m n) = .gt ↔ k < e ∨ e = k ∧ n < m := by
    rw [Ordering.then_eq_gt, Int.compare_eq_gt, Int.compare_eq_eq, Nat.compare_eq_gt]
  simp only [UnpackedFloat.lt, beq_iff_eq]
  -- Unless both are finite and have the same sign, their kinds and signs decide.
  cases u with
  | notANumber => cases hu
  | zero s =>
    cases v with
    | notANumber | zero => simp [UnpackedFloat.compare, rank, Prod.Lex.toLex_lt_toLex]
    | infinity t | finite t =>
      cases t <;> simp [UnpackedFloat.compare, rank, Prod.Lex.toLex_lt_toLex]
  | infinity s =>
    cases v with
    | notANumber | zero =>
      cases s <;> simp [UnpackedFloat.compare, rank, Prod.Lex.toLex_lt_toLex]
    | infinity t | finite t =>
      cases s <;> cases t <;> simp [UnpackedFloat.compare, rank, Prod.Lex.toLex_lt_toLex, hsign]
  | finite s =>
    cases v with
    | notANumber | zero =>
      cases s <;> simp [UnpackedFloat.compare, rank, Prod.Lex.toLex_lt_toLex]
    | infinity t | finite t =>
      cases s <;> cases t <;>
        simp [UnpackedFloat.compare, rank, Prod.Lex.toLex_lt_toLex, hless, hgreater]

theorem isNaN_eq_true_iff (u : UnpackedFloat) : u.isNaN = true ↔ u = .notANumber := by
  cases u <;> simp [UnpackedFloat.isNaN]

theorem rank_notANumber_lt {u : UnpackedFloat} (h : u ≠ .notANumber) :
    rank .notANumber < rank u := by
  cases u with
  | notANumber => exact absurd rfl h
  | zero => simp [rank, Prod.Lex.toLex_lt_toLex]
  | infinity s | finite s => cases s <;> simp [rank, Prod.Lex.toLex_lt_toLex]

theorem ranks_rank : Ranks fun x : Float32 => rank x.toModel.unpack := by
  intro a b
  have hnan : a.isNaN = a.toModel.unpack.isNaN := rfl
  change (if lt a b || a.isNaN then b else a) =
    if rank a.toModel.unpack < rank b.toModel.unpack then b else a
  rw [lt_eq, hnan]
  cases ha : a.toModel.unpack.isNaN with
  | false => simp only [Bool.or_false, lt_iff_rank ha]
  | true =>
    -- No number is chosen before a number, and there is only one value that is none.
    replace ha := (isNaN_eq_true_iff _).1 ha
    rw [Bool.or_true, if_pos rfl, ha]
    by_cases hb : b.toModel.unpack = .notANumber
    · rw [hb, if_neg (lt_irrefl _), ← unpack_inj, ha, hb]
    · rw [if_pos (rank_notANumber_lt hb)]

end Single

end Caption
