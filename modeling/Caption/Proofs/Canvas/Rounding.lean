import Mathlib.Algebra.Order.Ring.Int
import Mathlib.Order.Bounds.Basic
import Caption.Proofs.Canvas.Size

/-!
# Rounding requested edges

A requested edge is rounded up to even and held between the bounds, as it is over the integers.
Only the last number of 64 bits cannot be rounded up: it is odd, and its sum leaves the range.

## Main definitions

* `Canvas.RightEdge`: the edge of a request over the integers

## Main statements

* `Canvas.exists_quantizeEdge_iff`: the requests that can be rounded
* `Canvas.rightEdge_of_quantizeEdge`: they are rounded right
* `Canvas.quantizeEdge_mono`: longer requests get longer edges
-/
namespace Caption

namespace Canvas

/-- The least even integer from the request up, held between the bounds. -/
def RightEdge (request : Int) (edge : UInt32) : Prop :=
  ∃ even, IsLeast {k : Int | 2 ∣ k ∧ request ≤ k} even ∧
    (edge.toNat : Int) = max 32 (min even 8192)

theorem isLeast_even (n : Int) : IsLeast {k : Int | 2 ∣ k ∧ n ≤ k} (n + n % 2) := by
  refine ⟨⟨?_, ?_⟩, ?_⟩
  · omega
  · omega
  · rintro k ⟨hdvd, hle⟩
    omega

theorem rightEdge_iff {request : Int} {edge : UInt32} : RightEdge request edge ↔
    (edge.toNat : Int) = max 32 (min (request + request % 2) 8192) := by
  constructor
  · rintro ⟨even, heven, hedge⟩
    rwa [heven.unique (isLeast_even request)] at hedge
  · exact fun hedge => ⟨_, isLeast_even request, hedge⟩

theorem toInt_lt_max {edge : Int64} (h : edge ≠ .maxValue) : edge.toInt < 2 ^ 63 - 1 := by
  have hmax : Int64.maxValue.toInt = 2 ^ 63 - 1 := by decide
  have hne : edge.toInt ≠ Int64.maxValue.toInt := mt Int64.toInt_inj.1 h
  have hlt := edge.toInt_lt
  omega

/-- Every request but the last number can be rounded up to even. -/
theorem exists_addInt64_parity_iff {edge : Int64} :
    (∃ even, Checked.addInt64 edge (parity edge) = .ok even) ↔ edge ≠ .maxValue := by
  constructor
  · rintro ⟨even, heven⟩ rfl
    have hsum := Checked.addInt64_eq_ok_iff.1 heven
    have hlast : Int64.maxValue.toInt + (parity .maxValue).toInt = 2 ^ 63 := by decide
    have hlt := even.toInt_lt
    omega
  · intro h
    have hlow := edge.le_toInt
    have hhigh := toInt_lt_max h
    refine ⟨edge + parity edge, Checked.addInt64_eq_ok_iff.2 ?_⟩
    rw [Int64.toInt_add, toInt_parity]
    exact Int.bmod_eq_of_le (by omega) (by omega)

theorem toNat_clampEdge (edge : Int64) :
    ((clampEdge edge).toNat : Int) = max 32 (min edge.toInt 8192) := by
  have hmin : minEdge.toInt = 32 := rfl
  have hmax : maxEdge.toInt = 8192 := rfl
  unfold clampEdge
  split
  next hlow =>
    have hlt := Int64.lt_iff_toInt_lt.1 hlow
    have hleast : (32 : UInt32).toNat = 32 := rfl
    omega
  next hlow =>
    have hle := Int64.le_iff_toInt_le.1 (Int64.not_lt.1 hlow)
    split
    next hhigh =>
      have hlt := Int64.lt_iff_toInt_lt.1 hhigh
      have hgreatest : (8192 : UInt32).toNat = 8192 := rfl
      omega
    next hhigh =>
      have hle' := Int64.le_iff_toInt_le.1 (Int64.not_lt.1 hhigh)
      have hnonneg : 0 ≤ edge := Int64.le_iff_toInt_le.2 (Int.le_trans (by decide) hle)
      have hword : edge.toInt < UInt32.size := Int.lt_of_le_of_lt hle' (by decide)
      rw [toNat_toUInt32_of_le hnonneg hword]
      omega

section Edges

variable {request request' : Int64} {edge edge' : UInt32}

theorem exists_quantizeEdge_iff :
    (∃ edge, quantizeEdge request = .ok edge) ↔ request ≠ .maxValue := by
  rw [← exists_addInt64_parity_iff]
  constructor
  · rintro ⟨edge, hedge⟩
    obtain ⟨even, heven, -⟩ := bind_eq_ok_iff.1 hedge
    exact ⟨even, heven⟩
  · rintro ⟨even, heven⟩
    exact ⟨clampEdge even, bind_eq_ok_iff.2 ⟨even, heven, rfl⟩⟩

theorem toNat_of_quantizeEdge (h : quantizeEdge request = .ok edge) :
    (edge.toNat : Int) = max 32 (min (request.toInt + request.toInt % 2) 8192) := by
  obtain ⟨even, heven, hclamp⟩ := bind_eq_ok_iff.1 h
  obtain rfl : clampEdge even = edge := Except.ok.inj hclamp
  rw [toNat_clampEdge, Checked.addInt64_eq_ok_iff.1 heven, toInt_parity]

/-- A request that can be rounded is rounded right. -/
theorem rightEdge_of_quantizeEdge (h : quantizeEdge request = .ok edge) :
    RightEdge request.toInt edge :=
  rightEdge_iff.2 (toNat_of_quantizeEdge h)

/-- A longer request gets an edge as long. -/
theorem quantizeEdge_mono (h : quantizeEdge request = .ok edge)
    (h' : quantizeEdge request' = .ok edge') (hle : request ≤ request') : edge ≤ edge' := by
  have hle := Int64.le_iff_toInt_le.1 hle
  have hedge := toNat_of_quantizeEdge h
  have hedge' := toNat_of_quantizeEdge h'
  rw [UInt32.le_iff_toNat_le]
  omega

/-- A request from 8192 up gets the greatest edge. -/
theorem eq_max_of_quantizeEdge (h : quantizeEdge request = .ok edge)
    (hlong : 8192 ≤ request.toInt) :
    edge = 8192 := by
  have hedge := toNat_of_quantizeEdge h
  have hgreatest : (8192 : UInt32).toNat = 8192 := rfl
  rw [← UInt32.toNat_inj]
  omega

/-- Both edges can be rounded or there is no canvas. -/
theorem quantized_eq_overflow_iff :
    quantized request request' = .error .overflow ↔ request = .maxValue ∨ request' = .maxValue := by
  rw [Checked.eq_overflow_iff]
  simp only [quantized_eq_ok_iff]
  constructor
  · intro h
    by_contra hne
    obtain ⟨hne, hne'⟩ := not_or.1 hne
    obtain ⟨edge, hedge⟩ := exists_quantizeEdge_iff.2 hne
    obtain ⟨edge', hedge'⟩ := exists_quantizeEdge_iff.2 hne'
    exact h ⟨⟨edge, edge'⟩, hedge, hedge'⟩
  · rintro (rfl | rfl) ⟨c, hedge, hedge'⟩
    · exact exists_quantizeEdge_iff.1 ⟨_, hedge⟩ rfl
    · exact exists_quantizeEdge_iff.1 ⟨_, hedge'⟩ rfl

end Edges

end Canvas

end Caption
