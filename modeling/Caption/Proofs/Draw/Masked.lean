import Caption.Draw.Sampled
import Caption.Proofs.Scalar.Value

/-!
# Drawing under a mask

The mask of a rectangle is to have only pixels whose centres are in the rectangle, with the right
and the bottom edge counted in and the others not, and drawing under a mask is to leave all other
pixels as they are. This is asked of a backend; drawing by samples does so, though it finds the
edges of a mask by rounding to 64ths.

## Main definitions

* `Trace.Bounds.Covers`, `Rect.Covers`: whether a rectangle covers a point
* `Backend.KeepsToMask`: what is asked of a backend

## Main statements

* `Mask.lt_edge_iff`: an edge of a mask against the centre of a pixel
* `Backend.sampled_keepsToMask`: drawing by samples keeps to its masks
-/
namespace Caption

/-- Whether edges stand around a point, those on its right and below it included. Edges that are not
finite stand around nothing. -/
def Trace.Surround (left top right bottom : Float32) (x y : Rat) : Prop :=
  ∃ l t r b, Single.value? left = some l ∧ Single.value? top = some t ∧
    Single.value? right = some r ∧ Single.value? bottom = some b ∧
    l < x ∧ x ≤ r ∧ t < y ∧ y ≤ b

def Trace.Bounds.Covers (b : Bounds) (x y : Rat) : Prop :=
  Surround b.left b.top b.right b.bottom x y

def Rect.Covers (r : Rect Float32) (x y : Rat) : Prop :=
  Trace.Surround r.x r.y r.right r.bottom x y

/-- The masks of a backend cover centres inside their bounds only, and under a mask it draws on no
other pixel. -/
structure Backend.KeepsToMask (d : Backend) : Prop where
  covers_of_mask : ∀ c b x y, (d.mask c b).contains x y = true → b.Covers (x + 1 / 2) (y + 1 / 2)
  pixel?_fillTrace : ∀ c mask t b p x y, allowed mask x y = false →
    (d.fillTrace c mask t b p).pixel? x y = p.pixel? x y
  pixel?_strokeTrace : ∀ c mask t width p x y, allowed mask x y = false →
    (d.strokeTrace c mask t width p).pixel? x y = p.pixel? x y

/-! ## Drawing by samples -/

namespace Mask

/-- A pixel is before an edge exactly if its centre is. -/
theorem lt_edge_iff {x : Float32} {v : Rat} (hx : Single.value? x = some v) {k : Nat}
    (hk : k < 2 ^ 25) : (k : Int) < edge x ↔ (k : Rat) + 1 / 2 ≤ v := by
  have hcut : ((64 * k + 32 : Nat) : Int) ≤ sixtyFourths x ↔
      ((64 * k + 32 : Nat) : Rat) ≤ v * 2 ^ 6 :=
    Single.le_cut_iff (by omega) (by omega) (j := 6) rfl hx
  have hedge : (k : Int) < edge x ↔ ((64 * k + 32 : Nat) : Int) ≤ sixtyFourths x := by
    rw [edge, Int.fdiv_eq_ediv_of_nonneg _ (by decide)]
    omega
  rw [hedge, hcut]
  push_cast
  constructor <;> intro h <;> linarith

theorem edge_le (x : Float32) : edge x ≤ 2 ^ 25 := by
  have hmax : sixtyFourths x ≤ 2 ^ 31 - 1 := Int32.toInt_le _
  rw [edge, Int.fdiv_eq_ediv_of_nonneg _ (by decide)]
  omega

/-- Between two edges are only the pixels whose centres are. -/
theorem between_edges {low high : Float32} {v w : Rat} (hlow : Single.value? low = some v)
    (hhigh : Single.value? high = some w) {k : Nat} (hk : edge low ≤ k)
    (hk' : (k : Int) < edge high) :
    v < k + 1 / 2 ∧ (k : Rat) + 1 / 2 ≤ w := by
  have hsmall : k < 2 ^ 25 := by
    have hmax := edge_le high
    omega
  have hbefore : ¬(k : Rat) + 1 / 2 ≤ v := fun h =>
    absurd ((lt_edge_iff hlow hsmall).2 h) (by omega)
  exact ⟨not_le.1 hbefore, (lt_edge_iff hhigh hsmall).1 hk'⟩

theorem covers_of_ofBounds {b : Trace.Bounds} {x y : Nat} (h : (ofBounds b).contains x y = true) :
    b.Covers (x + 1 / 2) (y + 1 / 2) := by
  obtain ⟨⟨⟨⟨⟨hleft, htop⟩, hright⟩, hbottom⟩, -⟩, -⟩ := by
    simpa only [Trace.areEdges, Bool.and_eq_true] using b.valid
  obtain ⟨l, hl⟩ := Single.exists_value? hleft
  obtain ⟨t, ht⟩ := Single.exists_value? htop
  obtain ⟨r, hr⟩ := Single.exists_value? hright
  obtain ⟨u, hu⟩ := Single.exists_value? hbottom
  unfold ofBounds at h
  split at h
  next =>
    simp only [ofEdges, Bool.and_eq_true, decide_eq_true_eq] at h
    obtain ⟨⟨⟨hx, hx'⟩, hy⟩, hy'⟩ := h
    obtain ⟨hafter, hbefore⟩ := between_edges hl hr hx hx'
    obtain ⟨hbelow, habove⟩ := between_edges ht hu hy hy'
    exact ⟨l, t, r, u, hl, ht, hr, hu, hafter, hbefore, hbelow, habove⟩
  next =>
    have hnone : (ofEdges 0 0 0 0).contains x y = false := by simp [ofEdges]
    exact absurd h (Bool.eq_false_iff.1 hnone)

end Mask

theorem Backend.sampled_keepsToMask : sampled.KeepsToMask where
  covers_of_mask _ _ _ _ := Mask.covers_of_ofBounds
  pixel?_fillTrace c mask t b p x y h := by
    change (Sampled.fillTrace c mask t b p).pixel? x y = _
    unfold Sampled.fillTrace
    split
    next => exact p.pixel?_paint_of_masked _ h _
    next => rfl
  pixel?_strokeTrace c mask t width p x y h := by
    change (Sampled.strokeTrace c mask t width p).pixel? x y = _
    unfold Sampled.strokeTrace
    split
    next => exact p.pixel?_dab_of_masked _ h _
    next => exact p.pixel?_paint_of_masked _ h _

end Caption
