import Caption.Bytes

/-!
# Pieces of bytes

Bytes that are put together from pieces are read piece by piece: each piece is found where the
pieces in front of it end.

## Main definitions

* `Bytes.Lies`: a piece starts at a place

## Main statements

* `Bytes.Lies.left`, `Bytes.Lies.right`: a piece of two parts
* `Bytes.Lies.slice?_eq`, `Bytes.Lies.u32?_eq`: what is read where a piece starts
-/
namespace Caption

namespace Bytes

/-- The bytes `x` are found in `b` from `i` on. -/
def Lies (x b : ByteArray) (i : Nat) : Prop :=
  ∃ front back, b = front ++ x ++ back ∧ front.size = i

/-- One byte alone. -/
def single (v : UInt8) : ByteArray := ⟨#[v]⟩

@[simp] theorem size_single (v : UInt8) : (single v).size = 1 := rfl

theorem push_eq (b : ByteArray) (v : UInt8) : b.push v = b ++ single v := by
  ext1
  simp [single]

/-- A piece that lies within the bytes has the size that was asked for. -/
theorem size_extract_of_le {b : ByteArray} {i n : Nat} (h : i + n ≤ b.size) :
    (b.extract i (i + n)).size = n := by
  simp only [ByteArray.size_extract]
  omega

@[simp] theorem size_be32 (n : Nat) : (be32 n).size = 4 := rfl

theorem be32_eq (n : Nat) :
    be32 n = single (n / 0x1000000).toUInt8 ++
      (single (n / 0x10000).toUInt8 ++ (single (n / 0x100).toUInt8 ++ single n.toUInt8)) := by
  ext1
  simp [be32, single]

namespace Lies

variable {x y b : ByteArray} {i : Nat}

theorem whole (b : ByteArray) : Lies b b 0 := ⟨.empty, .empty, by simp, rfl⟩

theorem left (h : Lies (x ++ y) b i) : Lies x b i := by
  obtain ⟨front, back, rfl, rfl⟩ := h
  exact ⟨front, y ++ back, by simp [ByteArray.append_assoc], rfl⟩

theorem right (h : Lies (x ++ y) b i) : Lies y b (i + x.size) := by
  obtain ⟨front, back, rfl, rfl⟩ := h
  exact ⟨front ++ x, back, by simp [ByteArray.append_assoc], by simp⟩

theorem slice?_eq (h : Lies x b i) : slice? b i x.size = some x := by
  obtain ⟨front, back, rfl, rfl⟩ := h
  have hfits : front.size + x.size ≤ (front ++ x ++ back).size := by
    simp only [ByteArray.size_append]
    omega
  have hstop : front.size + x.size = (front ++ x).size := ByteArray.size_append.symm
  rw [slice?, if_pos hfits, hstop, ByteArray.extract_append_size_left,
    ByteArray.extract_append_eq_right rfl hstop.symm]

theorem byte?_eq {v : UInt8} (h : Lies (single v) b i) : byte? b i = some v.toNat := by
  obtain ⟨front, back, rfl, rfl⟩ := h
  have hfits : front.size < (front ++ single v).size := by simp
  have hwhole : front.size < (front ++ single v ++ back).size := by
    simp only [ByteArray.size_append, size_single]
    omega
  have hbyte : (front ++ single v ++ back)[front.size] = v := by
    rw [ByteArray.getElem_append_left hfits, ByteArray.getElem_append_right (Nat.le_refl _)]
    simp [single, ByteArray.getElem_eq_getElem_data]
  rw [byte?, dif_pos hwhole, hbyte]

theorem u32?_eq {n : Nat} (hn : n < 0x100000000) (h : Lies (be32 n) b i) :
    u32? b i = some n := by
  rw [be32_eq] at h
  have hfirst := h.left.byte?_eq
  have hsecond : byte? b (i + 1) = _ := h.right.left.byte?_eq
  have hthird : byte? b (i + 1 + 1) = _ := h.right.right.left.byte?_eq
  have hfourth : byte? b (i + 1 + 1 + 1) = _ := h.right.right.right.byte?_eq
  simp only [u32?, unsigned?, unsignedFrom?, hfirst, hsecond, hthird, hfourth,
    Option.bind_eq_bind, Option.bind_some, Nat.toUInt8_eq, UInt8.toNat_ofNat', Option.some.injEq]
  omega

end Lies

end Bytes

end Caption
