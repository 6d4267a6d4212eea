import Caption.Png.Stored
import Caption.Proofs.Bytes.Piece

/-!
# Stored data is kept

What is wrapped up in blocks is unwrapped again. Wrapping is an append to what is there already,
so unwrapping follows it block by block.

## Main statements

* `Stored.takeBlocks?_pushBlocks`: reading blocks gives the data they were cut from
* `Stored.unwrap?_wrap`
-/
namespace Caption

namespace Stored

open Bytes

@[simp] theorem size_le16 (n : Nat) : (le16 n).size = 2 := rfl

theorem le16_eq (n : Nat) : le16 n = single n.toUInt8 ++ single (n / 256).toUInt8 := by
  ext1
  simp [le16, single]

theorem le16?_eq {b : ByteArray} {i n : Nat} (hn : n ≤ maxBlock) (h : Lies (le16 n) b i) :
    le16? b i = some n := by
  rw [le16_eq] at h
  have hlow := h.left.byte?_eq
  have hhigh : byte? b (i + 1) = _ := h.right.byte?_eq
  simp only [maxBlock] at hn
  simp only [le16?, hlow, hhigh, Option.bind_eq_bind, Option.bind_some, Option.pure_def,
    Nat.toUInt8_eq, UInt8.toNat_ofNat', Option.some.injEq]
  omega

/-! ## Blocks -/

/-- A block with its head. -/
def block (last : Bool) (x : ByteArray) : ByteArray := blockHead last x.size ++ x

@[simp] theorem size_block (last : Bool) (x : ByteArray) : (block last x).size = 5 + x.size :=
  ByteArray.size_append

theorem append_block {data : ByteArray} {i : Nat} (h : i + maxBlock < data.size)
    (out : ByteArray) :
    out ++ blockHead false maxBlock ++ data.extract i (i + maxBlock) =
      out ++ block false (data.extract i (i + maxBlock)) := by
  rw [block, size_extract_of_le (Nat.le_of_lt h), ByteArray.append_assoc]

theorem pushBlocks_of_lt {data : ByteArray} {i : Nat} (h : i + maxBlock < data.size)
    (out : ByteArray) :
    pushBlocks data i out =
      pushBlocks data (i + maxBlock) (out ++ block false (data.extract i (i + maxBlock))) := by
  rw [pushBlocks, if_pos h, append_block h]

theorem pushBlocks_of_le {data : ByteArray} {i : Nat} (h : data.size ≤ i + maxBlock)
    (out : ByteArray) :
    pushBlocks data i out = out ++ block true (data.extract i data.size) := by
  rw [pushBlocks, if_neg (Nat.not_lt_of_ge h), block, ByteArray.size_extract, Nat.min_self,
    ByteArray.append_assoc]

/-- What was there before the blocks is left. -/
theorem exists_pushBlocks_eq (data : ByteArray) (i : Nat) (out : ByteArray) :
    ∃ blocks, pushBlocks data i out = out ++ blocks := by
  induction i, out using pushBlocks.induct data with
  | case1 i out hmore ih =>
    rw [append_block hmore] at ih
    obtain ⟨blocks, hblocks⟩ := ih
    rw [pushBlocks_of_lt hmore, hblocks]
    exact ⟨_, ByteArray.append_assoc⟩
  | case2 i out hlast =>
    exact ⟨_, pushBlocks_of_le (Nat.not_lt.1 hlast) out⟩

/-- A block that starts at `i` is read as it is. -/
theorem takeBlocks?_succ {last : Bool} {x b : ByteArray} {i : Nat} (hsize : x.size ≤ maxBlock)
    (h : Lies (block last x) b i) (n : Nat) (out : ByteArray) :
    takeBlocks? b (n + 1) i out =
      if last then some (out ++ x, i + 5 + x.size)
      else takeBlocks? b n (i + 5 + x.size) (out ++ x) := by
  have hkind : byte? b i = some (if last then 1 else 0) := by
    have hsingle : Lies (single (if last then 1 else 0)) b i := h.left.left.left
    rw [hsingle.byte?_eq]
    cases last <;> rfl
  have hlength : le16? b (i + 1) = some x.size := le16?_eq hsize h.left.left.right
  have hother : le16? b (i + 3) = some (maxBlock - x.size) :=
    le16?_eq (Nat.sub_le _ _) h.left.right
  have hdata : slice? b (i + 5) x.size = some x := h.right.slice?_eq
  simp only [takeBlocks?, hkind, hlength, hother, hdata, Option.bind_eq_bind, Option.bind_some]
  cases last <;> simp

/-- Blocks of the data from `i` on are read back behind the data before `i`. -/
theorem takeBlocks?_pushBlocks {data b : ByteArray} {i n : Nat} {out : ByteArray}
    (hi : i ≤ data.size) (hn : data.size - i < n) (h : Lies (pushBlocks data i out) b 0) :
    takeBlocks? b n out.size (data.extract 0 i) = some (data, (pushBlocks data i out).size) := by
  -- what was read so far is the data before `i`, and each block moves `i` on by what it holds
  induction n generalizing i out with
  | zero => omega
  | succ n ih =>
    by_cases hmore : i + maxBlock < data.size
    · rw [pushBlocks_of_lt hmore] at h ⊢
      obtain ⟨blocks, hblocks⟩ := exists_pushBlocks_eq data (i + maxBlock)
        (out ++ block false (data.extract i (i + maxBlock)))
      have hblock : Lies (block false (data.extract i (i + maxBlock))) b out.size := by
        rw [hblocks] at h
        simpa using h.left.right
      have hsize := size_extract_of_le (Nat.le_of_lt hmore)
      have hrest : data.size - (i + maxBlock) < n := by
        simp only [maxBlock] at hmore ⊢
        omega
      have hread := ih (Nat.le_of_lt hmore) hrest h
      rw [takeBlocks?_succ (Nat.le_of_eq hsize) hblock]
      simpa [hsize, Nat.add_assoc] using hread
    · rw [pushBlocks_of_le (Nat.not_lt.1 hmore)] at h ⊢
      have hblock : Lies (block true (data.extract i data.size)) b out.size := by
        simpa using h.right
      have hsize : (data.extract i data.size).size ≤ maxBlock := by
        simp only [ByteArray.size_extract]
        omega
      rw [takeBlocks?_succ hsize hblock]
      simp [Nat.add_assoc]

/-- There are bytes around the data. -/
theorem le_size_pushBlocks (data : ByteArray) (i : Nat) (out : ByteArray) :
    out.size + (data.size - i) + 5 ≤ (pushBlocks data i out).size := by
  induction i, out using pushBlocks.induct data with
  | case1 i out hmore ih =>
    rw [append_block hmore, ByteArray.size_append, size_block,
      size_extract_of_le (Nat.le_of_lt hmore)] at ih
    rw [pushBlocks_of_lt hmore]
    simp only [maxBlock] at hmore ih ⊢
    omega
  | case2 i out hlast =>
    rw [pushBlocks_of_le (Nat.not_lt.1 hlast)]
    simp only [ByteArray.size_append, size_block, ByteArray.size_extract]
    omega

/-! ## The envelope -/

@[simp] theorem size_mark : mark.size = 2 := rfl

theorem size_wrap (data : ByteArray) : (wrap data).size = (pushBlocks data 0 mark).size + 4 :=
  ByteArray.size_append

theorem unwrap?_wrap (data : ByteArray) : unwrap? (wrap data) = some data := by
  have hwhole := Lies.whole (wrap data)
  have hmark : slice? (wrap data) 0 2 = some mark := by
    obtain ⟨blocks, hblocks⟩ := exists_pushBlocks_eq data 0 mark
    have hlies : Lies (mark ++ blocks) (wrap data) 0 := hblocks ▸ hwhole.left
    exact hlies.left.slice?_eq
  have hfuel : data.size - 0 < (wrap data).size := by
    have hblocks := le_size_pushBlocks data 0 mark
    rw [size_wrap]
    omega
  have htake : takeBlocks? (wrap data) (wrap data).size 2 .empty =
      some (data, (pushBlocks data 0 mark).size) := by
    simpa using takeBlocks?_pushBlocks (Nat.zero_le _) hfuel hwhole.left
  have hsums : u32? (wrap data) (pushBlocks data 0 mark).size =
      some (Checksum.sums data).toNat := by
    simpa using hwhole.right.u32?_eq (Checksum.sums data).toNat_lt
  have hhead : (mark == mark) = true := by decide
  simp only [unwrap?, hmark, htake, hsums, hhead, ← size_wrap, Option.bind_eq_bind,
    Option.bind_some, and_self, if_true]

end Stored

end Caption
