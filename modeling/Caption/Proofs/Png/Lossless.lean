import Caption.Png.Basic
import Caption.Proofs.Canvas.Size
import Caption.Proofs.Png.Stored

/-!
# Nothing is lost in an image file

Reading the plain file of a picture gives the picture back, byte for byte, of any size and without
what lies behind its last pixel. Each part of a file is read back by a lemma of its own: chunks,
header and rows. So the plain codec is one of those that lose nothing.

## Main definitions

* `Png.Chunk.Fits`: the length of a chunk can be written down
* `Pixels.Filled`: at least as many bytes as the size says
* `Pixels.trimmed`: a picture without the bytes behind its last pixel
* `Png.Codec.Lossless`, `Png.Codec.Supports`: what a codec is relied on for

## Main statements

* `Png.Chunk.readAll?_all`, `Png.readHeader?_header`, `Png.takeRows?_rows`
* `Png.decode?_file`
* `Png.Codec.plain_lossless`, `Png.Codec.plain_supports`
-/
namespace Caption

namespace Pixels

/-- At least four bytes for each pixel. -/
def Filled (p : Pixels) : Prop := p.width.toNat * p.height.toNat * 4 ≤ p.data.size

instance (p : Pixels) : Decidable p.Filled := inferInstanceAs (Decidable (_ ≤ _))

/-- The picture without the bytes behind its last pixel. -/
def trimmed (p : Pixels) : Pixels :=
  ⟨p.width, p.height, p.data.extract 0 (p.width.toNat * p.height.toNat * 4)⟩

theorem Whole.filled {p : Pixels} (h : p.Whole) : p.Filled := Nat.le_of_eq h.symm

theorem Filled.whole_trimmed {p : Pixels} (h : p.Filled) : p.trimmed.Whole := by
  change (p.data.extract 0 _).size = _
  rw [ByteArray.size_extract, Nat.min_eq_left h]
  exact Nat.sub_zero _

theorem Whole.trimmed_eq {p : Pixels} (h : p.Whole) : p.trimmed = p := by
  rw [trimmed, ← h, ByteArray.extract_zero_size]

end Pixels

namespace Png

open Bytes

/-! ## Chunks -/

namespace Chunk

/-- The name has four letters and the data is counted in four bytes. -/
structure Fits (c : Chunk) : Prop where
  name : c.name.size = 4
  data : c.data.size < 0x100000000

theorem size_bytes {c : Chunk} (hc : c.Fits) : c.bytes.size = 12 + c.data.size := by
  simp only [bytes, ByteArray.size_append, size_be32, hc.name]
  omega

theorem readAt?_bytes {c : Chunk} (hc : c.Fits) {b : ByteArray} {i : Nat}
    (h : Lies c.bytes b i) : readAt? b i = some (c, i + 12 + c.data.size) := by
  have hlength : u32? b i = some c.data.size := h.left.left.left.u32?_eq hc.data
  have hname : slice? b (i + 4) 4 = some c.name := by
    simpa [hc.name] using h.left.left.right.slice?_eq
  have hdata : slice? b (i + 8) c.data.size = some c.data := by
    simpa [hc.name] using h.left.right.slice?_eq
  have hcheck : u32? b (i + 8 + c.data.size) =
      some (Checksum.crc (c.name ++ c.data)).toNat := by
    have hcrc := h.right.u32?_eq (Checksum.crc (c.name ++ c.data)).toNat_lt
    simpa [hc.name, Nat.add_assoc] using hcrc
  simp [readAt?, hlength, hname, hdata, hcheck]

/-- Every chunk has bytes around its data. -/
theorem length_le_size_all {cs : List Chunk} (hcs : ∀ c ∈ cs, c.Fits) :
    cs.length ≤ (all cs).size := by
  induction cs with
  | nil => exact Nat.zero_le _
  | cons c cs ih =>
    have hc := size_bytes (hcs c List.mem_cons_self)
    have hrest := ih fun d hd => hcs d (List.mem_cons_of_mem c hd)
    rw [all, ByteArray.size_append, List.length_cons]
    omega

theorem readAll?_all {cs : List Chunk} (hcs : ∀ c ∈ cs, c.Fits) {b : ByteArray} {i n : Nat}
    (h : Lies (all cs) b i) (hstop : i + (all cs).size = b.size) (hn : cs.length < n) :
    readAll? b n i = some cs := by
  induction cs generalizing i n with
  | nil =>
    obtain ⟨n, rfl⟩ : ∃ k, n = k + 1 := ⟨n - 1, by omega⟩
    rw [readAll?, if_pos (by simpa [all] using hstop)]
  | cons c cs ih =>
    obtain ⟨n, rfl⟩ : ∃ k, n = k + 1 := ⟨n - 1, by omega⟩
    have hc : c.Fits := hcs c (by simp)
    have hsize := size_bytes hc
    have hall : (all (c :: cs)).size = c.bytes.size + (all cs).size := ByteArray.size_append
    have hmore : i ≠ b.size := by omega
    have hrest : Lies (all cs) b (i + 12 + c.data.size) := by
      simpa [hsize, Nat.add_assoc] using h.right
    have hnext : readAll? b n (i + 12 + c.data.size) = some cs :=
      ih (fun d hd => hcs d (by simp [hd])) hrest (by omega) (by simpa using hn)
    have hread := readAt?_bytes hc h.left
    simp [readAll?, hmore, hread, hnext]

end Chunk

/-! ## Header -/

theorem readHeader?_header (c : Canvas) : readHeader? (header c) = some c := by
  have h := Lies.whole (header c)
  have hwidth : u32? (header c) 0 = some c.width.toNat := h.left.left.u32?_eq c.width.toNat_lt
  have hheight : u32? (header c) 4 = some c.height.toNat :=
    h.left.right.u32?_eq c.height.toNat_lt
  have htail : slice? (header c) 8 5 = some headerTail := h.right.slice?_eq
  have hsame : (headerTail == headerTail) = true := by decide
  have hsize : (header c).size = 13 := rfl
  simp [readHeader?, hwidth, hheight, htail, hsame, hsize]

/-! ## Rows -/

/-- A row with its mark. -/
def row (x : ByteArray) : ByteArray := single plainRow ++ x

theorem pushRows_succ (length : Nat) (data : ByteArray) (n i : Nat) (out : ByteArray) :
    pushRows length data (n + 1) i out =
      pushRows length data n (i + length) (out ++ row (data.extract i (i + length))) := by
  rw [pushRows, push_eq, row, ByteArray.append_assoc]

/-- What was there before the rows is left. -/
theorem exists_pushRows_eq (length : Nat) (data : ByteArray) (n i : Nat) (out : ByteArray) :
    ∃ rest, pushRows length data n i out = out ++ rest := by
  induction n generalizing i out with
  | zero => exact ⟨.empty, by simp [pushRows]⟩
  | succ n ih =>
    obtain ⟨rest, hrest⟩ := ih (i + length) (out ++ row (data.extract i (i + length)))
    rw [pushRows_succ, hrest]
    exact ⟨_, ByteArray.append_assoc⟩

/-- Rows of the data from `i` on are read back behind the data before `i`. -/
theorem takeRows?_pushRows {length : Nat} {data b : ByteArray} {n i : Nat} {out : ByteArray}
    (hfits : i + n * length ≤ data.size) (hb : pushRows length data n i out = b) :
    takeRows? length b n out.size (data.extract 0 i) = some (data.extract 0 (i + n * length)) := by
  induction n generalizing i out with
  | zero => simp [takeRows?, ← hb, pushRows]
  | succ n ih =>
    rw [pushRows_succ] at hb
    rw [Nat.succ_mul] at hfits ⊢
    obtain ⟨rest, hrest⟩ := exists_pushRows_eq length data n (i + length)
      (out ++ row (data.extract i (i + length)))
    have hrow : Lies (row (data.extract i (i + length))) b out.size :=
      ⟨out, rest, by rw [← hb, hrest], rfl⟩
    have hsize : (data.extract i (i + length)).size = length :=
      size_extract_of_le (by omega)
    have hmark : byte? b out.size = some plainRow.toNat := hrow.left.byte?_eq
    have hdata : slice? b (out.size + 1) length = some (data.extract i (i + length)) := by
      simpa [hsize] using hrow.right.slice?_eq
    have hdone : (out ++ row (data.extract i (i + length))).size = out.size + 1 + length := by
      rw [ByteArray.size_append, row, ByteArray.size_append, hsize, size_single, Nat.add_assoc]
    have hnext := ih (by omega) hb
    rw [hdone] at hnext
    rw [Nat.add_comm (n * length) length, ← Nat.add_assoc]
    simp [takeRows?, hmark, hdata, hnext]

theorem mul_rowLength (p : Pixels) :
    p.height.toNat * rowLength p.canvas = p.width.toNat * p.height.toNat * 4 := by
  calc p.height.toNat * (4 * p.width.toNat)
      = 4 * (p.height.toNat * p.width.toNat) := Nat.mul_left_comm _ _ _
    _ = p.width.toNat * p.height.toNat * 4 := by
      rw [Nat.mul_comm 4, Nat.mul_comm p.height.toNat]

theorem takeRows?_rows {p : Pixels} (hp : p.Filled) :
    takeRows? (rowLength p.canvas) (rows p) p.height.toNat 0 .empty = some p.trimmed.data := by
  have hsize := mul_rowLength p
  have hfits : 0 + p.height.toNat * rowLength p.canvas ≤ p.data.size := by
    rw [Nat.zero_add, hsize]
    exact hp
  have hread : takeRows? (rowLength p.canvas) (rows p) p.height.toNat ByteArray.empty.size
      (p.data.extract 0 0) = some (p.data.extract 0 (0 + p.height.toNat * rowLength p.canvas)) :=
    takeRows?_pushRows hfits rfl
  simpa [hsize, Pixels.trimmed] using hread

/-! ## Files -/

/-- The data is cut into chunks that are not too long and that make it up. -/
theorem mem_dataChunks {data : ByteArray} {i : Nat} {c : Chunk} (h : c ∈ dataChunks data i) :
    c.name = dataName ∧ c.data.size ≤ maxChunk := by
  fun_induction dataChunks data i with
  | case1 i hmore ih =>
    rcases List.mem_cons.1 h with rfl | h
    · exact ⟨rfl, Nat.le_of_eq (size_extract_of_le (Nat.le_of_lt hmore))⟩
    · exact ih h
  | case2 i hlast =>
    obtain rfl := List.mem_singleton.1 h
    refine ⟨rfl, ?_⟩
    simp only [ByteArray.size_extract]
    omega

theorem foldl_dataChunks (data : ByteArray) (i : Nat) (out : ByteArray) :
    (dataChunks data i).foldl (fun b c => b ++ c.data) out = out ++ data.extract i data.size := by
  fun_induction dataChunks data i generalizing out with
  | case1 i hmore ih =>
    have hstop : i + maxChunk ≤ data.size := Nat.le_of_lt hmore
    have hstart : i ≤ i + maxChunk := Nat.le_add_right i maxChunk
    rw [List.foldl_cons, ih, ByteArray.append_assoc, ByteArray.extract_append_extract,
      Nat.min_eq_left hstart, Nat.max_eq_right hstop]
  | case2 i hlast => rfl

theorem fits_of_mem_parts {p : Pixels} {c : Chunk} (h : c ∈ parts p) : c.Fits := by
  have hlimit : maxChunk < 0x100000000 := by decide
  simp only [parts, List.mem_cons, List.mem_append, List.not_mem_nil, or_false] at h
  obtain rfl | h | rfl := h
  · exact ⟨rfl, (by decide : 13 < 0x100000000)⟩
  · obtain ⟨hname, hsize⟩ := mem_dataChunks h
    exact ⟨hname ▸ rfl, Nat.lt_of_le_of_lt hsize hlimit⟩
  · exact ⟨rfl, by decide⟩

theorem chunks?_file (p : Pixels) : chunks? (file p) = some (parts p) := by
  have h : Lies (signature ++ Chunk.all (parts p)) (file p) 0 := Lies.whole (file p)
  have hhead : slice? (file p) 0 signature.size = some signature := h.left.slice?_eq
  have hsame : (signature == signature) = true := by decide
  have hsize : (file p).size = signature.size + (Chunk.all (parts p)).size :=
    ByteArray.size_append
  have hfuel : (parts p).length < (file p).size := by
    have hlength := Chunk.length_le_size_all fun c => fits_of_mem_parts (p := p) (c := c)
    have hsignature : signature.size = 8 := rfl
    omega
  have hread : Chunk.readAll? (file p) (file p).size signature.size = some (parts p) :=
    Chunk.readAll?_all (fun c => fits_of_mem_parts) (by simpa using h.right) hsize.symm hfuel
  simp [chunks?, hhead, hsame, hread]

/-- Chunks of data are taken for the data and for nothing else. -/
theorem filter_dataChunks (data : ByteArray) (i : Nat) (name : ByteArray) :
    (dataChunks data i).filter (fun c => c.name == name) =
      if dataName == name then dataChunks data i else [] := by
  split
  next hname =>
    exact List.filter_eq_self.2 fun c hc => (mem_dataChunks hc).1 ▸ hname
  next hname =>
    exact List.filter_eq_nil_iff.2 fun c hc => (mem_dataChunks hc).1 ▸ hname

theorem joined_header (p : Pixels) : joined headerName (parts p) = header p.canvas := by
  simp [joined, parts, filter_dataChunks, show (headerName == headerName) = true by decide,
    show (dataName == headerName) = false by decide,
    show (endName == headerName) = false by decide]

theorem joined_data (p : Pixels) : joined dataName (parts p) = Stored.wrap (rows p) := by
  simp [joined, parts, filter_dataChunks, foldl_dataChunks,
    show (headerName == dataName) = false by decide,
    show (dataName == dataName) = true by decide,
    show (endName == dataName) = false by decide]

/-- Reading a file gives back the picture it was made of, up to its last pixel. -/
theorem decode?_file {p : Pixels} (hp : p.Filled) : decode? (file p) = some p.trimmed := by
  have hrows : takeRows? (rowLength p.canvas) (rows p) p.canvas.height.toNat 0 .empty =
      some p.trimmed.data := takeRows?_rows hp
  simp only [decode?, chunks?_file, joined_header, readHeader?_header, joined_data,
    Stored.unwrap?_wrap, hrows, Option.bind_eq_bind, Option.bind_some, Option.pure_def]
  rfl

/-! ## Codecs -/

namespace Codec

/-- What a codec writes it reads as it was, and it refuses pictures without an edge. -/
structure Lossless (codec : Codec) : Prop where
  refuses : ∀ p : Pixels, p.Whole → p.width = 0 ∨ p.height = 0 →
    ∃ reason, codec.encode p = .error reason
  decodes : ∀ (p : Pixels) (content : ByteArray), p.Whole → codec.encode p = .ok content →
    codec.decode? content = some p

/-- All whole pictures of a size have files. -/
def Supports (codec : Codec) (c : Canvas) : Prop :=
  ∀ p : Pixels, p.canvas = c → p.Whole → ∃ content, codec.encode p = .ok content

theorem encode_plain {p : Pixels} (hwidth : p.width ≠ 0) (hheight : p.height ≠ 0) :
    plain.encode p = .ok (file p) := by
  simp [plain, hwidth, hheight]

theorem exists_encode_plain_eq_error {p : Pixels} (hzero : p.width = 0 ∨ p.height = 0) :
    ∃ reason, plain.encode p = .error reason := by
  by_cases hwidth : p.width = 0
  · exact ⟨_, if_pos hwidth⟩
  · exact ⟨_, (if_neg hwidth).trans (if_pos (hzero.resolve_left hwidth))⟩

theorem plain_lossless : plain.Lossless where
  refuses _ _ := exists_encode_plain_eq_error
  decodes p content hp hcontent := by
    obtain ⟨hwidth, hheight⟩ : p.width ≠ 0 ∧ p.height ≠ 0 := by
      refine not_or.1 fun hzero => ?_
      obtain ⟨reason, hreason⟩ := exists_encode_plain_eq_error hzero
      exact absurd (hreason.symm.trans hcontent) nofun
    obtain rfl := Except.ok.inj ((encode_plain hwidth hheight).symm.trans hcontent)
    exact (decode?_file hp.filled).trans (congrArg some hp.trimmed_eq)

/-- Plain files have room for all sizes with edges. -/
theorem plain_supports {c : Canvas} (hwidth : c.width ≠ 0) (hheight : c.height ≠ 0) :
    plain.Supports c := by
  rintro p rfl -
  exact ⟨_, encode_plain hwidth hheight⟩

end Codec

end Png

end Caption
