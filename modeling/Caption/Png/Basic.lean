import Caption.Png.Codec
import Caption.Png.Stored

/-!
# Plain PNG images

A codec that writes pictures of four bytes a pixel without filters and without compression, and
reads what it has written. A file is a signature and a list of named chunks: the header, the rows
with a filter mark in front of each, and an end mark.

## Main definitions

* `Png.file`: the file of a picture
* `Png.decode?`: the picture of such a file
* `Png.Codec.plain`: the codec
-/
namespace Caption

namespace Png

open Bytes

def signature : ByteArray := ⟨#[137, 80, 78, 71, 13, 10, 26, 10]⟩

/-! ## Chunks -/

structure Chunk where
  /-- Four letters. -/
  name : ByteArray
  data : ByteArray

def headerName : ByteArray := ⟨#[73, 72, 68, 82]⟩

def dataName : ByteArray := ⟨#[73, 68, 65, 84]⟩

def endName : ByteArray := ⟨#[73, 69, 78, 68]⟩

namespace Chunk

def bytes (c : Chunk) : ByteArray :=
  be32 c.data.size ++ c.name ++ c.data ++ be32 (Checksum.crc (c.name ++ c.data)).toNat

/-- The bytes of some chunks one after the other. -/
def all : List Chunk → ByteArray
  | [] => .empty
  | c :: cs => c.bytes ++ all cs

/-- The chunk that starts at `i`, and where it ends. -/
def readAt? (b : ByteArray) (i : Nat) : Option (Chunk × Nat) := do
  let length ← u32? b i
  let c : Chunk := ⟨← slice? b (i + 4) 4, ← slice? b (i + 8) length⟩
  if (← u32? b (i + 8 + length)) = (Checksum.crc (c.name ++ c.data)).toNat then
    some (c, i + 12 + length)
  else none

/-- The chunks from `i` to the end, at most `n` of them. -/
def readAll? (b : ByteArray) : Nat → Nat → Option (List Chunk)
  | 0, _ => none
  | n + 1, i =>
    if i = b.size then some []
    else do
      let (c, next) ← readAt? b i
      return c :: (← readAll? b n next)

end Chunk

def chunks? (b : ByteArray) : Option (List Chunk) := do
  let head ← slice? b 0 signature.size
  if head == signature then Chunk.readAll? b b.size signature.size else none

/-! ## Header -/

/-- Eight bits a channel, colour with alpha, the usual methods, rows in order. -/
def headerTail : ByteArray := ⟨#[8, 6, 0, 0, 0]⟩

def header (c : Canvas) : ByteArray := be32 c.width.toNat ++ be32 c.height.toNat ++ headerTail

def readHeader? (b : ByteArray) : Option Canvas := do
  let tail ← slice? b 8 5
  if tail == headerTail && b.size == 13 then
    return ⟨(← u32? b 0).toUInt32, (← u32? b 4).toUInt32⟩
  else none

/-! ## Rows -/

def rowLength (c : Canvas) : Nat := 4 * c.width.toNat

/-- The mark of a row that is written as it is. -/
def plainRow : UInt8 := 0

/-- Appends `n` rows from `i` on. -/
def pushRows (length : Nat) (data : ByteArray) : Nat → Nat → ByteArray → ByteArray
  | 0, _, out => out
  | n + 1, i, out =>
    pushRows length data n (i + length) (out.push plainRow ++ data.extract i (i + length))

def rows (p : Pixels) : ByteArray :=
  pushRows (rowLength p.canvas) p.data p.height.toNat 0 .empty

/-- Collects `n` rows from `i` on. -/
def takeRows? (length : Nat) (b : ByteArray) : Nat → Nat → ByteArray → Option ByteArray
  | 0, i, out => if i = b.size then some out else none
  | n + 1, i, out => do
    let row ← slice? b (i + 1) length
    if (← byte? b i) = plainRow.toNat then takeRows? length b n (i + 1 + length) (out ++ row)
    else none

/-! ## Files -/

/-- The most bytes that a chunk may hold. -/
def maxChunk : Nat := 0x7FFFFFFF

/-- The data from `i` on in as few chunks as will hold it. -/
def dataChunks (data : ByteArray) (i : Nat) : List Chunk :=
  if i + maxChunk < data.size then
    ⟨dataName, data.extract i (i + maxChunk)⟩ :: dataChunks data (i + maxChunk)
  else [⟨dataName, data.extract i data.size⟩]
termination_by data.size - i
decreasing_by simp only [maxChunk] at *; omega

/-- The chunks of a picture's file. -/
def parts (p : Pixels) : List Chunk :=
  ⟨headerName, header p.canvas⟩ :: (dataChunks (Stored.wrap (rows p)) 0 ++ [⟨endName, .empty⟩])

def file (p : Pixels) : ByteArray := signature ++ Chunk.all (parts p)

/-- The data of all chunks of a name, put together. -/
def joined (name : ByteArray) (cs : List Chunk) : ByteArray :=
  (cs.filter fun c => c.name == name).foldl (fun b c => b ++ c.data) .empty

def decode? (b : ByteArray) : Option Pixels := do
  let cs ← chunks? b
  let canvas ← readHeader? (joined headerName cs)
  let raw ← Stored.unwrap? (joined dataName cs)
  let data ← takeRows? (rowLength canvas) raw canvas.height.toNat 0 .empty
  return ⟨canvas.width, canvas.height, data⟩

/-- A picture has a file unless an edge is zero. -/
def Codec.plain : Codec where
  encode p :=
    if p.width = 0 then .error "Zero width not allowed"
    else if p.height = 0 then .error "Zero height not allowed"
    else .ok (file p)
  decode? := Png.decode?

end Png

end Caption
