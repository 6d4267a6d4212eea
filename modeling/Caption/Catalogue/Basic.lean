import Caption.Catalogue.Match
import Caption.FileTree
import Caption.Font.Provider
import Caption.Log
import Caption.OpenType.Face
import Caption.OpenType.Names

/-!
# Catalogues of fonts

The faces that can be used, with their names and designs. A face is read from its file when it
is first asked for and kept from then on.

## Main definitions

* `Catalogue`: the faces known, and those read so far
* `Catalogue.addData`, `Catalogue.addFile`, `Catalogue.addFolder`
* `Catalogue.load`: the face nearest to a family and style
-/
namespace Caption

inductive FontSource where
  | memory (data : ByteArray)
  | file (path : String)

structure CatalogueEntry where
  /-- All names of the family, the one to list first. -/
  names : List String
  design : Design
  source : FontSource
  /-- The place within a collection. -/
  index : Nat

structure Catalogue where
  entries : List CatalogueEntry
  /-- Faces that have been read, by the place of their entries. -/
  faces : List (Nat × Typeface Float32)

namespace Catalogue

open OpenType

def empty : Catalogue := ⟨[], []⟩

/-- The number of faces known. -/
def size (c : Catalogue) : Nat := c.entries.length

/-- A font without names is left out. -/
def entryAt? (data : ByteArray) (source : FontSource) (index : Nat) : Option CatalogueEntry := do
  let d ← Directory.ofBytes? data index
  return ⟨← d.familyNames?, d.design, source, index⟩

def entriesOf (data : ByteArray) (source : FontSource) : List CatalogueEntry :=
  (List.range (fontCount data)).filterMap (entryAt? data source)

/-- Adds the fonts of a file that is in memory. What is no font adds nothing. -/
def addData (c : Catalogue) (data : ByteArray) : Catalogue :=
  { c with entries := c.entries ++ entriesOf data (.memory data) }

def addFile (c : Catalogue) (files : FileTree) (path : String) : Except FontError Catalogue :=
  match files.read path with
  | .ok data => .ok { c with entries := c.entries ++ entriesOf data (.file path) }
  | .error _ => .error (.fileNotFound path)

/-- Endings of font files; they are all in lower case or all in upper case. -/
def endings : List String := ["ttf", "ttc", "otf", "otc", "TTF", "TTC", "OTF", "OTC"]

def isFontPlace (p : Place) : Bool :=
  match p.getLast? >>= FileTree.extension? with
  | some ending => endings.contains ending
  | none => false

/-- Adds the font files in a folder, at any depth. -/
def withFolder (c : Catalogue) (files : FileTree) (path : String) : Catalogue :=
  ((files.filesUnder path).filter isFontPlace).foldl (fun c p =>
    match c.addFile files (FileTree.pathOf p) with
    | .ok c => c
    | .error _ => c) c

def addFolder (c : Catalogue) (files : FileTree) (path : String) : Logged Catalogue := do
  let d := c.withFolder files path
  Logged.detail ("Loaded " ++ toString (d.size - c.size) ++ " font faces from " ++ path)
  return d

/-- Drops what equals its left neighbour. -/
def dropRepeats : List String → List String
  | a :: b :: rest => if a == b then dropRepeats (b :: rest) else a :: dropRepeats (b :: rest)
  | names => names

/-- The first family name of each face, sorted, each once. -/
def families (c : Catalogue) : List String :=
  dropRepeats ((c.entries.filterMap fun e => e.names.head?).mergeSort fun a b => !(b < a))

/-- The entry nearest to a family and style, with its place. -/
def find? (c : Catalogue) (family : String) (style : Style) : Option (CatalogueEntry × Nat) :=
  (narrowed (fun e => e.1.design) style
    (c.entries.zipIdx.filter fun e => e.1.names.contains family)).head?

def FontSource.read? (files : FileTree) : FontSource → Option ByteArray
  | .memory data => some data
  | .file path => (files.read path).toOption

/-- Reads the face of an entry under the name it was asked for by. -/
def CatalogueEntry.read (files : FileTree) (e : CatalogueEntry) (family : String) :
    Except FontError (Typeface Float32) :=
  match FontSource.read? files e.source with
  | some data => do
    let face ← readFace data e.index family
    return face.withDesign e.design.isBold e.design.isSlanted
  | none => .error (.familyNotFound family)

/-- A face that has been read keeps the family name of its first request. -/
def load (files : FileTree) : FontProvider Catalogue := fun family style c =>
  match c.find? family style with
  | none => (.error (.familyNotFound family), c)
  | some (e, i) =>
    match c.faces.lookup i with
    | some face => (.ok face, c)
    | none =>
      match CatalogueEntry.read files e family with
      | .ok face => (.ok face, { c with faces := (i, face) :: c.faces })
      | .error cause => (.error cause, c)

end Catalogue

end Caption
