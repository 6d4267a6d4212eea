import Caption.Error

/-!
# Files and folders

A tree of files as a list of places. A place is the list of names that leads to it from the
root; a path is text that is walked name by name, from the root or from the working folder.

## Main definitions

* `FileTree.locate`: the place a path leads to
* `FileTree.read`, `FileTree.write`, `FileTree.remove?`
* `FileTree.filesUnder`: all files in a folder and the folders in it
-/
namespace Caption

/-- The names from the root on. -/
abbrev Place := List String

structure FileTree where
  files : List (Place × ByteArray)
  /-- Folders that need not hold anything. -/
  folders : List Place
  /-- Where paths without a slash in front start. -/
  here : Place

namespace FileTree

def file? (t : FileTree) (p : Place) : Option ByteArray := t.files.lookup p

def isFile (t : FileTree) (p : Place) : Bool := (t.file? p).isSome

/-- The root, the folders named as such, and all that lead to one of them or to a file. -/
def isFolder (t : FileTree) (p : Place) : Bool :=
  p.isEmpty || p.isPrefixOf t.here || t.folders.any p.isPrefixOf ||
    t.files.any fun f => p != f.1 && p.isPrefixOf f.1

/-- Goes on to a name from a place. -/
def step (t : FileTree) (p : Place) (name : String) : Except FileError Place :=
  if t.isFile p then .error .notDirectory
  else if name = "" ∨ name = "." then .ok p
  else if name = ".." then .ok p.dropLast
  else
    let next := p ++ [name]
    if t.isFile next || t.isFolder next then .ok next else .error .notFound

def names (path : String) : List String := path.splitOn "/"

/-- Where a path starts. -/
def start (t : FileTree) (path : String) : Except FileError Place :=
  if path.toList.contains '\x00' then .error .zeroInPath
  else
    match path.toList with
    | [] => .error .notFound
    | '/' :: _ => .ok []
    | _ => .ok t.here

def locate (t : FileTree) (path : String) : Except FileError Place := do
  (names path).foldlM t.step (← t.start path)

def read (t : FileTree) (path : String) : Except FileError ByteArray := do
  match t.file? (← t.locate path) with
  | some content => .ok content
  | none => .error .isDirectory

/-- Where a file of this path would lie. Its folder must be there. A path with a slash at the
end means a folder, even one that is not there. -/
def target (t : FileTree) (path : String) : Except FileError Place := do
  let back := (names path).reverse.dropWhile (· = "")
  let p ← back.tail.reverse.foldlM t.step (← t.start path)
  let p ← t.step p "."
  match back with
  | [] => .error .isDirectory
  | name :: _ =>
    if (names path).getLast? = some "" ∨ name = "." ∨ name = ".." ∨ t.isFolder (p ++ [name]) then
      .error .isDirectory
    else .ok (p ++ [name])

def put (t : FileTree) (p : Place) (content : ByteArray) : FileTree :=
  { t with files := (p, content) :: t.files.filter fun f => f.1 != p }

/-- Makes a file or replaces what it holds. -/
def write (t : FileTree) (path : String) (content : ByteArray) : Except FileError FileTree := do
  return t.put (← t.target path) content

/-- Removes a file, if the path leads to one. -/
def remove? (t : FileTree) (path : String) : Option FileTree :=
  match t.locate path with
  | .ok p =>
    if t.isFile p then some { t with files := t.files.filter fun f => f.1 != p } else none
  | .error _ => none

/-- The path of a place from the root on. -/
def pathOf (p : Place) : String := "/" ++ "/".intercalate p

/-- The places of the files in a folder, at any depth; none if the path leads to no folder. -/
def filesUnder (t : FileTree) (path : String) : List Place :=
  match t.locate path with
  | .ok p => (t.files.map Prod.fst).filter fun f => f != p && p.isPrefixOf f
  | .error _ => []

/-- What follows the last dot of a file's name, unless the name starts with it. -/
def extension? (name : String) : Option String :=
  let back := name.toList.reverse
  let ending := back.takeWhile (· ≠ '.')
  if ending.length + 1 < back.length then some (String.ofList ending.reverse) else none

end FileTree

end Caption
