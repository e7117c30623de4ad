import DocPress.Disk.Fault
import DocPress.Path
import DocPress.Text.Utf8

/-!
# Disks

What the library needs of a file system, and a file system as a tree of names.
The library's own operations work on any disk; the tree is a disk whose state
can be looked at.

Main results:

- `Tree.lookup_put_self` and `Tree.lookup_put_of_ne`: writing one file changes no other.
-/

namespace DocPress

/-! ## Disks -/

/-- What a path leads to. -/
inductive DiskEntry where
  | file
  | directory
deriving DecidableEq, Repr

/-- A file system with effects in a monad. -/
structure Disk (m : Type → Type) where
  /-- A path made absolute, steps to the parent resolved. -/
  absolute : Path → m Path
  entry : Path → m (Option DiskEntry)
  read : Path → m (Except DiskFault (List UInt8))
  write : Path → List UInt8 → m (Except DiskFault Unit)
  makeDirectory : Path → m (Except DiskFault Unit)

/-- The way to a name below a base, steps to the parent resolved on the names. -/
def Path.collapse (names : List (List Char)) : List (List Char) :=
  names.foldl (fun way name => if name = ['.', '.'] then way.dropLast else way ++ [name]) []

namespace Disk

variable {m : Type → Type} [Monad m]

/-- Whether a path leads to a directory. -/
def isDirectory (disk : Disk m) (path : Path) : m Bool := do
  return (← disk.entry path) == some .directory

/-- The result of making a directory; that it is there already is no fault. -/
def tolerant (disk : Disk m) (path : Path) (result : Except DiskFault Unit) :
    m (Except DiskFault Unit) := do
  match result with
  | .ok () => return .ok ()
  | .error fault =>
    if (← disk.isDirectory path) then return .ok () else return .error fault

/-- Make a directory and those above it that are missing, given how many names
the path has. -/
def makeDirectories (disk : Disk m) : Nat → Path → m (Except DiskFault Unit)
  | 0, path => disk.makeDirectory path
  | depth + 1, path => do
    match ← disk.makeDirectory path with
    | .ok () => return .ok ()
    | .error fault =>
      if fault.reason = .notFound then
        match ← makeDirectories disk depth path.parent with
        | .error fault => return .error fault
        | .ok () => disk.tolerant path (← disk.makeDirectory path)
      else disk.tolerant path (.error fault)

/-- Write a text to a path, making the directories above it. -/
def writeText (disk : Disk m) (path : Path) (text : String) : m (Except DiskFault Unit) := do
  match ← disk.makeDirectories (path.names.length + 1) path.parent with
  | .error fault => return .error fault
  | .ok () => disk.write path (Text.encode text.toList)

end Disk

/-! ## Trees -/

/-- A file with its bytes, or a directory. -/
inductive TreeNode where
  | file (bytes : List UInt8)
  | directory
deriving DecidableEq, Repr

/-- A file system as a list of nodes by the names on the way to them, and the
directory where relative paths start. -/
structure Tree where
  home : List (List Char) := []
  nodes : List (List (List Char) × TreeNode) := []
deriving Repr

namespace Tree

/-- The node at the end of a way; the way without names leads to the root. -/
def lookup (tree : Tree) (way : List (List Char)) : Option TreeNode :=
  if way = [] then some .directory
  else (tree.nodes.find? fun entry => entry.1 == way).map Prod.snd

/-- Put a node at the end of a way. -/
def put (tree : Tree) (way : List (List Char)) (node : TreeNode) : Tree :=
  { tree with nodes := (way, node) :: tree.nodes.filter fun entry => entry.1 != way }

/-- What was put is found. -/
theorem lookup_put_self (tree : Tree) {way : List (List Char)} (node : TreeNode)
    (h : way ≠ []) : (tree.put way node).lookup way = some node := by
  simp [lookup, put, h]

/-- Putting a node changes no other. -/
theorem lookup_put_of_ne (tree : Tree) {way other : List (List Char)} (node : TreeNode)
    (h : other ≠ way) : (tree.put way node).lookup other = tree.lookup other := by
  by_cases ho : other = []
  · simp [lookup, ho]
  · have hw : (way == other) = false := by simpa using h.symm
    simp only [lookup, if_neg ho, put, List.find?_cons, hw]
    congr 1
    rw [List.find?_filter]
    congr 1
    funext entry
    by_cases he : entry.1 = other
    · simp [he, h]
    · simp [he]

/-- Follow names from a place; on the way there must be directories, and no name
may be longer than 255 bytes. -/
def follow (tree : Tree) (way : List (List Char)) :
    List (List Char) → Except DiskReason (List (List Char))
  | [] => .ok way
  | name :: names =>
    match tree.lookup way with
    | none => .error .notFound
    | some (.file _) => .error .notADirectory
    | some .directory =>
      if name = ['.', '.'] then follow tree way.dropLast names
      else if 255 < (Text.encode name).length then .error .nameTooLong
      else follow tree (way ++ [name]) names

/-- The way that a path leads. -/
def wayTo (tree : Tree) (path : Path) : Except DiskReason (List (List Char)) :=
  if 4096 ≤ (Text.encode path.text).length then .error .nameTooLong
  else tree.follow (if path.root = 0 then tree.home else []) path.names

/-- A reason as a fault of a path. -/
def faultAt (path : Path) (reason : DiskReason) : DiskFault :=
  ⟨reason, path.toString⟩

/-- Read a file. -/
def read (tree : Tree) (path : Path) : Except DiskFault (List UInt8) :=
  match tree.wayTo path with
  | .error reason => .error (faultAt path reason)
  | .ok way =>
    match tree.lookup way with
    | none => .error (faultAt path .notFound)
    | some .directory => .error (faultAt path .isADirectory)
    | some (.file bytes) => .ok bytes

/-- Write a file. -/
def write (tree : Tree) (path : Path) (bytes : List UInt8) : Except DiskFault Tree :=
  match tree.wayTo path with
  | .error reason => .error (faultAt path reason)
  | .ok way =>
    if tree.lookup way = some .directory then .error (faultAt path .isADirectory)
    else .ok (tree.put way (.file bytes))

/-- Make a directory. -/
def makeDirectory (tree : Tree) (path : Path) : Except DiskFault Tree :=
  match tree.wayTo path with
  | .error reason => .error (faultAt path reason)
  | .ok way =>
    if (tree.lookup way).isSome then .error (faultAt path .exists)
    else .ok (tree.put way .directory)

/-- What a path leads to. -/
def entry (tree : Tree) (path : Path) : Option DiskEntry :=
  match tree.wayTo path with
  | .error _ => none
  | .ok way =>
    (tree.lookup way).map fun
      | .file _ => .file
      | .directory => .directory

/-- A path made absolute. -/
def absolute (tree : Tree) (path : Path) : Path :=
  ⟨1, Path.collapse ((if path.root = 0 then tree.home else []) ++ path.names)⟩

/-- Keep the tree that an operation gives, or the fault. -/
def keeping (operation : Tree → Except DiskFault Tree) :
    StateM Tree (Except DiskFault Unit) := fun tree =>
  match operation tree with
  | .ok tree => (.ok (), tree)
  | .error fault => (.error fault, tree)

/-- The tree as a disk. -/
def disk : Disk (StateM Tree) where
  absolute path tree := (tree.absolute path, tree)
  entry path tree := (tree.entry path, tree)
  read path tree := (tree.read path, tree)
  write path bytes := keeping fun tree => tree.write path bytes
  makeDirectory path := keeping fun tree => tree.makeDirectory path

end Tree

end DocPress
