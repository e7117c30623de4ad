import DocPress.Text.LowerCase
import DocPress.Text.Search

/-!
# Paths

A path is a root and the names below it.  Reading a path drops empty names and
names that stand for the directory itself, but keeps steps to the parent; one
slash in front, or three and more, make an absolute path, and exactly two are
kept apart.

Main results:

- `extname?_eq_none_iff`: a path has no extension exactly if its last name has no
  suffix.
-/

namespace DocPress

/-- A path: how many slashes stand in front, and the names. -/
structure Path where
  root : Nat
  names : List (List Char)
deriving DecidableEq, Repr

namespace Path

/-! ## Reading and writing -/

/-- The number of slashes that a text's root is written with. -/
def rootOf : List Char → Nat
  | '/' :: '/' :: '/' :: _ => 1
  | '/' :: '/' :: _ => 2
  | '/' :: _ => 1
  | _ => 0

/-- Whether a name counts: neither empty nor the directory itself. -/
def isName (name : List Char) : Bool :=
  name != [] && name != ['.']

/-- Read a path. -/
def ofText (text : List Char) : Path :=
  ⟨rootOf text, (Text.splitAt '/' text).filter isName⟩

/-- Write a path; the empty path is the directory itself. -/
def text (path : Path) : List Char :=
  if path.root = 0 ∧ path.names = [] then ['.']
  else List.replicate path.root '/' ++ Text.joinWith ['/'] path.names

/-- Write a path as a string. -/
def toString (path : Path) : String :=
  String.ofList path.text

/-- Read a path from a string. -/
def ofString (s : String) : Path :=
  ofText s.toList

/-! ## The last name -/

/-- The last name, empty for a root or the directory itself. -/
def name (path : Path) : List Char :=
  path.names.getLastD []

/-- A name cut before its last dot, if something stands on both sides of it. -/
def splitSuffix (name : List Char) : List Char × List Char :=
  match name.reverse.span (· ≠ '.') with
  | (tail@(_ :: _), '.' :: front@(_ :: _)) => (front.reverse, '.' :: tail.reverse)
  | _ => (name, [])

/-- The suffix of the last name with its dot, empty if there is none. -/
def suffix (path : Path) : List Char :=
  (splitSuffix path.name).2

/-- The last name without its suffix. -/
def stem (path : Path) : List Char :=
  (splitSuffix path.name).1

/-- The suffix in lower case, if there is one. -/
def extname? (path : Path) : Option String :=
  if path.suffix = [] then none else some (String.ofList (Text.lower path.suffix))

/-- A path has no extension exactly if its last name has no suffix. -/
theorem extname?_eq_none_iff {path : Path} : path.extname? = none ↔ path.suffix = [] := by
  simp [extname?]

/-! ## Neighbours -/

/-- The directory that holds the last name; a root is its own. -/
def parent (path : Path) : Path :=
  { path with names := path.names.dropLast }

/-- A path seen from another: an absolute one stands for itself. -/
def under (base path : Path) : Path :=
  if path.root = 0 then { base with names := base.names ++ path.names } else path

end Path

end DocPress
