import DocPress.Engine
import DocPress.ErrorKind
import DocPress.Markdown.Element
import DocPress.Markdown.Pattern

/-!
# What a document defines

Besides its text a document may define the targets of links, the meanings of
abbreviations and the texts of footnotes.  They are collected while blocks are
read and used when spans are; abbreviations are marked last.

Main results:

- `lookup_define`: what was defined last under a name is what the name means.
-/

namespace DocPress.Markdown

/-- Define a name, in place if it was defined before and last if it was not. -/
def define {α : Type} (name : String) (value : α) : List (String × α) → List (String × α)
  | [] => [(name, value)]
  | (key, old) :: rest =>
    if key = name then (name, value) :: rest else (key, old) :: define name value rest

/-- What was defined last under a name is what the name means. -/
theorem lookup_define {α : Type} (name : String) (value : α) (entries : List (String × α)) :
    (define name value entries).lookup name = some value := by
  induction entries with
  | nil => simp [define]
  | cons entry rest ih =>
    obtain ⟨key, old⟩ := entry
    by_cases h : key = name
    · simp [define, h]
    · have h' : (name == key) = false := by simpa using fun hk => h hk.symm
      simp [define, h, List.lookup_cons, h', ih]

/-- The target of a link. -/
structure Target where
  address : String
  title : Option String

/-- What a document defines. -/
structure Definitions where
  targets : List (String × Target)
  abbreviations : List (String × String)
  notes : List (String × Prose)

namespace Definitions

/-- Nothing defined. -/
def empty : Definitions := ⟨[], [], []⟩

/-- Define the target of links with a label. -/
def addTarget (label : String) (target : Target) (defs : Definitions) : Definitions :=
  { defs with targets := define label target defs.targets }

/-- Define an abbreviation. -/
def addAbbreviation (short long : String) (defs : Definitions) : Definitions :=
  { defs with abbreviations := define short long defs.abbreviations }

/-- Define a footnote. -/
def addNote (label : String) (text : Prose) (defs : Definitions) : Definitions :=
  { defs with notes := define label text defs.notes }

end Definitions

/-- Reading that collects definitions and may fail. -/
abbrev Collect := StateT Definitions (Except Raised)

end DocPress.Markdown

namespace DocPress.Markdown.Abbreviation

/-! ## Abbreviations

Every whole word that was declared as an abbreviation gets an element that tells
what it means.  Of two abbreviations that both fit the longer one is taken. -/

/-- The element of an abbreviation. -/
def element (short : Prose) (long : String) : Element :=
  { (ElementOf.of "abbr" short).set "title" long with verbatim := true }

/-- Any of some words, the longer ones first, as a whole word. -/
def pattern (words : List String) : Pattern :=
  let sorted := words.mergeSort fun a b => a.length ≥ b.length
  let choice := sorted.foldr (fun word p => Pattern.exactly word <|> p) (.one fun _ => false)
  .wordEdge ++ choice ++ .wordEdge

/-- A text with its abbreviations as elements. -/
def mark (declared : List (String × String)) (text : Prose) : Prose :=
  if declared.isEmpty then text
  else
    let found := (pattern (declared.map Prod.fst)).allMatches text
    let step := fun (m : Match) (rest : Nat × Prose) =>
      let start := m.start.before.length
      let stop := m.stop.before.length
      let long := (declared.lookup (Prose.toString m.text)).getD ""
      (start, .element (element m.text long) :: ((text.take rest.1).drop stop ++ rest.2))
    let (start, marked) := found.foldr step (text.length, [])
    text.take start ++ marked

/-- An element with the abbreviations in it marked, as deep as the fuel reaches. -/
def markIn (declared : List (String × String)) : (fuel : Nat) → Element → Element
  | 0, e => e
  | fuel + 1, e =>
    let markText := fun (text : Prose) => if e.verbatim then text else mark declared text
    e.withParts (markText e.leadingText)
      (e.parts.map fun (child, tail) => (markIn declared fuel child, markText tail))

/-- An element with the abbreviations in it marked. -/
def apply (declared : List (String × String)) (e : Element) : Element :=
  if declared.isEmpty then e else markIn declared e.height e

end DocPress.Markdown.Abbreviation
