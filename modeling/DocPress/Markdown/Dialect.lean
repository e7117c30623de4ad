import DocPress.Engine
import DocPress.Text.Search
import DocPress.Value.Mapping

/-!
# Dialects

A dialect is plain Markdown with some extensions.  Extensions go by the name of
the module that brings them; the modules of the core collection also go by their
last component alone.

Main results:

- `ofName?_longName`: the long and the short name of an extension mean the same.
-/

namespace DocPress.Markdown

/-- Something that plain Markdown does not have. -/
inductive Extension where
  | abbreviations
  | attributeLists
  | definitionLists
  | footnotes
  | tables
  | fences
  | tildes
  | markedBlocks
  | contents
  | lineBreaks
  | saneLists
  deriving DecidableEq

namespace Extension

/-- The extensions of the core collection, by their short names. -/
def core : List (String × Extension) :=
  [("abbr", abbreviations), ("attr_list", attributeLists), ("def_list", definitionLists),
    ("footnotes", footnotes), ("tables", tables), ("md_in_html", markedBlocks),
    ("toc", contents), ("nl2br", lineBreaks), ("sane_lists", saneLists)]

/-- The extensions of other collections. -/
def others : List (String × Extension) :=
  [("pymdownx.superfences", fences), ("pymdownx.tilde", tildes)]

/-- The long name of an extension of the core collection. -/
def longName (short : String) : String :=
  "markdown.extensions." ++ short

/-- Every name with its extension. -/
def names : List (String × Extension) :=
  core ++ core.map (fun entry => (longName entry.1, entry.2)) ++ others

/-- The extension of a name; the case of a name matters. -/
def ofName? (name : String) : Option Extension :=
  names.lookup name

/-- The long and the short name of an extension mean the same. -/
theorem ofName?_longName : ∀ entry ∈ core, ofName? (longName entry.1) = ofName? entry.1 := by
  decide

/-- The collections that exist. -/
def collections : List String := ["markdown", "markdown.extensions", "pymdownx"]

/-- The first part of a dotted name, longest first, that names nothing though
what precedes it is a collection. -/
def missingPart (name : String) : String :=
  let parts := Text.splitAt '.' name.toList
  let upTo := fun n => String.ofList (Text.joinWith ['.'] (parts.take n))
  let lengths := (List.range parts.length).map (· + 1)
  ((lengths.map upTo).find? fun part => !collections.contains part).getD name

end Extension

/-- Plain Markdown with some extensions; identifiers of footnotes may be unique
across documents. -/
structure Dialect where
  extensions : List Extension
  uniqueNotes : Bool

namespace Dialect

/-- Whether a dialect has an extension. -/
def has (d : Dialect) (extension : Extension) : Bool :=
  d.extensions.contains extension

/-- The extensions of some names, or the name of what does not exist. -/
def ofNames : List String → Except String (List Extension)
  | [] => .ok []
  | name :: rest =>
    match Extension.ofName? name with
    | none => .error (Extension.missingPart name)
    | some extension => (ofNames rest).map (extension :: ·)

/-- Whether the configuration of an extension asks for unique identifiers. -/
def asksUnique (configurations : Mapping) (name : String) : Bool :=
  match configurations.find? fun entry => entry.1.text? == some name with
  | some (_, .map options) => options.any fun entry =>
      entry.1.text? == some "UNIQUE_IDS" && match entry.2 with
        | .bool b => b
        | _ => false
  | _ => false

/-- The dialect of a setup.  Of the names for footnotes the last one counts. -/
def ofSetup (setup : EngineSetup) : Except String Dialect :=
  (ofNames setup.extensions).map fun extensions =>
    let notes := setup.extensions.filter fun name => Extension.ofName? name == some .footnotes
    ⟨extensions, notes.getLast?.any (asksUnique setup.configurations)⟩

end Dialect

end DocPress.Markdown
