/-!
# Document formats

There are two dialects, plain Markdown and Markdown with components.  Each has
file extensions by which its documents are known and engine extensions that are
always on.

Main results:

- `ofName?_eq_some_iff`: a name denotes exactly the format it is the name of.
-/

namespace DocPress

/-- A dialect of documents. -/
inductive DocumentFormat where
  | md
  | mdx
deriving DecidableEq, Repr

namespace DocumentFormat

/-- The name of a format. -/
def name : DocumentFormat → String
  | .md => "md"
  | .mdx => "mdx"

/-- All formats. -/
def all : List DocumentFormat :=
  [.md, .mdx]

/-- The format with a name. -/
def ofName? (name : String) : Option DocumentFormat :=
  if name = "md" then some .md else if name = "mdx" then some .mdx else none

/-- A name denotes exactly the format it is the name of. -/
theorem ofName?_eq_some_iff {name : String} {format : DocumentFormat} :
    ofName? name = some format ↔ format.name = name := by
  unfold ofName?
  split
  · subst name; cases format <;> decide
  · split
    · subst name; cases format <;> decide
    · cases format <;> simp_all [DocumentFormat.name, eq_comm]

/-- The file extensions of a format's documents. -/
def extensions : DocumentFormat → List String
  | .md => [".md", ".markdown", ".mdown", ".mkdn", ".mkd", ".mdwn", ".mkdown", ".ron"]
  | .mdx => [".mdx"]

/-- The engine extensions that are on for a format: component blocks may hold
Markdown only where there are components. -/
def engineExtensions : DocumentFormat → List String
  | .md =>
    ["abbr", "attr_list", "def_list", "footnotes", "tables", "pymdownx.superfences",
      "pymdownx.tilde"]
  | .mdx =>
    ["abbr", "attr_list", "def_list", "footnotes", "tables", "pymdownx.superfences",
      "pymdownx.tilde", "md_in_html"]

end DocumentFormat

end DocPress
