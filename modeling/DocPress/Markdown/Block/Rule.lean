import DocPress.Markdown.Definitions
import DocPress.Markdown.Dialect
import DocPress.Markdown.Pattern
import DocPress.Markdown.Source

/-!
# Rules for blocks

Blocks are read one by one into an element.  A rule looks at the first block and
at the element so far; if it applies, it reads the block and says which blocks
are left.  What a rule needs to read inside of its block it reads with the
reader that it is given.
-/

namespace DocPress.Markdown.Block

/-! ## Rules -/

/-- What the blocks stand in. -/
inductive Mode where
  | list
  | looseList
  | detabbed
  | quotation
  deriving DecidableEq

/-- A reader of blocks into an element, in a mode. -/
abbrev Reader := List Mode → Element → List Prose → Collect Element

/-- Where a rule is tried: the modes, innermost first, the element so far, the
first block and the blocks behind it. -/
structure Site where
  modes : List Mode
  parent : Element
  block : Prose
  rest : List Prose

/-- What a rule leaves: the element and the blocks still to be read. -/
abbrev Outcome := Element × List Prose

/-- A rule: how to read at a site, if it applies there. -/
abbrev Rule := Reader → Site → Option (Collect Outcome)

namespace Site

/-- Whether the innermost mode is a given one. -/
def isIn (site : Site) (mode : Mode) : Bool :=
  site.modes.head? == some mode

/-- Read blocks into an element in the mode of the site. -/
def read (site : Site) (reader : Reader) (parent : Element) (blocks : List Prose) :
    Collect Element :=
  reader site.modes parent blocks

/-- Read blocks into an element in a further mode. -/
def readIn (site : Site) (reader : Reader) (mode : Mode) (parent : Element)
    (blocks : List Prose) : Collect Element :=
  reader (mode :: site.modes) parent blocks

/-- The blocks behind the first, with a block in front of them unless it is empty. -/
def restAfter (site : Site) (block : Prose) : List Prose :=
  if block.isEmpty then site.rest else block :: site.rest

end Site

/-! ## Indentation -/

/-- Whether a text starts with a whole step of indentation. -/
def isIndented (text : Prose) : Bool :=
  Prose.isIndented text Source.tabWidth

/-- The lines at the start that are indented or empty, each without one step, and
the other lines. -/
def splitIndented : List Prose → List Prose × List Prose
  | [] => ([], [])
  | line :: rest =>
    if isIndented line then
      let (inner, outer) := splitIndented rest
      (line.drop Source.tabWidth :: inner, outer)
    else if Prose.isBlank line then
      let (inner, outer) := splitIndented rest
      ([] :: inner, outer)
    else ([], line :: rest)

/-- The indented part at the start of a text, one step to the left, and the rest. -/
def detab (text : Prose) : Prose × Prose :=
  let (inner, outer) := splitIndented (Prose.lines text)
  (Prose.unlines inner, Prose.unlines outer)

/-- A text with its lines some steps to the left, where they are indented so far. -/
def looseDetab (text : Prose) (steps : Nat) : Prose :=
  Prose.unlines <| (Prose.lines text).map fun line =>
    if Prose.isIndented line (Source.tabWidth * steps) then line.drop (Source.tabWidth * steps)
    else line

/-! ## Elements that hold blocks -/

/-- Change the last element inside with a reader. -/
def mapLast (f : Element → Collect Element) (e : Element) : Collect Element :=
  match e.splitLast? with
  | none => pure e
  | some (before, child, tail) => do
    let child ← f child
    pure { e with content := before ++ .element child :: tail }

/-- Change the element some steps inside, the last one at every step. -/
def mapInside (f : Element → Collect Element) : (steps : Nat) → Element → Collect Element
  | 0, e => f e
  | steps + 1, e => mapLast (mapInside f steps) e

/-- An element whose text, if there is any, stands in a paragraph. -/
def wrapText (e : Element) : Element :=
  let text := e.leadingText
  if text.isEmpty then e
  else { e with content := .element (.of "p" text) :: e.afterText }

end DocPress.Markdown.Block
