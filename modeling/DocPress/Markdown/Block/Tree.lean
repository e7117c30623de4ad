import DocPress.Markdown.Block.Declaration
import DocPress.Markdown.Block.Item
import DocPress.Markdown.Block.Marked
import DocPress.Markdown.Block.Plain
import DocPress.Markdown.Block.Table

/-!
# The tree of blocks

The rules of a dialect are tried in order on the first block; the first that
applies reads it.  The last rule applies everywhere.
-/

namespace DocPress.Markdown.Block

/-- Some rules if a dialect has an extension. -/
def ifHas (d : Dialect) (extension : Extension) (rules : List Rule) : List Rule :=
  if d.has extension then rules else []

/-- The rules of a dialect, in order. -/
def rules (d : Dialect) : List Rule :=
  let sane := d.has .saneLists
  ifHas d .markedBlocks [marked] ++ [empty, nested listNesting] ++
    ifHas d .definitionLists [nested definitionNesting] ++ [code (d.has .fences)] ++
    ifHas d .tables [Table.rule] ++
    [signedHeading, underlinedHeading, thematicBreak, list ⟨true, sane⟩, list ⟨false, sane⟩] ++
    ifHas d .definitionLists [definition] ++ [quotation] ++
    ifHas d .footnotes [noteDeclaration] ++
    ifHas d .abbreviations [abbreviationDeclaration] ++ [targetDeclaration, paragraph]

/-- What the first applicable rule makes of a site. -/
def apply (reader : Reader) (site : Site) : List Rule → Option (Collect Outcome)
  | [] => none
  | rule :: others =>
    match rule reader site with
    | some outcome => some outcome
    | none => apply reader site others

/-- Read blocks into an element.  The fuel bounds how deep blocks nest and how
many follow each other. -/
def read (rules : List Rule) : (fuel : Nat) → Reader
  | 0, _, parent, _ => pure parent
  | _, _, parent, [] => pure parent
  | fuel + 1, modes, parent, block :: rest =>
    match apply (read rules fuel) ⟨modes, parent, block, rest⟩ rules with
    | none => read rules fuel modes parent rest
    | some outcome => do
      let (parent, rest) ← outcome
      read rules fuel modes parent rest

/-- A bound for the steps that a text takes. -/
def fuelFor (text : Prose) : Nat :=
  4 * text.length + 64

/-- Read a text into an element. -/
def readInto (d : Dialect) (parent : Element) (text : Prose) : Collect Element :=
  read (rules d) (fuelFor text) [] parent (Prose.blocks text)

end DocPress.Markdown.Block
