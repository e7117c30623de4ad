import DocPress.Markdown.Block.Rule
import DocPress.Text.LowerCase

/-!
# Declarations

Targets of links, abbreviations and footnotes are declared in lines of their own,
which leave nothing in the document.  What precedes or follows a declaration in
its block is read as a block of its own.
-/

namespace DocPress.Markdown.Block

/-- What is left of a block with a declaration taken out, in front of other
blocks. -/
def parted (before after : Prose) (rest : List Prose) : List Prose :=
  let rest := if Prose.isBlank after then rest else Prose.dropFeeds after :: rest
  if Prose.isBlank before then rest else Prose.dropFeedsRight before :: rest

/-! ## Targets of links -/

/-- The declaration of a target: a label, an address and perhaps a title. -/
def targetPattern : Pattern :=
  let spaces := Pattern.star (.is ' ')
  let quoted := fun (quote : Char) =>
    Pattern.is quote ++ .group 5 (.star .inLine) ++ .is quote ++ spaces
  .lineStart ++ .margin ++ .is '[' ++ .group 1 (.star (.noneOf "[]")) ++ .exactly "]:" ++ spaces ++
    .opt (.is '\n') ++ spaces ++ .group 2 (.plus .ink) ++ spaces ++
    .opt (.is '\n' ++ spaces) ++
    .opt (quoted '"' <|> quoted '\'' <|>
      (.is '(' ++ .group 6 (.star .inLine) ++ .is ')' ++ spaces)) ++
    .lineEnd

/-- A label as it is looked up. -/
def labelOf (text : Prose) : String :=
  String.ofList (Text.lower (Prose.chars text))

/-- The declaration of a target. -/
def targetDeclaration : Rule := fun _ site =>
  (targetPattern.search site.block).map fun m => do
    let address := Prose.dropRight (Piece.is '>') ((m.group 2).dropWhile (Piece.is '<'))
    let title := if (m.group 5).isEmpty then m.group 6 else m.group 5
    let target : Target :=
      ⟨Prose.toString address, if title.isEmpty then none else some (Prose.toString title)⟩
    modify (Definitions.addTarget (labelOf (Prose.strip (m.group 1))) target)
    pure (site.parent, parted m.preceding m.rest site.rest)

/-! ## Abbreviations -/

/-- The declaration of an abbreviation. -/
def abbreviationPattern : Pattern :=
  let spaces := Pattern.star (.is ' ')
  .lineStart ++ .exactly "*[" ++ .group 1 (.lazyStar (.noneOf "\\")) ++ .is ']' ++
    .opt (.is ' ') ++ .is ':' ++ spaces ++ .opt (.is '\n') ++ spaces ++
    .group 2 (.star .inLine) ++ .lineEnd

/-- Forget an abbreviation, which has to be declared. -/
def forgetAbbreviation (short : String) : Collect Unit := do
  let defs ← get
  if defs.abbreviations.any fun entry => entry.1 == short then
    set { defs with abbreviations := defs.abbreviations.filter fun entry => entry.1 != short }
  else throw ⟨.key, "'" ++ short ++ "'"⟩

/-- The declaration of an abbreviation; a pair of quotes takes one back. -/
def abbreviationDeclaration : Rule := fun _ site =>
  match abbreviationPattern.search site.block with
  | none => none
  | some m =>
    let short := Prose.toString (Prose.strip (m.group 1))
    let long := Prose.toString (Prose.strip (m.group 2))
    if short.isEmpty || long.isEmpty then none
    else some do
      if long = "''" || long = "\"\"" then forgetAbbreviation short
      else modify (Definitions.addAbbreviation short long)
      pure (site.parent, parted m.preceding m.rest site.rest)

/-! ## Footnotes -/

/-- The declaration of a footnote. -/
def notePattern : Pattern :=
  .lineStart ++ .margin ++ .exactly "[^" ++ .group 1 (.star (.noneOf "]")) ++ .exactly "]:" ++
    .star (.is ' ') ++ .group 2 (.star .inLine) ++ .lineEnd

/-- The indented blocks that go on with a footnote, one step to the left, and the
blocks behind them.  A further footnote ends the one before. -/
def noteBlocks : List Prose → List Prose × List Prose
  | [] => ([], [])
  | block :: rest =>
    if !isIndented block then ([], block :: rest)
    else match notePattern.search block with
      | some m =>
        ([looseDetab (Prose.dropFeedsRight m.preceding) 1],
          block.drop m.preceding.length :: rest)
      | none =>
        let (inner, outer) := noteBlocks rest
        (looseDetab block 1 :: inner, outer)

/-- Blocks with empty lines between them. -/
def joinBlocks : List Prose → Prose
  | [] => []
  | [block] => block
  | block :: rest => block ++ Prose.ofString "\n\n" ++ joinBlocks rest

/-- The declaration of a footnote, which takes the lines behind it along. -/
def noteDeclaration : Rule := fun _ site =>
  (notePattern.search site.block).map fun m => do
    let after := Prose.dropFeeds m.rest
    let withFirst := fun (text : Prose) => m.group 2 ++ .char '\n' :: looseDetab text 1
    let (text, rest) := match notePattern.search after with
      | some next =>
        (Prose.dropFeeds (withFirst (Prose.dropFeedsRight next.preceding)),
          after.drop next.preceding.length :: site.rest)
      | none =>
        let (inner, outer) := noteBlocks site.rest
        (joinBlocks (Prose.trim Piece.isFeed (withFirst after) :: inner), outer)
    modify (Definitions.addNote (Prose.toString (m.group 1)) (Prose.stripRight text))
    pure (site.parent, parted m.preceding [] rest)

end DocPress.Markdown.Block
