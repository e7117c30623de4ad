import DocPress.Markdown.Block.Rule
import DocPress.Markdown.Fence

/-!
# Headings, quotations, code and paragraphs

The blocks that are known by their first signs or by their indentation, and those
that are left when no other rule applies.
-/

namespace DocPress.Markdown.Block

/-! ## Headings and thematic breaks

A heading starts with number signs or is underlined; a thematic break is a line
of three or more hyphens, low lines or asterisks.  Each of them may stand between
other lines of its block. -/

/-- A line that starts with number signs; those at its end belong to no heading. -/
def signedPattern : Pattern :=
  (.behind (fun _ => false) true <|> .is '\n') ++ .group 1 (.times (.is '#') 1 6) ++
    .group 2 (.lazyStar ((.is '\\' ++ .inLine) <|> .noneOf "\\")) ++ .star (.is '#') ++
    (.is '\n' <|> .textEnd)

/-- A heading that starts with number signs, one for every level. -/
def signedHeading : Rule := fun reader site =>
  (signedPattern.search site.block).map fun m => do
    let before := m.preceding
    let parent ← if before.isEmpty then pure site.parent
      else site.read reader site.parent [before]
    let tag := "h" ++ toString (m.group 1).length
    let after := if site.isIn .looseList then looseDetab m.rest 1 else m.rest
    pure (parent.addChild (.of tag (Prose.strip (m.group 2))), site.restAfter after)

/-- Two lines of which the second underlines the first. -/
def underlinedPattern : Pattern :=
  .lazyStar .inLine ++ .is '\n' ++ .plus (.oneOf "=-") ++ .star (.is ' ') ++
    (.is '\n' <|> .lineEnd)

/-- The tag of a heading with an underline. -/
def underlinedTag (underline : Prose) : String :=
  if Prose.startsWith underline ['='] then "h1" else "h2"

/-- A heading with an underline. -/
def underlinedHeading : Rule := fun _ site =>
  match underlinedPattern.matchStart site.block, Prose.lines site.block with
  | some _, title :: underline :: others =>
    let heading := ElementOf.of (underlinedTag underline) (Prose.strip title)
    let rest := if others.isEmpty then site.rest else Prose.unlines others :: site.rest
    some (pure (site.parent.addChild heading, rest))
  | _, _ => none

/-- A line of one mark, with at most two spaces after each. -/
def breakPattern : Pattern :=
  let marks := fun (mark : Char) =>
    Pattern.many (.plus (.is mark) ++ .times (.is ' ') 0 2) 3 none true
  .lineStart ++ .margin ++
    .ahead (.group 1 (marks '-' <|> marks '_' <|> marks '*')) true ++ .again 1 ++
    .star (.is ' ') ++ .lineEnd

/-- A thematic break. -/
def thematicBreak : Rule := fun reader site =>
  (breakPattern.search site.block).map fun m => do
    let before := Prose.dropFeedsRight m.preceding
    let parent ← if before.isEmpty then pure site.parent
      else site.read reader site.parent [before]
    pure (parent.addChild (.bare "hr"), site.restAfter (Prose.dropFeeds m.rest))

/-! ## Quotations

The lines of a quotation start with a greater-than sign; lines that follow one
without it still belong to it. -/

/-- A line with the mark of a quotation. -/
def quotedPattern : Pattern :=
  (.behind (fun _ => false) true <|> .is '\n') ++ .margin ++ .is '>' ++ .opt (.is ' ') ++
    .group 1 (.star .inLine)

/-- A line without its mark. -/
def unquoted (line : Prose) : Prose :=
  if Prose.chars? (Prose.strip line) = some ['>'] then []
  else match quotedPattern.matchStart line with
    | some m => m.group 1
    | none => line

/-- A quotation goes on with a quotation before it. -/
def quotation : Rule := fun reader site =>
  (quotedPattern.search site.block).map fun m => do
    let parent ← site.read reader site.parent [m.preceding]
    let quoted := site.block.drop m.preceding.length
    let inner := Prose.unlines ((Prose.lines quoted).map unquoted)
    let parent := if parent.lastChild?.any (·.tag == "blockquote") then parent
      else parent.addChild (.bare "blockquote")
    let parent ← mapLast
      (fun quote => site.readIn reader .quotation quote (Prose.blocks inner)) parent
    pure (parent, site.rest)

/-! ## Code -/

/-- Whether an element is a block of code. -/
def isCode (e : Element) : Bool :=
  e.tag == "pre" && e.children.head?.any fun child => child.tag == "code"

/-- Code as it is written: special characters are escaped. -/
def escapeCode (text : Prose) : Prose :=
  text.flatMap fun piece =>
    match piece.char? with
    | some c => Prose.ofChars (Printer.escapeChar c [])
    | none => [piece]

/-- Add to the code at the end of an element. -/
def addCode (text : Prose) (parent : Element) : Element :=
  parent.mapLast fun pre => pre.mapLast fun code => code.add text

/-- Whether an element ends with a block of code. -/
def endsWithCode (parent : Element) : Bool :=
  parent.lastChild?.any isCode

/-- An empty line separates blocks; inside of code it is kept. -/
def empty : Rule := fun _ site =>
  match site.block with
  | [] =>
    let parent := if endsWithCode site.parent then
      addCode (Prose.ofString "\n\n") site.parent else site.parent
    some (pure (parent, site.rest))
  | piece :: rest =>
    if !piece.isFeed then none
    else
      let parent := if endsWithCode site.parent then
        addCode [.char '\n'] site.parent else site.parent
      some (pure (parent, site.restAfter rest))

/-- An indented block is code, and goes on with code before it.  Where fences
are known, a fence inside of it is shown as it was written. -/
def code (fences : Bool) : Rule := fun _ site =>
  if !isIndented site.block then none
  else
    let block := if fences then Fence.restore site.block else site.block
    let (inner, outer) := detab block
    let text := escapeCode (Prose.stripRight inner) ++ [.char '\n']
    let parent :=
      if endsWithCode site.parent then addCode (.char '\n' :: text) site.parent
      else site.parent.addChild
        (.of "pre" [.element { ElementOf.of "code" text with verbatim := true }])
    some (pure (parent, site.restAfter outer))

/-! ## Paragraphs -/

/-- What no other rule wants is a paragraph.  In a list without empty lines it is
text of the item. -/
def paragraph : Rule := fun _ site => some <| pure <|
  let parent := site.parent
  if Prose.isBlank site.block then (parent, site.rest)
  else if site.isIn .list then
    if parent.lastChild?.isSome then (parent.add (.char '\n' :: site.block), site.rest)
    else if parent.content.isEmpty then (parent.add (Prose.stripLeft site.block), site.rest)
    else (parent.add (.char '\n' :: Prose.stripLeft site.block), site.rest)
  else (parent.addChild (.of "p" (Prose.stripLeft site.block)), site.rest)

end DocPress.Markdown.Block
