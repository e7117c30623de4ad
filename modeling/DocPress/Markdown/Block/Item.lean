import DocPress.Markdown.Block.Rule

/-!
# Lists and definition lists

An item starts with a number and a point, or with an asterisk, plus or hyphen.
Items without empty lines between them hold text, others hold paragraphs; what
is indented belongs to the item before it, as it does to a definition.
-/

namespace DocPress.Markdown.Block

/-! ## Items of a block -/

/-- A kind of list; a sane one keeps its kind and its first number. -/
structure ListStyle where
  ordered : Bool
  sane : Bool

namespace ListStyle

/-- The tag of a list. -/
def tag (style : ListStyle) : String :=
  if style.ordered then "ol" else "ul"

/-- The lists that a new item may belong to. -/
def siblings (style : ListStyle) : List String :=
  if style.sane then [style.tag] else ["ol", "ul"]

end ListStyle

/-- The mark of an ordered item. -/
def numberMark : Pattern := .plus .digit ++ .is '.'

/-- The mark of an unordered item. -/
def bulletMark : Pattern := .oneOf "*+-"

/-- What follows the mark of an item. -/
def itemText : Pattern := .plus (.is ' ') ++ .group 3 (.star .inLine)

/-- The start of a list. -/
def listStart (style : ListStyle) : Pattern :=
  .margin ++ (if style.ordered then numberMark else bulletMark) ++ itemText

/-- The start of an item; once a list has started, marks of the other kind will
do unless it is sane. -/
def itemStart (style : ListStyle) : Pattern :=
  let mark := if !style.sane then numberMark <|> bulletMark
    else if style.ordered then numberMark else bulletMark
  .margin ++ .group 1 mark ++ itemText

/-- The start of an item one step inside. -/
def innerItemStart : Pattern :=
  .times (.is ' ') 4 7 ++ (numberMark <|> bulletMark) ++ .plus (.is ' ')

/-- Add a line to the items before it, latest first. -/
def addLine (style : ListStyle) (items : List Prose) (line : Prose) : List Prose :=
  match (itemStart style).matchStart line with
  | some m => m.group 3 :: items
  | none =>
    match items with
    | [] => [line]
    | item :: others =>
      if (innerItemStart.matchStart line).isSome && !isIndented item then line :: items
      else (item ++ .char '\n' :: line) :: others

/-- The items of a block. -/
def items (style : ListStyle) (block : Prose) : List Prose :=
  ((Prose.lines block).foldl (addLine style) []).reverse

/-- The number of the first item of a block. -/
def firstNumber (style : ListStyle) (block : Prose) : String :=
  match (itemStart style).matchStart block with
  | some m => Prose.toString ((m.group 1).takeWhile Piece.isDigit)
  | none => "1"

/-! ## Lists of items -/

/-- Put the text behind the last element of an item into a paragraph. -/
def wrapTail (item : Element) : Element :=
  match item.splitLast? with
  | some (before, child, tail) =>
    if tail.isEmpty then item
    else { item with content :=
      before ++ [.element child, .element (.of "p" (Prose.stripLeft tail))] }
  | none => item

/-- Read items into a list, indented ones into the item before them. -/
def readItems (site : Site) (reader : Reader) : List Prose → Element → Collect Element
  | [], list => pure list
  | item :: rest, list => do
    let list ← if isIndented item then
        mapLast (fun last => site.readIn reader .list last [item]) list
      else do
        let li ← site.readIn reader .list (.bare "li") [item]
        pure (list.addChild li)
    readItems site reader rest list

/-- A list.  After another list of its kind it goes on with that one, whose last
item and its own first item then hold paragraphs. -/
def list (style : ListStyle) : Rule := fun reader site =>
  ((listStart style).matchStart site.block).map fun _ => do
    let found := items style site.block
    if site.parent.lastChild?.any fun last => style.siblings.contains last.tag then
      let goOn := fun (last : Element) => do
        let last := last.mapLast fun item => wrapTail (wrapText item)
        let li ← site.readIn reader .looseList (.bare "li") (found.take 1)
        readItems site reader (found.drop 1) (last.addChild li)
      let parent ← mapLast goOn site.parent
      pure (parent, site.rest)
    else if ["ol", "ul"].contains site.parent.tag then
      let parent ← readItems site reader found site.parent
      pure (parent, site.rest)
    else
      let start := firstNumber style site.block
      let fresh := ElementOf.bare style.tag
      let fresh := if style.ordered && style.sane && start != "1"
        then fresh.set "start" start else fresh
      let made ← readItems site reader found fresh
      pure (site.parent.addChild made, site.rest)

/-! ## Indented blocks of items -/

/-- The elements that take indented blocks, and those that hold such elements. -/
structure Nesting where
  items : List String
  lists : List String
  fresh : String

/-- The nesting of lists. -/
def listNesting : Nesting := ⟨["li"], ["ul", "ol"], "li"⟩

/-- How many lists an indentation leads into, and by how many steps to last
elements, as far as there are lists. -/
def levelFrom (nesting : Nesting) (indent : Nat) :
    (fuel : Nat) → (level steps : Nat) → Element → Nat × Nat × Element
  | 0, level, steps, e => (level, steps, e)
  | fuel + 1, level, steps, e =>
    if indent ≤ level then (level, steps, e)
    else match e.lastChild? with
      | none => (level, steps, e)
      | some child =>
        if nesting.lists.contains child.tag then
          levelFrom nesting indent fuel (level + 1) (steps + 1) child
        else if nesting.items.contains child.tag then
          levelFrom nesting indent fuel level (steps + 1) child
        else (level, steps, e)

/-- An indented block behind the items of a list belongs to the last one at its
depth. -/
def nested (nesting : Nesting) : Rule := fun reader site =>
  let isItem := fun (e : Element) => nesting.items.contains e.tag
  let isList := fun (e : Element) => nesting.lists.contains e.tag
  let applies := isIndented site.block && !site.isIn .detabbed &&
    (isItem site.parent || site.parent.lastChild?.any isList)
  if !applies then none
  else some do
    let indent := (site.block.takeWhile (Piece.is ' ')).length / Source.tabWidth
    let start := if site.isIn .list then 1 else 0
    let (level, steps, target) :=
      levelFrom nesting indent site.parent.height start 0 site.parent
    let block := looseDetab site.block level
    let readOne := fun (e : Element) => site.readIn reader .detabbed e [block]
    let parent ←
      if isItem site.parent then
        if site.parent.lastChild?.any isList then mapLast readOne site.parent
        else readOne site.parent
      else if isItem target then mapInside readOne steps site.parent
      else if target.lastChild?.any isItem then
        let readAll := fun (item : Element) =>
          site.readIn reader .detabbed (wrapText item) (Prose.blocks block)
        mapInside readAll (steps + 1) site.parent
      else
        let addItem := fun (e : Element) => do
          let item ← readOne (.bare nesting.fresh)
          pure (e.addChild item)
        mapInside addItem steps site.parent
    pure (parent, site.rest)

/-! ## Definition lists

A definition starts with a colon.  The lines above it in its block are the terms;
a definition that starts its block takes the paragraph before it for its terms. -/

/-- A line that starts a definition. -/
def definitionPattern : Pattern :=
  (.behind (fun _ => false) true <|> .is '\n') ++ .margin ++ .is ':' ++ .times (.is ' ') 1 3 ++
    .group 2 (.lazyStar .inLine) ++ (.is '\n' <|> .textEnd)

/-- A line that goes on with a definition though it is not indented. -/
def lazyLine : Pattern := .margin ++ .noneOf " :"

/-- The terms in some lines. -/
def termsOf (text : Prose) : List Prose :=
  (Prose.lines text).filterMap fun line =>
    if Prose.isBlank line then none else some (Prose.strip line)

/-- The text of a definition and what follows it. -/
def definitionText (first after : Prose) : Prose × Prose :=
  let (inner, rest) := if (lazyLine.matchStart after).isSome then (after, []) else detab after
  (if inner.isEmpty then first else first ++ .char '\n' :: inner, rest)

/-- A definition goes on with a definition list before it. -/
def definition : Rule := fun reader site =>
  match definitionPattern.search site.block with
  | none => none
  | some m =>
    let terms := termsOf m.preceding
    let (text, after) := definitionText (m.group 2) m.rest
    let last := site.parent.lastChild?
    if terms.isEmpty && last.isNone then none
    else
      let takesTerms := terms.isEmpty && last.any fun e => e.tag == "p"
      let parent := if takesTerms then site.parent.dropLast else site.parent
      let terms := if takesTerms then Prose.lines ((last.map (·.leadingText)).getD []) else terms
      let goesOn := parent.lastChild?.any fun e => e.tag == "dl"
      let afterBlocks := terms.isEmpty && goesOn && parent.lastChild?.any fun dl =>
        dl.lastChild?.any fun dd => dd.tag == "dd" && dd.lastChild?.isSome
      let mode := if takesTerms || afterBlocks then Mode.looseList else Mode.list
      some do
        let dd ← site.readIn reader mode (.bare "dd") [text]
        let extend := fun (dl : Element) =>
          (terms.foldl (fun e term => e.addChild (.of "dt" term)) dl).addChild dd
        let parent := if goesOn then parent.mapLast extend
          else parent.addChild (extend (.bare "dl"))
        pure (parent, site.restAfter after)

/-- The nesting of definition lists, which other lists may stand in. -/
def definitionNesting : Nesting := ⟨["dd", "li"], ["dl", "ol", "ul"], "dd"⟩

end DocPress.Markdown.Block
