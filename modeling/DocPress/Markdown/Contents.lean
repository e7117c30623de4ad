import DocPress.Markdown.AttributeList
import DocPress.Markdown.CharacterName
import DocPress.Markdown.Layout
import DocPress.Markdown.Printer
import DocPress.Text.AsciiForm

/-!
# Tables of contents

Every heading gets an identifier made of its text, unless its author gave it one.
Where a paragraph holds the marker alone, the headings are listed as links, each
under the heading that it belongs to.
-/

namespace DocPress.Markdown.Contents

/-! ## Names -/

/-- A text without what stands between two marks, wherever both occur. -/
def without (opening closing : List Char) : (fuel : Nat) → List Char → List Char
  | 0, text => text
  | fuel + 1, text =>
    match Text.cutAt? opening text with
    | none => text
    | some (before, after) =>
      match Text.cutAt? closing (opening ++ after) with
      | none => text
      | some (_, rest) => without opening closing fuel (before ++ rest)

/-- Words with single spaces between them. -/
def collapse (text : List Char) : List Char :=
  let step := fun (c : Char) (rest : List Char) =>
    if Text.isBlank c then (if rest.isEmpty || rest.head? == some ' ' then rest else ' ' :: rest)
    else c :: rest
  Text.stripLeft (text.foldr step [])

/-- Markup without its comments and tags, on one line. -/
def stripTags (markup : List Char) : List Char :=
  let fuel := markup.length + 1
  let text := without "<!--".toList "-->".toList fuel markup
  collapse (without ['<'] ['>'] fuel text)

/-- Whether a character may stand in an identifier. -/
def isSlugChar (c : Char) : Bool :=
  Text.isWordChar c || Text.isBlank c || c == '-'

/-- A hyphen in place of every run of hyphens and white space. -/
def hyphenate (inRun : Bool) : List Char → List Char
  | [] => []
  | c :: rest =>
    if c == '-' || Text.isBlank c then
      if inRun then hyphenate true rest else '-' :: hyphenate true rest
    else c :: hyphenate false rest

/-- The identifier that a text makes. -/
def slug (text : List Char) : List Char :=
  hyphenate false (Text.lower (Text.strip ((Text.asciiForm text).filter isSlugChar)))

/-- The next identifier: one more than the number at the end, if there is one. -/
def next (id : List Char) : List Char :=
  let digits := (id.reverse.takeWhile Printer.isDecimal).reverse
  let stem := id.take (id.length - digits.length)
  if !digits.isEmpty && stem.getLast? == some '_' then
    stem ++ (toString ((CharacterName.number? 10 digits).elim 0 Prod.fst + 1)).toList
  else id ++ ['_', '1']

/-- The first identifier from one on that is free and not empty. -/
def unique (used : List (List Char)) : (fuel : Nat) → List Char → List Char
  | 0, id => id
  | fuel + 1, id => if used.contains id || id.isEmpty then unique used fuel (next id) else id

/-! ## Headings -/

/-- A heading: its level, identifier and name. -/
structure Heading where
  level : Nat
  id : String
  name : String

/-- What is known while headings are read: the identifiers in use, and the headings
so far, latest first. -/
structure Survey where
  used : List (List Char)
  found : List Heading

/-- The identifiers of an element and of the elements inside of it. -/
def idsIn (e : Element) : List (List Char) :=
  e.elements.filterMap fun found => (found.attribute? "id").map String.toList

/-- A heading without references to footnotes, as deep as the fuel reaches. -/
def withoutNotes : (fuel : Nat) → Element → Element
  | 0, e => e
  | fuel + 1, e =>
    let isNote := fun (child : Element) => child.tag == "sup" &&
      ((child.attribute? "id").any fun id => Text.startsWith id.toList "fnref".toList)
    e.withParts [] [] |>.add <| e.leadingText ++ e.parts.flatMap fun (child, tail) =>
      if isNote child then tail else .element (withoutNotes fuel child) :: tail

/-- The markup inside of a heading. -/
def innerMarkup (e : Element) : List Char :=
  Text.strip (Printer.prose false (withoutNotes e.height e).content)

/-- The level of a heading. -/
def levelOf? (tag : String) : Option Nat :=
  match tag.toList with
  | ['h', c] => if '1' ≤ c && c ≤ '6' then some (c.toNat - '0'.toNat) else none
  | _ => none

/-- A heading with an identifier, noted in the survey. -/
def noteHeading (level : Nat) (e : Element) (s : Survey) : Element × Survey :=
  let name := stripTags (innerMarkup e)
  let (e, used) := match e.attribute? "id" with
    | some _ => (e, s.used)
    | none =>
      let id := unique s.used (s.used.length + 2) (slug (CharacterName.decode name))
      (e.set "id" (String.ofList id), id :: s.used)
  let name := match e.attribute? "data-toc-label" with
    | some text => Printer.escape (stripTags text.toList)
    | none => name
  let e := { e with attributes := e.attributes.filter fun pair => pair.1 != "data-toc-label" }
  (e, ⟨used, ⟨level, (e.attribute? "id").getD "", String.ofList name⟩ :: s.found⟩)

mutual

/-- An element whose headings have identifiers. -/
def surveyIn : ElementOf Piece → StateM Survey (ElementOf Piece)
  | ⟨tag, attributes, verbatim, content⟩ => do
    let e : Element := ⟨tag, attributes, verbatim, content⟩
    let e ← match levelOf? tag with
      | none => pure e
      | some level => modifyGet fun s => noteHeading level e s
    let content ← survey content
    pure { e with content }

/-- A content whose headings have identifiers. -/
def survey : List Piece → StateM Survey (List Piece)
  | [] => pure []
  | piece :: rest => do
    let piece ← surveyPiece piece
    let rest ← survey rest
    pure (piece :: rest)

/-- A piece whose headings have identifiers. -/
def surveyPiece : Piece → StateM Survey Piece
  | .element e => do
    let e ← surveyIn e
    pure (.element e)
  | .char c => pure (.char c)
  | .literal c => pure (.literal c)
  | .held text => pure (.held text)
  | .raw markup fence => pure (.raw markup fence)

end

/-! ## The table -/

/-- Headings with what belongs to each. -/
inductive Entry where
  | node (heading : Heading) (entries : List Entry)

/-- The place of the next heading: the levels open below each other, deepest first,
and for each open heading but the deepest its level; `depth` headings are open. -/
structure Nesting where
  levels : List Nat
  parents : List Nat

/-- How deep a heading stands under the ones before it, and what is open then. -/
def descend (n : Nesting) (last level : Nat) : Nat × Nesting :=
  match n.levels with
  | [] => (0, ⟨[level], []⟩)
  | deepest :: outer =>
    let n := if level < deepest then
        let closed := (n.parents.takeWhile fun p => level ≤ p).length
        Nesting.mk (level :: outer.drop closed) (n.parents.drop closed)
      else n
    if level ≤ n.levels.headD level then (n.parents.length, n)
    else (n.parents.length + 1, ⟨level :: n.levels, last :: n.parents⟩)

/-- Headings with the depth at which each stands. -/
def depths (n : Nesting) (last : Nat) : List Heading → List (Nat × Heading)
  | [] => []
  | h :: rest =>
    let (depth, n) := descend n last h.level
    (depth, h) :: depths n h.level rest

/-- Entries from headings with depths: those of one depth, and the rest. -/
def entriesAt : (fuel : Nat) → (depth : Nat) → List (Nat × Heading) →
    List Entry × List (Nat × Heading)
  | 0, _, rest => ([], rest)
  | _, _, [] => ([], [])
  | fuel + 1, depth, (d, h) :: rest =>
    if d < depth then ([], (d, h) :: rest)
    else
      let (inner, rest) := entriesAt fuel (depth + 1) rest
      let (others, rest) := entriesAt fuel depth rest
      (.node h inner :: others, rest)

/-- The entries of headings, each under the one that it belongs to. -/
def entries (found : List Heading) : List Entry :=
  (entriesAt (found.length + 1) 0 (depths ⟨[], []⟩ 0 found)).1

mutual

/-- The item of an entry. -/
def item : Entry → Element
  | .node heading inner =>
    let link := (ElementOf.of "a" (Prose.ofString heading.name)).set "href" ("#" ++ heading.id)
    match inner with
    | [] => .of "li" [.element link]
    | first :: rest =>
      .of "li" [.element link, .element (.of "ul" (.element (item first) :: items rest))]

/-- The items of entries. -/
def items : List Entry → Prose
  | [] => []
  | entry :: rest => .element (item entry) :: items rest

end

/-- The table of some headings. -/
def table (found : List Heading) : Element :=
  Layout.apply <| (ElementOf.of "div" [.element (.of "ul" (items (entries found)))]).set
    "class" "toc"

/-- Whether an element holds the marker alone. -/
def isMarker (e : Element) : Bool :=
  !e.content.any Piece.isElement && Prose.chars? (Prose.strip e.content) = some "[TOC]".toList

/-- Whether a marker may stand inside of an element. -/
def mayHold (e : Element) : Bool :=
  (levelOf? e.tag).isNone && e.tag != "pre" && e.tag != "code"

/-- An element with the table in place of every marker, as deep as the fuel reaches. -/
def place (made : Element) : (fuel : Nat) → Element → Element
  | 0, e => e
  | fuel + 1, e =>
    e.withParts e.leadingText <| e.parts.map fun (child, tail) =>
      if !mayHold child then (child, tail)
      else if isMarker child then (made, [.char '\n'])
      else (place made fuel child, tail)

/-- A document whose headings have identifiers, with its tables of contents. -/
def apply (root : Element) : Element :=
  let (root, s) := (surveyIn root).run ⟨idsIn root, []⟩
  place (table s.found.reverse) root.height root

end DocPress.Markdown.Contents
