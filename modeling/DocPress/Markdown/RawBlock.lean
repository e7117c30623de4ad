import DocPress.Markdown.Printer
import DocPress.Markdown.Tag

/-!
# Raw blocks

Markup that starts at the margin of a line passes through a document unchanged,
up to the tag that closes it.  It is taken out of the source before blocks are
read and stands in for itself as one raw piece between empty lines.  Where
Markdown is allowed inside of markup, a block whose `markdown` attribute asks for
it becomes an element whose text is still to be read.
-/

namespace DocPress.Markdown

/-- How the text of an element in the source is read. -/
inductive Reader where
  | blocks
  | spans
  | off

namespace Reader

/-- The value that the `markdown` attribute of an element keeps. -/
def name : Reader → String
  | blocks => "block"
  | spans => "span"
  | off => "off"

/-- Elements whose text is read as spans. -/
def spanTags : List String :=
  ["address", "dd", "dt", "h1", "h2", "h3", "h4", "h5", "h6", "legend", "li", "p", "summary",
    "td", "th"]

/-- Elements whose text is never read. -/
def rawTags : List String :=
  ["canvas", "math", "option", "pre", "script", "style", "textarea"]

/-- Elements that are always empty and need no closing tag. -/
def emptyTags : List String := ["hr"]

/-- Elements whose text is read as blocks. -/
def isBlockTag (tag : String) : Bool :=
  TagName.blocks.contains tag && !spanTags.contains tag && !rawTags.contains tag &&
    !emptyTags.contains tag

/-- How an element with a `markdown` attribute is read inside of another.  The
outer element wins where it is the stricter of the two. -/
def of (outer : Option Reader) (tag : String) (wish : String) : Reader :=
  let wish := if wish == "markdown" then "1" else wish
  let wish := match outer with
    | some off => "off"
    | some spans => if wish == "0" then wish else "span"
    | _ => wish
  let block := isBlockTag tag
  let span := spanTags.contains tag
  if (wish == "1" && block) || (wish == "block" && (block || span)) then blocks
  else if (wish == "1" && span) || (wish == "span" && (block || span)) then spans
  else off

end Reader

/-- An element of the source that is not closed yet; its content is latest first. -/
structure OpenElement where
  tag : String
  reader : Reader
  attributes : List (String × String)
  fresh : Bool
  content : List Piece

/-- The taking out of raw blocks: the document so far in parts, latest first; the
raw markup so far; the tags open in it; whether a raw block is open, and whether
one ended on this line; the element whose content is not markup; and the elements
that Markdown is read inside of, innermost first. -/
structure Extraction where
  parts : List Prose
  cache : Prose
  stack : List String
  inRaw : Bool
  inTail : Bool
  script : Option String
  opened : List OpenElement

namespace Extraction

/-- Nothing taken out yet. -/
def start : Extraction := ⟨[], [], [], false, false, none, []⟩

/-- Add a part to the document. -/
def emit (part : Prose) (s : Extraction) : Extraction :=
  { s with parts := part :: s.parts }

/-- Add raw markup to the document, between empty lines. -/
def emitBlock (piece : Piece) (s : Extraction) : Extraction :=
  let last := s.parts.head?.getD []
  let gap := Prose.endsWith last ['\n'] && !Prose.endsWith last ['\n', '\n']
  let s := if gap then s.emit [.char '\n'] else s
  (s.emit [piece]).emit (Prose.ofString "\n\n")

/-- Whether a place is at the margin: behind at most three characters of white
space on its line. -/
def atMargin (place : Place) : Bool :=
  let line := place.before.takeWhile fun piece => !piece.isFeed
  decide (line.length ≤ 3) && line.all Piece.isBlank

/-- Whether the line ends here and an empty line follows. -/
def endsBlock (rest : Prose) : Bool :=
  let line := Pattern.star (.is ' ') ++ .is '\n'
  ((line ++ line).matchStart rest).isSome

/-! ## Handling what is met -/

/-- Text. -/
def data (text : Prose) (s : Extraction) : Extraction :=
  let s := { s with inTail := s.inTail && !text.any Piece.isFeed }
  if s.inRaw then { s with cache := s.cache ++ text }
  else match s.opened with
    | [] => s.emit text
    | inner :: outer =>
      { s with opened :=
          { inner with content := text.reverse ++ inner.content, fresh := false } :: outer }

/-- Whether the innermost element is closed to Markdown. -/
def isOff (s : Extraction) : Bool :=
  match s.opened with
  | { reader := .off, .. } :: _ => true
  | _ => false

/-- Markup inside of a line: raw where the element around it is closed to Markdown. -/
def inlineMarkup (text : Prose) (s : Extraction) : Extraction :=
  if s.isOff then s.data [.raw text none] else s.data text

/-- Markup that closes itself, at a place. -/
def void (place : Place) (text : Prose) (block : Bool) (s : Extraction) : Extraction :=
  let alone := block && atMargin place
  if !s.inRaw && !s.opened.isEmpty then
    if alone then
      s.data (.char '\n' :: .raw text none :: Prose.ofString "\n\n")
    else s.inlineMarkup text
  else if s.inRaw || s.inTail then { s with cache := s.cache ++ text }
  else if alone then
    let ends := endsBlock (place.pass text.length).after
    let s := { s with inTail := !ends }
    s.emitBlock (.raw (if ends then text ++ [.char '\n'] else text) none)
  else s.emit text

/-- A start tag that opens a raw block, is inside one, or is text. -/
def rawStart (place : Place) (t : Tag) (s : Extraction) : Extraction :=
  if Reader.emptyTags.contains t.name then s.void place t.text (TagName.isBlock t.name)
  else
    let s := if TagName.isBlock t.name && (s.inTail || atMargin place)
      then { s with inRaw := true }.emit [.char '\n'] else s
    if s.inRaw then { s with stack := t.name :: s.stack, cache := s.cache ++ t.text }
    else { s.emit t.text with script := none }

/-- What is left of a stack once its topmost `tag` is closed. -/
def closeTag (tag : String) (stack : List String) : List String :=
  if stack.contains tag then (stack.dropWhile (· != tag)).drop 1 else stack

/-- An end tag of a raw block, or text. -/
def rawEnd (tag : String) (text after : Prose) (s : Extraction) : Extraction :=
  if !s.inRaw then s.emit text
  else
    let s := { s with cache := s.cache ++ text, stack := closeTag tag s.stack }
    if !s.stack.isEmpty then s
    else
      let ends := endsBlock after
      let markup := if ends then s.cache ++ [.char '\n'] else s.cache
      let s := { s with inRaw := false, cache := [], inTail := s.inTail || !ends }
      (s.emit [.raw markup none]).emit (Prose.ofString "\n\n")

/-- The element that an open one becomes. -/
def built (o : OpenElement) : Element :=
  (ElementOf.mk o.tag o.attributes false o.content.reverse).set "markdown" o.reader.name

/-- Close elements up to the innermost one with a tag; the outermost element, if
it was closed. -/
def closeUpTo (tag : String) : List OpenElement → List OpenElement × Option Element
  | [] => ([], none)
  | [o] => ([], some (built o))
  | o :: outer :: rest =>
    let outer := { outer with content := .element (built o) :: outer.content }
    if o.tag = tag then (outer :: rest, none) else closeUpTo tag (outer :: rest)
termination_by opened => opened.length

/-- An end tag where Markdown is allowed inside of markup. -/
def markedEnd (tag : String) (text after : Prose) (s : Extraction) : Extraction :=
  if s.inRaw then s.rawEnd tag text after
  else if TagName.blocks.contains tag && s.opened.any (·.tag == tag) then
    match closeUpTo tag s.opened with
    | (opened, none) => { s with opened }
    | (opened, some e) =>
      let s := { s with opened }.emitBlock (.element e)
      { s with inTail := s.inTail || !endsBlock after }
  else s.inlineMarkup text

/-- A start tag where Markdown is allowed inside of markup. -/
def markedStart (place stop : Place) (t : Tag) (s : Extraction) : Extraction :=
  let attributes := t.attributes.foldl
    (fun pairs (key, value) => ElementOf.setAttribute key (value.getD key) pairs) []
  let atEdge := atMargin place || s.inTail
  let fresh := s.opened.head?.any OpenElement.fresh
  if Reader.emptyTags.contains t.name && atEdge then
    let text := if (attributes.lookup "markdown").isSome then
        let others := attributes.filter (·.1 != "markdown")
        Prose.ofChars ('<' :: t.name.toList ++ Printer.attributes others ++ ['>'])
      else t.text
    s.void place text true
  else if TagName.blocks.contains t.name && (atEdge || fresh) then
    let outer := s.opened.head?.map OpenElement.reader
    let reader := Reader.of outer t.name ((attributes.lookup "markdown").getD "0")
    let isOff := match reader with
      | .off => true
      | _ => false
    if s.inRaw || (isOff && s.opened.isEmpty) then s.rawStart place t
    else
      let s := if s.opened.any (·.tag == "p") then s.markedEnd "p" t.text stop.after else s
      { s with opened := ⟨t.name, reader, attributes, true, []⟩ :: s.opened }
  else if s.inRaw then s.rawStart place t
  else { s.inlineMarkup t.text with script := none }

/-! ## Walking through a source -/

/-- How markup is taken out of a source: whether Markdown is allowed inside of it. -/
structure Setting where
  marked : Bool

/-- A start tag. -/
def startTag (setting : Setting) (place stop : Place) (t : Tag) (s : Extraction) : Extraction :=
  if t.closesItself then
    if setting.marked && Reader.emptyTags.contains t.name
      && t.attributes.any (·.1 == "markdown") then s.markedStart place stop t
    else s.void place t.text (TagName.isBlock t.name)
  else
    let s := { s with script :=
      if t.name == "script" || t.name == "style" then some t.name else s.script }
    if setting.marked then s.markedStart place stop t else s.rawStart place t

/-- An end tag. -/
def endTag (setting : Setting) (tag : String) (place stop : Place) (s : Extraction) : Extraction :=
  let text := place.upTo stop
  let s := { s with script := none }
  if setting.marked then s.markedEnd tag text stop.after else s.rawEnd tag text stop.after

/-- The place behind the next piece that is a given character. -/
def behindNext? (c : Char) (place : Place) : Option Place :=
  let skipped := place.after.takeWhile fun piece => !piece.is c
  if skipped.length < place.after.length then some (place.pass (skipped.length + 1)) else none

/-- A character of the name of an end tag. -/
def isEndNameChar (c : Char) : Bool :=
  c.isAlphanum || "-.:_".toList.contains c

/-- The name that an end tag starts with. -/
def endName : Pattern :=
  .exactly "</" ++ .star .blank ++
    .group 1 (.letter ++ .star (.one (Piece.isIn isEndNameChar))) ++ .star .blank ++ .is '>'

/-- At a less-than sign before a slash. -/
def atEndTag (setting : Setting) (place : Place) (s : Extraction) : Option (Extraction × Place) :=
  match behindNext? '>' place with
  | none => none
  | some behind =>
    match endName.matchAt place with
    | some m =>
      let tag := Tag.lowered (m.group 1)
      if s.script.any (· != tag) then some (s.data (place.upTo behind), behind)
      else some (s.endTag setting tag place behind, behind)
    | none =>
      if s.script.isSome then some (s.data (place.upTo behind), behind)
      else match Tag.namePattern.matchAt (place.pass 2) with
        | none =>
          if Prose.startsWith place.after ['<', '/', '>'] then
            some (s.data (place.after.take 3), place.pass 3)
          else some (s.void place (place.upTo behind) false, behind)
        | some m =>
          let behind := (behindNext? '>' m.stop).getD behind
          let tag := Tag.lowered (m.group 1)
          let s' := s.endTag setting tag place behind
          some ({ s' with script := s.script }, behind)

/-- The end of a comment. -/
def commentEnd : Pattern := .exactly "--" ++ .star .blank ++ .is '>'

/-- At the start of a comment. -/
def atComment (place : Place) (s : Extraction) : Option (Extraction × Place) :=
  (commentEnd.searchAt (place.pass 4)).map fun m =>
    if Prose.startsWith m.start.after ['-', '-', '>'] then
      (s.void place (place.upTo m.stop) true, m.stop)
    else (s.data [.char '<'], place.pass 1)

/-- At the start of an instruction. -/
def atInstruction (place : Place) (s : Extraction) : Option (Extraction × Place) :=
  if atMargin place || s.inTail || !s.opened.isEmpty then
    ((Pattern.exactly "?>").searchAt (place.pass 2)).map fun m =>
      (s.void place (place.upTo m.stop) true, m.stop)
  else some (s.data (place.after.take 2), place.pass 2)

/-- The end of a section of character data. -/
def sectionEnd : Pattern := .is ']' ++ .star .blank ++ .is ']' ++ .star .blank ++ .is '>'

/-- At the start of a declaration. -/
def atDeclaration (place : Place) (s : Extraction) : Option (Extraction × Place) :=
  if !(atMargin place || s.inTail || !s.opened.isEmpty) then
    some (s.data (place.after.take 2), place.pass 2)
  else if Prose.startsWith place.after "<![CDATA[".toList then
    (sectionEnd.searchAt (place.pass 3)).map fun m =>
      (s.void place (place.upTo m.start ++ Prose.ofString "]]>") true, m.stop)
  else
    let isType := Text.lower (Prose.chars (place.after.take 9)) = "<!doctype".toList
    match behindNext? '>' place with
    | some behind => some (s.void place (place.upTo behind) isType, behind)
    | none =>
      if Prose.startsWith place.after ['<', '!', '['] then
        some (s.data (place.after.take 1), place.pass 1)
      else none

/-- At a less-than sign; nothing if what it starts is not complete. -/
def atLess (setting : Setting) (place : Place) (s : Extraction) : Option (Extraction × Place) :=
  let sees := fun (text : String) => Prose.startsWith place.after text.toList
  if (place.pass 1).after.head?.any (·.isIn Char.isAlpha) then
    match Tag.read? place with
    | .tag t stop => some (s.startTag setting place stop t, stop)
    | .text stop => some (s.data (place.upTo stop), stop)
  else if sees "</" then s.atEndTag setting place
  else if sees "<!--" then s.atComment place
  else if sees "<?" then s.atInstruction place
  else if sees "<!" then s.atDeclaration place
  else if place.after.length > 1 then some (s.data [.char '<'], place.pass 1)
  else none

/-- A numeric reference with the character behind it. -/
def numericReference : Pattern :=
  let hex := Pattern.one (Piece.isIn Printer.isHex)
  .exactly "&#" ++ .group 1 (.plus (.one (Piece.isIn Printer.isDecimal)) <|>
    (.oneOf "xX" ++ .plus hex)) ++ .group 2 (.one fun piece => !piece.isIn Printer.isHex)

/-- A named reference. -/
def namedReference : Pattern :=
  .is '&' ++ .letter ++
    .star (.one (Piece.isIn fun c => c.isAlphanum || c == '-' || c == '.')) ++ .is ';'

/-- What comes of a step: another place, or a text that cannot be read further
from a place on. -/
inductive Step where
  | next (s : Extraction) (place : Place)
  | stuck (s : Extraction) (place : Place)

/-- At an ampersand.  A number without its semicolon gets one; a number sign
without a number stops the reading. -/
def atAmpersand (place : Place) (s : Extraction) : Step :=
  if Prose.startsWith place.after ['&', '#'] then
    match numericReference.matchAt place with
    | some m =>
      let text := Prose.ofString "&#" ++ m.group 1 ++ [.char ';']
      let closed := (m.group 2).any (Piece.is ';')
      .next (s.void place text false) (place.pass ((m.group 1).length + if closed then 3 else 2))
    | none =>
      if place.after.any (Piece.is ';') then
        .stuck (s.data (place.after.take 2)) (place.pass 2)
      else .stuck s place
  else match namedReference.matchAt place with
    | some m => .next (s.void place m.text false) m.stop
    | none =>
      if place.after.length > 1 then .next (s.data [.char '&']) (place.pass 1)
      else .stuck s place

/-- How much text may be passed before something is met. -/
def plainLength (s : Extraction) (place : Place) : Nat :=
  match s.script with
  | none => (place.after.takeWhile fun piece => !piece.is '<' && !piece.is '&').length
  | some tag =>
    let letters := tag.toList.foldr
      (fun c p => Pattern.one (Piece.isIn fun d => d.toLower == c) ++ p) Pattern.nothing
    let close := Pattern.exactly "</" ++ .star .blank ++ letters ++ .star .blank ++ .is '>'
    match close.searchAt place with
    | some m => (place.upTo m.start).length
    | none => place.after.length

/-- Pass the text in front of the next markup, and the markup.  At the end of a
source incomplete markup is text. -/
def step (setting : Setting) (final : Bool) (s : Extraction) (place : Place) : Step :=
  let n := s.plainLength place
  let s := if n = 0 then s else s.data (place.after.take n)
  let place := place.pass n
  match place.after with
  | [] => .next s place
  | piece :: rest =>
    if piece.is '&' then s.atAmpersand place
    else match s.atLess setting place with
      | some (s, place) => .next s place
      | none =>
        if !final then .stuck s place
        else
          let stop := match behindNext? '>' (place.pass 1) with
            | some behind => behind
            | none => place.pass (1 + (rest.takeWhile fun p => !p.is '<').length)
          .next (s.data (place.upTo stop)) stop

/-- Pass markup until the end, or until something cannot be read. -/
def walk (setting : Setting) (final : Bool) : (fuel : Nat) → Extraction → Place → Extraction × Place
  | 0, s, place => (s, place)
  | fuel + 1, s, place =>
    if place.after.isEmpty then (s, place)
    else match s.step setting final place with
      | .next s place => walk setting final fuel s place
      | .stuck s place => (s, place)

/-- Close what is still open. -/
def finished (s : Extraction) : Extraction :=
  let s := if s.cache.isEmpty then s else { s.emit [.raw s.cache none] with cache := [] }
  match s.opened.getLast? with
  | none => s
  | some outermost => ({ s with inRaw := false }).markedEnd outermost.tag [] []

end Extraction

/-- A source with its raw blocks taken out: each is one piece between empty lines. -/
def takeRawBlocks (setting : Extraction.Setting) (source : Prose) : Prose :=
  let fuel := 2 * source.length + 2
  let (s, place) := Extraction.walk setting false fuel .start (.start source)
  let (s, place) := Extraction.walk setting true fuel s place
  let s := if place.after.isEmpty then s else s.data place.after
  s.finished.parts.reverse.flatten

end DocPress.Markdown
