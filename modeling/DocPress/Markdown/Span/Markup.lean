import DocPress.Markdown.Block.Plain
import DocPress.Markdown.CharacterName
import DocPress.Markdown.Span.Rule

/-!
# Code, escapes and markup

What stands for itself inside of a line: code between accents, characters behind a
backslash, tags, addresses and line ends.

Main results:

- `written_char`: plain characters are written as they are.
-/

namespace DocPress.Markdown.Span

/-! ## Code and escapes

Accents around a text make it code; as many close it as open it.  A backslash
takes the character behind it out of the syntax, if it has a part in it. -/

/-- Text between accents, or backslashes in pairs before accents. -/
def codePattern : Pattern :=
  let accent := Pattern.is '\x60'
  (.notAfter '\\' ++ .group 1 (.plus (.exactly "\\\\")) ++ .ahead (.plus accent) true) <|>
    (.notAfter '\\' ++ .group 2 (.plus accent) ++ .group 3 (.lazyPlus .any) ++
      .notAfter '\x60' ++ .again 2 ++ .absent accent)

/-- Code between accents. -/
def code : Rule where
  pattern := codePattern
  act _ m := pure <|
    if m.hasGroup 3 then
      let text := Block.escapeCode (Prose.strip (m.group 3))
      .put [.element { ElementOf.of "code" text with verbatim := true }] m.start m.stop
    else .put (List.replicate ((m.group 1).length / 2) (.literal '\\')) m.start m.stop

/-- The characters that may be escaped in plain Markdown. -/
def plainEscapes : List Char :=
  ['\\', '\x60', '*', '_', '\x7b', '\x7d', '[', ']', '(', ')', '>', '#', '+', '-', '.', '!']

/-- Whether a character may be escaped. -/
def isEscapable (d : Dialect) (c : Char) : Bool :=
  plainEscapes.contains c || (d.has .tables && c == '|') ||
    (d.has .tildes && (c == '~' || c == ' '))

/-- A character behind a backslash. -/
def escaped : Rule where
  pattern := .is '\\' ++ .group 1 .any
  act context m := pure <|
    match m.group 1 with
    | [.char c] =>
      if isEscapable context.dialect c then .put [.literal c] m.start m.stop else .skip m.stop
    | _ => .skip m.stop

/-! ## Markup, addresses and line ends

Tags, comments and character references inside of a line pass through unchanged.
An address between angle brackets is a link to itself; that of a mailbox is
written in character references.  Two spaces at the end of a line break it. -/

/-! ## Addresses -/

/-- A web address between angle brackets. -/
def addressPattern : Pattern :=
  let either := fun (set : String) => Pattern.oneOf set
  .is '<' ++ .group 1 ((either "Ff" <|> (either "Hh" ++ either "Tt")) ++ either "Tt" ++
    either "Pp" ++ .opt (either "Ss") ++ .exactly "://" ++ .star (.noneOf "<>")) ++ .is '>'

/-- A web address that links to itself. -/
def webAddress : Rule :=
  .element addressPattern fun m =>
    { (ElementOf.of "a" (m.group 1)).set "href" (Prose.toString (m.group 1)) with verbatim := true }

/-- The address of a mailbox between angle brackets. -/
def mailPattern : Pattern :=
  .is '<' ++ .group 1 (.plus (.noneOf "<> !") ++ .is '@' ++ .plus (.noneOf "@<> ")) ++ .is '>'

/-- A character as a reference, by its name if it has one. -/
def referenceTo (named : Bool) (c : Char) : List Char :=
  match if named then CharacterName.ofChar? c else none with
  | some name => '&' :: name.toList ++ [';']
  | none => '&' :: '#' :: (toString c.toNat).toList ++ [';']

/-- The address of a mailbox as a link, written in character references. -/
def mailAddress : Rule :=
  .element mailPattern fun m =>
    let scheme := "mailto:".toList
    let written := Prose.chars (m.group 1)
    let address := if written.take 7 = scheme then written.drop 7 else written
    let target := (scheme ++ address).flatMap (referenceTo false)
    { (ElementOf.of "a" (Prose.ofChars (address.flatMap (referenceTo true)))).set "href"
        (String.ofList target) with verbatim := true }

/-! ## Markup -/

mutual

/-- A piece as it was written: a character that was escaped gets its backslash
back. -/
def writtenPiece : Piece → Prose
  | .literal c => [.char '\\', .char c]
  | .char c => [.char c]
  | .held text => .char '\\' :: Prose.ofChars text
  | .raw markup fence => [.raw markup fence]
  | .element e => Prose.ofChars (Printer.element e)

/-- A text as it was written. -/
def written : List Piece → Prose
  | [] => []
  | piece :: rest => writtenPiece piece ++ written rest

end

/-- Plain characters are written as they are. -/
theorem written_char (text : List Char) : written (Prose.ofChars text) = Prose.ofChars text := by
  induction text with
  | nil => simp [Prose.ofChars, written]
  | cons c rest ih =>
    have h : written (List.map Piece.char rest) = List.map Piece.char rest := ih
    simp [Prose.ofChars, written, writtenPiece, h]

/-- Pieces up to the first place where one of two texts stands. -/
def until_ (a b : String) : Pattern :=
  .star (.absent (.exactly a <|> .exactly b) ++ .any)

/-- A tag, a comment, an instruction or a section of character data. -/
def markupPattern : Pattern :=
  let tag := Pattern.opt (.is '/') ++ .letter ++ .star (.noneOf "<>@ ") ++
    .opt (.is ' ' ++ .star (.noneOf "<>"))
  let comment := Pattern.exactly "!--" ++ until_ "<!--" "-->" ++ .exactly "--"
  let instruction := Pattern.is '?' ++ until_ "<?" "?>" ++ .is '?'
  let characters := Pattern.exactly "![CDATA[" ++ until_ "<![CDATA[" "]]>" ++ .exactly "]]"
  .is '<' ++ (tag <|> comment <|> instruction <|> characters) ++ .is '>'

/-- Markup that passes through. -/
def markup : Rule where
  pattern := markupPattern
  act _ m := pure (.put [.raw (written m.text) none] m.start m.stop)

/-- A character reference. -/
def referencePattern : Pattern :=
  let hex := Pattern.one (Piece.isIn Printer.isHex)
  let decimal := Pattern.one (Piece.isIn Printer.isDecimal)
  .is '&' ++ ((.is '#' ++ .plus decimal) <|> (.exactly "#x" ++ .plus hex) <|>
    .plus (.one (Piece.isIn Char.isAlphanum))) ++ .is ';'

/-- A character reference that passes through. -/
def characterReference : Rule where
  pattern := referencePattern
  act _ m := pure (.put [.raw (written m.text) none] m.start m.stop)

/-! ## Line ends and lone marks -/

/-- A line end behind two spaces. -/
def lineBreak : Rule :=
  .element (.exactly "  \n") fun _ => .bare "br"

/-- Any line end. -/
def everyLineEnd : Rule :=
  .element (.is '\n') fun _ => .bare "br"

/-- Asterisks or low lines between white space. -/
def loneMarkPattern : Pattern :=
  .behind Piece.isBlank true ++
    .group 1 (.times (.is '*') 1 3 <|> .times (.is '_') 1 3) ++
    .ahead (.blank <|> .textEnd) true

/-- Lone marks weigh nothing. -/
def loneMark : Rule where
  pattern := loneMarkPattern
  act _ m := pure (.put [.held (Prose.chars (m.group 1))] m.start m.stop)

end DocPress.Markdown.Span
