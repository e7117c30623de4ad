import DocPress.Markdown.CharacterName
import DocPress.Markdown.Element
import DocPress.Markdown.Pattern

/-!
# Tags in a source

A tag is found where a less-than sign stands before a letter.  Its attributes
may be written in any order and style; a grave accent ends it early, since that
is the mark of code.
-/

namespace DocPress.Markdown

/-- A start tag: its name in lower case, its attributes, its text, and whether it
closes itself. -/
structure Tag where
  name : String
  attributes : List (String × Option String)
  text : Prose
  closesItself : Bool

namespace Tag

/-! ## Patterns -/

/-- Any piece but white space and some plain characters. -/
def inkBut (set : String) : Pattern :=
  .one fun piece => !piece.isBlank && !piece.isIn set.toList.contains

/-- What may separate attributes. -/
def separator : Pattern :=
  .blank <|> (.is '/' ++ .absent (.is '>'))

/-- After a quote, a slash or white space. -/
def afterSeparator : Pattern :=
  .behind (fun piece => piece.isBlank || piece.isIn "'\"/".toList.contains) false

/-- A value between quotes. -/
def quoted (quote : Char) : Pattern :=
  .is quote ++ .star (.one fun piece => !piece.is quote) ++ .is quote

/-- Not before a quote. -/
def notQuote : Pattern := .absent (.oneOf "'\"")

/-- A tag up to its end, which may be missing. -/
def body : Pattern :=
  let opening := Pattern.is '<' ++ .letter ++ .star (.noneOf "\x60\t\n\r\x0c />\x00")
  let value := quoted '\'' <|> quoted '"' <|> (notQuote ++ .star (inkBut "\x60>"))
  let item :=
    afterSeparator ++ inkBut "\x60/>" ++ .star (inkBut "/=>") ++
      .opt (.star .blank ++ .plus (.is '=') ++ .star .blank ++ value ++
        .star (.star .blank ++ .is ',')) ++
      .star separator
  opening ++ .opt (.star (.blank <|> .is '/') ++ .star item) ++ .star .blank

/-- The name of a tag and the separators behind it. -/
def namePattern : Pattern :=
  .group 1 (.letter ++ .star (.noneOf "\t\n\r\x0c />\x00")) ++ .star separator

/-- One attribute and the separators behind it. -/
def attributePattern : Pattern :=
  .group 1 (afterSeparator ++ inkBut "/>" ++ .star (inkBut "/=>")) ++
    .opt (.group 2 (.star .blank ++ .plus (.is '=') ++ .star .blank ++
      .group 3 (quoted '\'' <|> quoted '"' <|> (notQuote ++ .star (inkBut ">"))))) ++
    .star separator

/-! ## Reading -/

/-- A name in lower case. -/
def lowered (text : Prose) : String :=
  String.ofList (Text.lower (Prose.chars text))

/-- Where a tag ends: behind its greater-than sign, or where it stops making sense. -/
def stop? (place : Place) : Option Place :=
  (body.matchAt place).bind fun m =>
    match m.stop.after with
    | [] => none
    | piece :: rest =>
      if piece.is '>' then some (m.stop.pass 1)
      else if piece.is '/' then
        if Prose.startsWith rest ['>'] then some (m.stop.pass 2) else none
      else if piece.is '=' || piece.isIn Char.isAlpha then none
      else some m.stop

/-- The value of an attribute without its quotes, references read. -/
def value (text : Prose) : String :=
  let chars := Prose.chars text
  let unquote := fun (quote : Char) =>
    if chars.length ≥ 2 && chars.head? == some quote && chars.getLast? == some quote
    then some (chars.drop 1).dropLast else none
  String.ofList (CharacterName.decode ((unquote '\'' <|> unquote '"').getD chars))

/-- The attributes from a place on, and where they end. -/
def attributesFrom : (fuel : Nat) → Place → List (String × Option String) × Place
  | 0, place => ([], place)
  | fuel + 1, place =>
    match attributePattern.matchAt place with
    | none => ([], place)
    | some m =>
      let here := (lowered (m.group 1), if m.hasGroup 2 then some (value (m.group 3)) else none)
      let (others, stop) := attributesFrom fuel m.stop
      (here :: others, stop)

/-- What stands at a less-than sign before a letter. -/
inductive Reading where
  | tag (t : Tag) (stop : Place)
  | text (stop : Place)

/-- Read a tag.  What only looks like one is text, up to where it stops making
sense. -/
def read? (place : Place) : Reading :=
  match stop? place, namePattern.matchAt (place.pass 1) with
  | some stop, some m =>
    let (attributes, reached) := attributesFrom (place.after.length + 1) m.stop
    let close := Prose.chars (Prose.strip (reached.upTo stop))
    let t : Tag := ⟨lowered (m.group 1), attributes, place.upTo stop, close == ['/', '>']⟩
    if close == ['>'] || close == ['/', '>'] then .tag t stop else .text stop
  | _, _ => .text (place.pass 1)

end Tag

end DocPress.Markdown
