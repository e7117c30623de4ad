import DocPress.Markdown.Element
import DocPress.Markdown.Pattern
import DocPress.Text.Search

/-!
# Attribute lists

Between braces an author may give an element a class, an identifier or any
attribute: `.class`, `#id`, `key=value`, `key="a value"`.  A block carries its
list at the end of its text, an inline element right behind it.
-/

namespace DocPress.Markdown.AttributeList

/-! ## Reading a list -/

/-- One entry of a list. -/
inductive Entry where
  | classed (name : String)
  | pair (key value : String)

/-- A character of a name or bare value. -/
def bare : Pattern := .noneOf " =\x7d"

/-- A name with a value between quotes. -/
def quotedPair (quote : Char) : Pattern :=
  .group 1 (.plus bare) ++ .is '=' ++
    .group 2 (.is quote ++ .lazyStar .inLine ++ .is quote)

/-- A name with a bare value. -/
def barePair : Pattern :=
  .group 1 (.plus bare) ++ .is '=' ++ .group 2 (.plus bare)

/-- A name alone. -/
def word : Pattern := .group 1 (.plus bare)

/-- The entry that a name alone stands for. -/
def entryOfWord : List Char → Entry
  | '.' :: rest => .classed (String.ofList rest)
  | '#' :: rest => .pair "id" (String.ofList rest)
  | name => .pair (String.ofList name) (String.ofList name)

/-- The entry of a pair.  A pair whose key is a point is a class. -/
def entryOfPair (key value : String) : Entry :=
  if key = "." then .classed value else .pair key value

/-- The first entry of a text and what follows it.  Quoted pairs go before bare
ones, and those before names. -/
def entry? (text : Prose) : Option (Entry × Prose) :=
  let quoted := fun (quote : Char) => (quotedPair quote).matchStart text |>.map fun m =>
    (entryOfPair (Prose.toString (m.group 1))
      (Prose.toString (Prose.trim (Piece.is quote) (m.group 2))), m.rest)
  let plain := fun (_ : Unit) => barePair.matchStart text |>.map fun m =>
    (entryOfPair (Prose.toString (m.group 1)) (Prose.toString (m.group 2)), m.rest)
  let name := fun (_ : Unit) => word.matchStart text |>.map fun m =>
    (entryOfWord (Prose.chars (m.group 1)), m.rest)
  quoted '"' <|> quoted '\'' <|> plain () <|> name ()

/-- The entries at the start of a text, and the text that is none. -/
def entriesFrom : (fuel : Nat) → Prose → List Entry × Prose
  | 0, text => ([], text)
  | fuel + 1, text =>
    match entry? text with
    | some (entry, rest) =>
      let (entries, left) := entriesFrom fuel rest
      (entry :: entries, left)
    | none =>
      match text with
      | [] => ([], [])
      | piece :: rest => if piece.is ' ' then entriesFrom fuel rest else ([], text)

/-- The entries of a list, and what is left from the first brace that closes
too early. -/
def entries (text : Prose) : List Entry × Prose :=
  let (found, left) := entriesFrom (text.length + 1) text
  (found, left.dropWhile fun piece => !piece.is '}')

/-! ## Assigning a list -/

/-- Ranges of the characters of names. -/
def nameRanges : List (Nat × Nat) :=
  [(0x2d, 0x2e), (0x30, 0x3a), (0x41, 0x5a), (0x5f, 0x5f), (0x61, 0x7a), (0xb7, 0xb7),
    (0xc0, 0xd6), (0xd8, 0xf6), (0xf8, 0x2ff), (0x300, 0x37d), (0x37f, 0x1fff),
    (0x200c, 0x200d), (0x203f, 0x2040), (0x2070, 0x218f), (0x2c00, 0x2fef), (0x3001, 0xd7ff),
    (0xf900, 0xfdcf), (0xfdf0, 0xfffd)]

/-- Whether a character may stand in the name of an attribute. -/
def isNameChar (c : Char) : Bool :=
  nameRanges.any fun range => range.1 ≤ c.toNat && c.toNat ≤ range.2

/-- A low line in place of every run of characters that names may not hold. -/
def cleanName (inRun : Bool) : List Char → List Char
  | [] => []
  | c :: rest =>
    if isNameChar c then c :: cleanName false rest
    else if inRun then cleanName true rest
    else '_' :: cleanName true rest

/-- The classes of an element with one more. -/
def classesWith (e : Element) (name : String) : String :=
  match e.attribute? "class" with
  | some names => if names.isEmpty then name else names ++ " " ++ name
  | none => name

/-- Give an element one entry. -/
def assign (e : Element) : Entry → Element
  | .classed name => e.set "class" (classesWith e name)
  | .pair key value => e.set (String.ofList (cleanName false key.toList)) value

/-! ## Finding a list -/

/-- A list between braces; the first group is what is inside. -/
def braced : Pattern :=
  .is '\x7b' ++ .opt (.is ':') ++ .star (.is ' ') ++
    .group 1 (.noneOf "\x7d\n " ++ .star .inLine) ++ .star (.is ' ') ++ .is '\x7d'

/-- A list at the end of a heading, term or cell. -/
def afterHeading : Pattern :=
  .plus (.is ' ') ++ braced ++ .star (.is ' ') ++ .textEnd

/-- A list on the last line of a block. -/
def afterBlock : Pattern :=
  .is '\n' ++ .star (.is ' ') ++ braced ++ .star (.is ' ') ++ .textEnd

/-- Whether a tag is that of a heading. -/
def isHeading (tag : String) : Bool :=
  ["h1", "h2", "h3", "h4", "h5", "h6"].contains tag

/-- Take a list off a text: the entries and the text before them.  A list with a
brace too many is left where it is. -/
def takeOff (pattern : Pattern) (text : Prose) : Option (List Entry × Prose) :=
  match pattern.search text with
  | none => none
  | some m =>
    match entries (m.group 1) with
    | (found, []) => some (found, m.preceding)
    | _ => none

/-- The text of a heading without the number signs that close it. -/
def unclosed (text : Prose) : Prose :=
  Prose.stripRight (Prose.dropRight (Piece.is '#') text)

/-- Where the list of a block is looked for: what precedes that text, the text,
and what follows.  An item looks before its first list, everything else at its
end; where no text stands there, the text in front of everything is taken. -/
def home (e : Element) : Prose × Prose × Prose :=
  let isList := fun (piece : Piece) =>
    match piece.element? with
    | some child => child.tag == "ul" || child.tag == "ol"
    | none => false
  let before := if e.tag = "li" then e.content.takeWhile fun piece => !isList piece else e.content
  let text := (before.reverse.takeWhile fun piece => !piece.isElement).reverse
  if text.isEmpty then ([], e.leadingText, e.afterText)
  else (before.take (before.length - text.length), text, e.content.drop before.length)

/-- Give a block the list in its text. -/
def ofBlock (e : Element) : Element :=
  let heading := isHeading e.tag
  let pattern := if heading || ["dt", "td", "th"].contains e.tag then afterHeading else afterBlock
  let (before, text, after) := home e
  match takeOff pattern text with
  | none => e
  | some (found, text) =>
    let text := if heading then unclosed text else text
    found.foldl assign { e with content := before ++ text ++ after }

/-- Give an inline element the list that follows it; what is left of the text. -/
def ofInline (e : Element) (following : Prose) : Element × Prose :=
  match braced.matchStart following with
  | none => (e, following)
  | some m =>
    let (found, left) := entries (m.group 1)
    (found.foldl assign e, m.rest ++ left)

/-- An element with all lists in it assigned, as deep as the fuel reaches: first its
own, then those of what is inside. -/
def assignIn : (fuel : Nat) → Element → Element
  | 0, e => e
  | fuel + 1, e =>
    let e := if TagName.isBlock e.tag then ofBlock e else e
    e.withParts e.leadingText <| e.parts.map fun (child, tail) =>
      let (child, tail) := if TagName.isBlock child.tag then (child, tail) else ofInline child tail
      (assignIn fuel child, tail)

/-- An element with all lists in it assigned. -/
def apply (e : Element) : Element :=
  assignIn e.height e

end DocPress.Markdown.AttributeList
