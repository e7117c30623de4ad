import DocPress.Markdown.Element

/-!
# Layout

Blocks stand on lines of their own: a line feed follows every block, and stands
before the first block inside of a block.  A line feed follows every break, and
code ends with exactly one.
-/

namespace DocPress.Markdown.Layout

/-- Whether a content starts with the element of a block, but for white space. -/
def startsWithBlock (content : Prose) : Bool :=
  match content.dropWhile fun piece => !piece.isElement with
  | .element e :: _ => TagName.isBlock e.tag
  | _ => false

/-- A line feed in place of the text in front, if it is blank. -/
def feedIfBlank (content : Prose) : Prose :=
  let text := content.takeWhile fun piece => !piece.isElement
  if Prose.isBlank text then .char '\n' :: content.drop text.length else content

/-- A line feed in front of a text, in its place if it is blank. -/
def feedBefore (content : Prose) : Prose :=
  let text := content.takeWhile fun piece => !piece.isElement
  if Prose.isBlank text then .char '\n' :: content.drop text.length else .char '\n' :: content

/-! ## Blocks -/

/-- Whether a piece is the element of a block. -/
def isBlock (piece : Piece) : Bool :=
  piece.element?.any fun e => TagName.isBlock e.tag

mutual

/-- A block with its blocks on lines of their own. -/
def block : ElementOf Piece → Element
  | ⟨tag, attributes, verbatim, content⟩ =>
    if tag == "pre" || tag == "code" then ⟨tag, attributes, verbatim, content⟩
    else
      let inner := blocks content
      ⟨tag, attributes, verbatim, if startsWithBlock content then feedIfBlank inner else inner⟩

/-- A content with its blocks on lines of their own. -/
def blocks : List Piece → Prose
  | [] => []
  | piece :: rest =>
    let following := blocks rest
    blockPiece piece :: if isBlock piece then feedIfBlank following else following

/-- A piece with its blocks on lines of their own. -/
def blockPiece : Piece → Piece
  | .element e => if TagName.isBlock e.tag then .element (block e) else .element e
  | .char c => .char c
  | .literal c => .literal c
  | .held text => .held text
  | .raw markup fence => .raw markup fence

end

/-! ## Breaks -/

/-- Whether a piece is a break. -/
def isBreak (piece : Piece) : Bool :=
  piece.element?.any fun e => e.tag == "br"

mutual

/-- An element with a line feed behind every break. -/
def breaksIn : ElementOf Piece → Element
  | ⟨tag, attributes, verbatim, content⟩ => ⟨tag, attributes, verbatim, breaks content⟩

/-- A content with a line feed behind every break. -/
def breaks : List Piece → Prose
  | [] => []
  | piece :: rest =>
    let following := breaks rest
    breaksPiece piece :: if isBreak piece then feedBefore following else following

/-- A piece with a line feed behind every break inside. -/
def breaksPiece : Piece → Piece
  | .element e => .element (breaksIn e)
  | .char c => .char c
  | .literal c => .literal c
  | .held text => .held text
  | .raw markup fence => .raw markup fence

end

/-! ## Code -/

/-- Code with one line feed at its end. -/
def endedCode (e : Element) : Element :=
  if e.content.isEmpty || e.content.any Piece.isElement then e
  else { e with content := Prose.stripRight e.content ++ [.char '\n'] }

/-- A block of code with one line feed at the end of its code. -/
def endedBlock (e : Element) : Element :=
  match e.tag, e.parts with
  | "pre", (code, tail) :: others =>
    if code.tag == "code" then e.withParts e.leadingText ((endedCode code, tail) :: others) else e
  | _, _ => e

/-- An element laid out. -/
def apply (e : Element) : Element :=
  (breaksIn (block e)).rebuild endedBlock

end DocPress.Markdown.Layout
