import DocPress.Markdown.Piece
import DocPress.Text.LowerCase

/-!
# Elements

An element has attributes, each name once, and a content in which texts and
elements alternate: text in front of the first element, and text behind each.  Its
tag says whether it stands as a block and whether it has a content at all.

Main results:

- `ElementOf.lookup_setAttribute`: an attribute that was set has its value.
- `Prose.parts_ofChars` and `Prose.elements_ofChars`: a plain text holds no elements.
-/

namespace DocPress.Markdown

/-! ## Elements -/

namespace ElementOf

/-- An element without content. -/
def bare {π : Type} (tag : String) : ElementOf π :=
  ⟨tag, [], false, []⟩

/-- An element with some content. -/
def of {π : Type} (tag : String) (content : List π) : ElementOf π :=
  ⟨tag, [], false, content⟩

/-- The value of an attribute. -/
def attribute? {π : Type} (e : ElementOf π) (name : String) : Option String :=
  e.attributes.lookup name

/-- Set a key of a list of pairs, in place if it is there and last if it is not. -/
def setAttribute (name value : String) : List (String × String) → List (String × String)
  | [] => [(name, value)]
  | (key, old) :: rest =>
    if key = name then (name, value) :: rest else (key, old) :: setAttribute name value rest

/-- Set an attribute. -/
def set {π : Type} (e : ElementOf π) (name value : String) : ElementOf π :=
  { e with attributes := setAttribute name value e.attributes }

/-- An attribute that was set has its value. -/
theorem lookup_setAttribute (name value : String) (pairs : List (String × String)) :
    (setAttribute name value pairs).lookup name = some value := by
  induction pairs with
  | nil => simp [setAttribute]
  | cons pair rest ih =>
    obtain ⟨key, old⟩ := pair
    by_cases h : key = name
    · simp [setAttribute, h]
    · have h' : (name == key) = false := by simpa using fun hk => h hk.symm
      simp [setAttribute, h, h', List.lookup_cons, ih]

/-- The elements directly inside. -/
def children (e : Element) : List Element :=
  e.content.filterMap Piece.element?

/-- The last element directly inside. -/
def lastChild? (e : Element) : Option Element :=
  e.children.getLast?

/-- The text before the first element inside. -/
def leadingText (e : Element) : Prose :=
  e.content.takeWhile fun piece => !piece.isElement

/-- What follows the text before the first element inside. -/
def afterText (e : Element) : Prose :=
  e.content.dropWhile fun piece => !piece.isElement

/-- The text after the last element inside. -/
def trailingText (e : Element) : Prose :=
  (e.content.reverse.takeWhile fun piece => !piece.isElement).reverse

/-- Add pieces at the end. -/
def add (e : Element) (pieces : Prose) : Element :=
  { e with content := e.content ++ pieces }

/-- Add an element at the end. -/
def addChild (e child : Element) : Element :=
  e.add [.element child]

/-- Split at the last element inside: what precedes it, the element, and the text
after it. -/
def splitLast? (e : Element) : Option (Prose × Element × Prose) :=
  let tail := e.trailingText
  match e.content.reverse.drop tail.length with
  | .element child :: before => some (before.reverse, child, tail)
  | _ => none

/-- Change the last element inside. -/
def mapLast (f : Element → Element) (e : Element) : Element :=
  match e.splitLast? with
  | some (before, child, tail) => { e with content := before ++ .element (f child) :: tail }
  | none => e

/-- Without its last element, the text after it included. -/
def dropLast (e : Element) : Element :=
  match e.splitLast? with
  | some (before, _, _) => { e with content := before }
  | none => e

end ElementOf

/-! ## Depth and parts -/

mutual

/-- How deep the elements inside of an element go, itself included. -/
def ElementOf.height : ElementOf Piece → Nat
  | ⟨_, _, _, content⟩ => Prose.height content + 1

/-- How deep the elements of a text go. -/
def Prose.height : List Piece → Nat
  | [] => 0
  | piece :: rest => max (Piece.height piece) (Prose.height rest)

/-- How deep the elements of a piece go. -/
def Piece.height : Piece → Nat
  | .element e => ElementOf.height e
  | _ => 0

end

namespace Prose

/-- The elements of a content, each with the text behind it; pieces in front of
the first element belong to none. -/
def parts : Prose → List (Element × Prose)
  | [] => []
  | .element e :: rest => (e, rest.takeWhile fun piece => !piece.isElement) :: parts rest
  | _ :: rest => parts rest

/-- The content of elements with texts behind them. -/
def ofParts (found : List (Element × Prose)) : Prose :=
  found.flatMap fun (e, tail) => .element e :: tail

/-- A content without elements has no parts. -/
theorem parts_ofChars (text : List Char) : parts (ofChars text) = [] := by
  induction text with
  | nil => rfl
  | cons c rest ih =>
    have h : parts (List.map Piece.char rest) = [] := ih
    simp [ofChars, parts, h]

end Prose

namespace ElementOf

/-- The parts of what is inside. -/
def parts (e : Element) : List (Element × Prose) :=
  Prose.parts e.content

/-- An element with a text in front and parts behind it. -/
def withParts (e : Element) (text : Prose) (found : List (Element × Prose)) : Element :=
  { e with content := text ++ Prose.ofParts found }

end ElementOf

/-! ## Looking inside -/

mutual

/-- An element and the elements inside of it, in the order of the document. -/
def ElementOf.elements : ElementOf Piece → List Element
  | ⟨tag, attributes, verbatim, content⟩ =>
    ⟨tag, attributes, verbatim, content⟩ :: Prose.elements content

/-- The elements of a text, in the order of the document. -/
def Prose.elements : List Piece → List Element
  | [] => []
  | piece :: rest => Piece.elements piece ++ Prose.elements rest

/-- The elements of a piece, in the order of the document. -/
def Piece.elements : Piece → List Element
  | .element e => ElementOf.elements e
  | _ => []

end

/-- A text without elements has none inside. -/
theorem Prose.elements_ofChars (text : List Char) : Prose.elements (Prose.ofChars text) = [] := by
  induction text with
  | nil => simp [Prose.ofChars, Prose.elements]
  | cons c rest ih =>
    have h : Prose.elements (List.map Piece.char rest) = [] := ih
    simp [Prose.ofChars, Prose.elements, Piece.elements, h]

mutual

/-- An element with every element inside of it changed, the innermost first. -/
def ElementOf.rebuild (f : Element → Element) : ElementOf Piece → Element
  | ⟨tag, attributes, verbatim, content⟩ => f ⟨tag, attributes, verbatim, Prose.rebuild f content⟩

/-- A text with every element changed, the innermost first. -/
def Prose.rebuild (f : Element → Element) : List Piece → Prose
  | [] => []
  | piece :: rest => Piece.rebuild f piece :: Prose.rebuild f rest

/-- A piece with every element changed, the innermost first. -/
def Piece.rebuild (f : Element → Element) : Piece → Piece
  | .element e => .element (ElementOf.rebuild f e)
  | .char c => .char c
  | .literal c => .literal c
  | .held text => .held text
  | .raw markup fence => .raw markup fence

end

mutual

/-- An element whose first element inside of a kind is changed, if there is one. -/
def ElementOf.changeFirst? (isWanted : Element → Bool) (f : Element → Element) :
    ElementOf Piece → Option Element
  | ⟨tag, attributes, verbatim, content⟩ =>
    (Prose.changeFirst? isWanted f content).map fun content => ⟨tag, attributes, verbatim, content⟩

/-- A text whose first element of a kind is changed, if there is one. -/
def Prose.changeFirst? (isWanted : Element → Bool) (f : Element → Element) :
    List Piece → Option Prose
  | [] => none
  | piece :: rest =>
    match Piece.changeFirst? isWanted f piece with
    | some piece => some (piece :: rest)
    | none => (Prose.changeFirst? isWanted f rest).map (piece :: ·)

/-- A piece whose first element of a kind is changed, if there is one. -/
def Piece.changeFirst? (isWanted : Element → Bool) (f : Element → Element) : Piece → Option Piece
  | .element e =>
    if isWanted e then some (.element (f e))
    else (ElementOf.changeFirst? isWanted f e).map .element
  | _ => none

end

end DocPress.Markdown

namespace DocPress.Markdown.TagName

/-! ## Tag names

Which elements stand as blocks of their own, and which have no content. -/

/-- The elements that stand as blocks. -/
def blocks : List String :=
  ["address", "article", "aside", "blockquote", "details", "div", "dl", "fieldset", "figcaption",
    "figure", "footer", "form", "h1", "h2", "h3", "h4", "h5", "h6", "header", "hgroup", "hr",
    "main", "menu", "nav", "ol", "p", "pre", "section", "table", "ul", "canvas", "colgroup", "dd",
    "body", "dt", "group", "html", "iframe", "li", "legend", "math", "map", "noscript", "output",
    "object", "option", "progress", "script", "style", "summary", "tbody", "td", "textarea",
    "tfoot", "th", "thead", "tr", "video", "center"]

/-- The elements without content. -/
def voids : List String :=
  ["area", "base", "basefont", "br", "col", "embed", "frame", "hr", "img", "input", "isindex",
    "link", "meta", "param", "source", "track", "wbr"]

/-- A tag without the slashes at its end, in lower case. -/
def folded (tag : List Char) : List Char :=
  ((Text.lower tag).reverse.dropWhile (· == '/')).reverse

/-- Whether an element stands as a block. -/
def isBlock (tag : String) : Bool :=
  blocks.contains (String.ofList (folded tag.toList))

/-- Whether an element has no content. -/
def isVoid (tag : String) : Bool :=
  voids.contains (String.ofList (Text.lower tag.toList))

end DocPress.Markdown.TagName
