import DocPress.Markdown.Block.Tree
import DocPress.Markdown.Span.Rule

/-!
# The list of footnotes

Footnotes stand at the end of a document, or where its author put a marker, in a
list under a rule.  The last paragraph of each leads back to its references.

Main results:

- `backlinks_length`: a footnote leads back to each of its references.
-/

namespace DocPress.Markdown.Footnote

/-! ## Making the list -/

/-- The title of a link back to a reference. -/
def backTitle (number : Nat) : String :=
  "Jump back to footnote " ++ toString number ++ " in the text"

/-- A link back to a reference. -/
def backlink (number : Nat) (target : String) : Element :=
  ((ElementOf.of "a" [.raw (Prose.ofString "&#8617;") none]).set "href" ("#" ++ target)).set
    "class" "footnote-backref" |>.set "title" (backTitle number)

/-- An item with a link behind its last paragraph, or in a new one. -/
def withBacklink (link item : Element) : Element :=
  match item.lastChild? with
  | none => item
  | some last =>
    if last.tag == "p" then
      item.mapLast fun p => p.add [.raw (Prose.ofString "&#160;") none, .element link]
    else item.addChild (.of "p" [.element link])

/-- The item of a footnote, read as blocks. -/
def item (d : Dialect) (context : Span.Context) (number : Nat) (label : String) (text : Prose) :
    Collect Element := do
  let made ← Block.readInto d (.bare "div") text
  let li := (ElementOf.of "li" (made.content.filter Piece.isElement)).set "id"
    (Span.noteId context label)
  pure (withBacklink (backlink number (Span.referenceId context 1 label)) li)

/-- The items of some footnotes, numbered from one on in the order of their
definitions. -/
def items (d : Dialect) (context : Span.Context) :
    (number : Nat) → List (String × Prose) → Collect Prose
  | _, [] => pure []
  | number, (label, text) :: rest => do
    let first ← item d context number label text
    let others ← items d context (number + 1) rest
    pure (.element first :: others)

/-- The list of some footnotes. -/
def list (d : Dialect) (context : Span.Context) (notes : List (String × Prose)) :
    Collect Element := do
  let found ← items d context 1 notes
  pure <| (ElementOf.of "div" [.element (.bare "hr"), .element (.of "ol" found)]).set
    "class" "footnote"

/-! ## Placing the list -/

/-- Whether a text holds the marker for footnotes. -/
def holdsMarker (text : Prose) : Bool :=
  (Pattern.exactly "///Footnotes Go Here///").occurs text

/-- A content with the list in place of its first piece, if that is an element that
starts with the marker, or behind that piece, if the marker follows it. -/
def placeFirst? (notes : Element) : List Piece → Option Prose
  | .element e :: rest =>
    let tail := rest.takeWhile fun piece => !piece.isElement
    if holdsMarker (ElementOf.leadingText e) then some (.element notes :: rest.drop tail.length)
    else if holdsMarker tail then some (.element e :: .element notes :: rest.drop tail.length)
    else none
  | _ => none

mutual

/-- An element with the list in place of the marker inside of it, if there is one. -/
def placeIn (notes : Element) : ElementOf Piece → Option Element
  | ⟨tag, attributes, verbatim, content⟩ =>
    (place notes content).map fun content => ⟨tag, attributes, verbatim, content⟩

/-- A content with the list in place of the marker inside of it, if there is one. -/
def place (notes : Element) : List Piece → Option Prose
  | [] => none
  | piece :: rest =>
    match placeFirst? notes (piece :: rest) with
    | some content => some content
    | none =>
      match placePiece notes piece with
      | some piece => some (piece :: rest)
      | none => (place notes rest).map (piece :: ·)

/-- A piece with the list in place of the marker inside of it, if there is one. -/
def placePiece (notes : Element) : Piece → Option Piece
  | .element e => (placeIn notes e).map .element
  | _ => none

end

/-- A document with its list of footnotes, if it has footnotes. -/
def addTo (d : Dialect) (context : Span.Context) (root : Element) : Collect Element := do
  let defs ← get
  if !d.has .footnotes || defs.notes.isEmpty then pure root
  else
    let notes ← list d context defs.notes
    match place notes root.content with
    | some content => pure { root with content }
    | none => pure (root.addChild notes)

/-! ## References counted -/

/-- Whether an element is a link back to a reference. -/
def isBacklink (e : Element) : Bool :=
  e.tag == "a" && e.attribute? "class" == some "footnote-backref"

/-- The first link back inside of an element. -/
def firstBacklink? (e : Element) : Option Element :=
  (Prose.elements e.content).find? isBacklink

/-- The links back to the second and further references of a footnote. -/
def backlinks (context : Span.Context) (label : String) (link : Element) (count : Nat) : Prose :=
  (List.range (count - 1)).map fun i =>
    .element (link.set "href" ("#" ++ Span.referenceId context (i + 2) label))

/-- A footnote leads back to each of its references: the first by the link it has,
the others by links of their own. -/
theorem backlinks_length (context : Span.Context) (label : String) (link : Element) (count : Nat) :
    (backlinks context label link count).length = count - 1 := by
  simp [backlinks]

/-- The label of an item of the list. -/
def labelOf? (context : Span.Context) (item : Element) : Option String :=
  (item.attribute? "id").bind fun id =>
    (Text.dropPrefix? (Span.noteId context "").toList id.toList).map String.ofList

/-- An item with its further links back, behind everything in its last element. -/
def extendItem (context : Span.Context) (uses : Span.NoteUses) (item : Element) : Element :=
  match labelOf? context item with
  | none => item
  | some label =>
    match firstBacklink? item with
    | none => item
    | some link =>
      let links := backlinks context label link (uses.count label)
      item.mapLast fun last => last.add links

/-- Put items in the order of first references.  An identifier that is unique
across documents is no label, so such items keep their order. -/
def order (uses : Span.NoteUses) (found : List Element) : List Element :=
  let rank := fun (item : Element) =>
    let id := ((item.attribute? "id").getD "").toList
    let label := String.ofList ((Text.cutAt? [':'] id).elim id Prod.snd)
    uses.order.idxOf label
  found.mergeSort fun a b => rank a ≤ rank b

/-- An item whose first link back has a number in its title, if it has such a link. -/
def renumber? (number : Nat) (item : Element) : Option Element :=
  item.changeFirst? isBacklink fun link => link.set "title" (backTitle number)

/-- The items of the list, in order and numbered.  An item without a link back
cannot be numbered. -/
def ordered (uses : Span.NoteUses) (found : List Element) : Except Raised (List Element) :=
  ((order uses found).zipIdx 1).mapM fun (item, number) =>
    match renumber? number item with
    | some item => .ok item
    | none => .error ⟨.attribute, "'NoneType' object has no attribute 'set'"⟩

/-- The list with its items in order, if the references were in another order than
the definitions, and with all links back. -/
def finish (context : Span.Context) (uses : Span.NoteUses) (notes : Element) :
    Except Raised Element := do
  let labels := context.definitions.notes.map Prod.fst
  let parts ← notes.parts.mapM fun (e, tail) => do
    if e.tag != "ol" then pure (e, tail)
    else
      let found ← if uses.order = labels then pure e.children else ordered uses e.children
      pure (ElementOf.of "ol" (found.map fun item => .element (extendItem context uses item)), tail)
  pure (notes.withParts notes.leadingText parts)

/-- Whether an element is the list of footnotes. -/
def isList (e : Element) : Bool :=
  e.tag == "div" && e.attribute? "class" == some "footnote"

mutual

/-- An element with the list of footnotes inside of it finished. -/
def finishIn (context : Span.Context) (uses : Span.NoteUses) :
    ElementOf Piece → Except Raised (ElementOf Piece)
  | ⟨tag, attributes, verbatim, content⟩ => do
    let e : Element := ⟨tag, attributes, verbatim, content⟩
    if isList e then finish context uses e
    else
      let content ← finishAll context uses content
      pure { e with content }

/-- A content with the list of footnotes inside of it finished. -/
def finishAll (context : Span.Context) (uses : Span.NoteUses) :
    List Piece → Except Raised (List Piece)
  | [] => pure []
  | piece :: rest => do
    let piece ← finishPiece context uses piece
    let rest ← finishAll context uses rest
    pure (piece :: rest)

/-- A piece with the list of footnotes inside of it finished. -/
def finishPiece (context : Span.Context) (uses : Span.NoteUses) : Piece → Except Raised Piece
  | .element e => (finishIn context uses e).map .element
  | .char c => pure (.char c)
  | .literal c => pure (.literal c)
  | .held text => pure (.held text)
  | .raw markup fence => pure (.raw markup fence)

end

end DocPress.Markdown.Footnote
