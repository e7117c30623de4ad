import DocPress.Markdown.Block.Rule

/-!
# Elements written as markup

An element of the source that asks to be read stands at the start of a block of
its own.  Its `markdown` attribute says how: as blocks, as spans or not at all.

Main results:

- `takeAttribute_fst`: reading drops the attribute.
-/

namespace DocPress.Markdown.Block

/-- An element without its `markdown` attribute, and the attribute. -/
def takeAttribute (e : Element) : Element × String :=
  ({ e with attributes := e.attributes.filter fun pair => pair.1 != "markdown" },
    (e.attribute? "markdown").getD "off")

/-- Reading drops the attribute. -/
theorem takeAttribute_fst (e : Element) :
    ∀ pair ∈ (takeAttribute e).1.attributes, pair.1 ≠ "markdown" := by
  intro pair h
  simp [takeAttribute] at h
  exact h.2

/-- The elements that blocks in some text make. -/
def readText (read : Element → List Prose → Collect Element) (text : Prose) : Collect Prose := do
  if text.isEmpty then pure []
  else
    let made ← read (.bare "div") (Prose.blocks (Prose.dropFeedsRight text))
    pure (made.content.filter Piece.isElement)

/-- Content whose texts behind elements are read as blocks, in order. -/
def readTails (read : Element → List Prose → Collect Element) :
    (fuel : Nat) → Prose → Collect Prose
  | 0, content => pure content
  | _, [] => pure []
  | fuel + 1, piece :: rest => do
    let text := rest.takeWhile fun p => !p.isElement
    let made ← readText read text
    let others ← readTails read fuel (rest.drop text.length)
    pure (piece :: made ++ others)

mutual

/-- Read an element of the source. -/
def readElement (read : Element → List Prose → Collect Element) :
    ElementOf Piece → Collect (ElementOf Piece)
  | ⟨tag, attributes, _, content⟩ => do
    let (e, wish) := takeAttribute ⟨tag, attributes, false, content⟩
    let content ← readContent read content
    if wish = "block" then
      let text := content.takeWhile fun p => !p.isElement
      let after := content.drop text.length
      let tails ← readTails read after.length after
      let first ← readText read text
      pure { e with content := first ++ tails }
    else pure { e with content, verbatim := wish != "span" }

/-- Read the elements in a text. -/
def readContent (read : Element → List Prose → Collect Element) :
    List Piece → Collect (List Piece)
  | [] => pure []
  | piece :: rest => do
    let piece ← readPiece read piece
    let rest ← readContent read rest
    pure (piece :: rest)

/-- Read a piece if it is an element. -/
def readPiece (read : Element → List Prose → Collect Element) : Piece → Collect Piece
  | .element e => do
    let e ← readElement read e
    pure (.element e)
  | .char c => pure (.char c)
  | .literal c => pure (.literal c)
  | .held text => pure (.held text)
  | .raw markup fence => pure (.raw markup fence)

end

/-- An element of the source at the start of a block. -/
def marked : Rule := fun reader site =>
  match site.block with
  | .element e :: _ => some do
    let e ← readElement (site.read reader) e
    pure (site.parent.addChild e, site.rest)
  | _ => none

end DocPress.Markdown.Block
