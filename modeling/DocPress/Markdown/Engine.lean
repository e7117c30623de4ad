import DocPress.Markdown.Contents
import DocPress.Markdown.Definitions
import DocPress.Markdown.Footnote
import DocPress.Markdown.RawBlock
import DocPress.Markdown.Span.Tree

/-!
# The Markdown engine

The engine is built for a dialect and counts how often it was put back to its
start.  The count makes identifiers of footnotes unique: the first document of an
engine has the number three, since building it counts as well.

Main results:

- `build_unknown`: an extension that does not exist keeps the engine from being built.
- `reset_number`: every document has a number of its own.
-/

namespace DocPress.Markdown

/-! ## From a source to markup

A source is made uniform, its fences and raw blocks are taken out, its blocks are
read, and then its spans.  What comes of it is laid out, given its attributes,
abbreviations and contents, and written. -/

/-- A source made uniform, with its fences and raw blocks taken out. -/
def prepare (d : Dialect) (source : List Char) : Prose :=
  let lines := Source.lines source
  let lines := if d.has .fences then Fence.replace lines else lines.map Prose.ofChars
  takeRawBlocks ⟨d.has .markedBlocks⟩ (Prose.unlines lines)

/-- The document of a source, with its list of footnotes, and its definitions. -/
def readBlocks (d : Dialect) (noteStem : String) (text : Prose) :
    Except Raised (Element × Definitions) :=
  let reading : Collect Element := do
    let root ← Block.readInto d (.bare "div") text
    let defs ← get
    Footnote.addTo d ⟨d, defs, noteStem⟩ root
  reading.run .empty

/-- A bound for the steps that the texts of an element take. -/
def spanFuel (source : Prose) : Nat :=
  16 * source.length + 256

/-- A document with its spans read and its list of footnotes in order. -/
def readSpans (d : Dialect) (noteStem : String) (fuel : Nat) (root : Element)
    (defs : Definitions) : Except Raised Element := do
  let context : Span.Context := ⟨d, defs, noteStem⟩
  let (content, uses) := (Span.walk context (Span.rules d) false fuel root.content).run .none
  if d.has .footnotes && !defs.notes.isEmpty then
    Footnote.finishIn context uses { root with content }
  else pure { root with content }

/-- A document laid out, with attributes, abbreviations and contents. -/
def finish (d : Dialect) (defs : Definitions) (root : Element) : Element :=
  let root := Layout.apply root
  let root := if d.has .attributeLists then AttributeList.apply root else root
  let root := Abbreviation.apply defs.abbreviations root
  if d.has .contents then Contents.apply root else root

/-- The markup of a source in a dialect; identifiers of footnotes start with a stem. -/
def convert (d : Dialect) (noteStem : String) (source : String) : Except Raised String :=
  let source := source.toList
  if source.all Text.isBlank then .ok ""
  else do
    let text := prepare d source
    let (root, defs) ← readBlocks d noteStem text
    let root ← readSpans d noteStem (spanFuel text) root defs
    let markup := Printer.prose false (finish d defs root).content
    pure (String.ofList (Text.strip markup))

end DocPress.Markdown

namespace DocPress

/-! ## The engine -/

/-- The state of the Markdown engine. -/
structure Markdown where
  dialect : Markdown.Dialect
  resets : Nat

namespace Markdown

/-- The number of the document that an engine is at. -/
def number (state : Markdown) : Nat :=
  state.resets + 2

/-- What stands before the labels of footnotes in identifiers. -/
def noteStem (state : Markdown) : String :=
  if state.dialect.uniqueNotes then toString state.number ++ "-" else ""

/-- The engine. -/
def engine : Engine Markdown where
  build setup :=
    match Dialect.ofSetup setup with
    | .ok dialect => .ok ⟨dialect, 0⟩
    | .error missing => .error ⟨.moduleNotFound, "No module named '" ++ missing ++ "'"⟩
  reset state := (.ok (), { state with resets := state.resets + 1 })
  convert source state := (convert state.dialect state.noteStem source, state)

/-- Every document has a number of its own. -/
theorem reset_number (state : Markdown) :
    (engine.reset state).2.number = state.number + 1 := by
  simp [engine, number]

/-- An extension that does not exist keeps the engine from being built. -/
theorem build_unknown {name : String} (h : Extension.ofName? name = none) :
    engine.build (.of [name]) =
      .error ⟨.moduleNotFound, "No module named '" ++ Extension.missingPart name ++ "'"⟩ := by
  simp [engine, Dialect.ofSetup, Dialect.ofNames, EngineSetup.of, h, Except.map]

end Markdown

end DocPress
