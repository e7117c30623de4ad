import DocPress.Engine
import DocPress.ExtensionNames
import DocPress.FrontMatter

/-!
# Rendering

A renderer is an engine built once for a list of extensions.  Rendering takes the
front matter off a source, puts the engine back to its start and converts the
body.

Main results:

- `create_eq_ok_iff`: when a renderer can be built, and which.
- `render_of_split_error`: a fault in front matter leaves the engine alone.
-/

namespace DocPress

/-- An engine with what it was built for. -/
structure Renderer (σ : Type) where
  extensions : List String
  engine : σ

/-- What rendering makes of a source. -/
structure Rendered where
  html : String
  frontMatter : Mapping
  notes : List String

namespace Renderer

/-- The note on a leading block that stays in the source. -/
def blockNote : String :=
  "Leading '---' block is not YAML front matter; rendered as Markdown."

/-- The notes on a source whose body is known: one if nothing was taken off
though three dashes lead. -/
def notesOn (source body : List Char) : List String :=
  let leads := Text.startsWith (source.dropWhile (· == FrontMatter.byteOrderMark))
    ['-', '-', '-']
  if body = source && leads then [blockNote] else []

/-- Build a renderer for some extensions, repetitions dropped. -/
def create {σ : Type} (E : Engine σ) (extensions : List String) : Except Failure (Renderer σ) :=
  let extensions := ExtensionNames.dedupe extensions
  match E.build (.of extensions) with
  | .ok engine => .ok ⟨extensions, engine⟩
  | .error reason => .error (.engineConstruction reason)

/-- A renderer has its extensions without repetitions, and an engine built for these. -/
theorem create_eq_ok_iff {σ : Type} {E : Engine σ} {extensions : List String}
    {renderer : Renderer σ} :
    create E extensions = .ok renderer ↔
      renderer.extensions = ExtensionNames.dedupe extensions ∧
        E.build (.of (ExtensionNames.dedupe extensions)) = .ok renderer.engine := by
  obtain ⟨kept, engine⟩ := renderer
  rw [create]
  cases E.build (.of (ExtensionNames.dedupe extensions)) with
  | error reason => simp
  | ok built => simp [eq_comm]

/-- A renderer cannot be built exactly if the engine declines. -/
theorem create_eq_error_iff {σ : Type} {E : Engine σ} {extensions : List String}
    {failure : Failure} :
    create E extensions = .error failure ↔
      ∃ reason, E.build (.of (ExtensionNames.dedupe extensions)) = .error reason ∧
        failure = .engineConstruction reason := by
  rw [create]
  cases E.build (.of (ExtensionNames.dedupe extensions)) with
  | error reason => simp [eq_comm]
  | ok built => simp

/-- The characters of a source that is text. -/
def charsOf (source : Value) : List Char :=
  (source.text?.getD "").toList

/-- Render a source.  The engine is put back before every conversion, also of the
document after one that failed; not being able to go back counts as failing to convert. -/
def render {σ : Type} (E : Engine σ) (source : Value) (renderer : Renderer σ) :
    Except Failure Rendered × Renderer σ :=
  match FrontMatter.ofValue source with
  | .error failure => (.error failure, renderer)
  | .ok split =>
    let (html, engine) := E.convertAnew (String.ofList split.body) renderer.engine
    let renderer := { renderer with engine }
    match html with
    | .error reason => (.error (.conversion reason), renderer)
    | .ok html => (.ok ⟨html, split.metadata, notesOn (charsOf source) split.body⟩, renderer)

/-- A fault in front matter leaves the engine alone. -/
theorem render_of_split_error {σ : Type} (E : Engine σ) {source : Value} {failure : Failure}
    (renderer : Renderer σ) (h : FrontMatter.ofValue source = .error failure) :
    render E source renderer = (.error failure, renderer) := by
  simp [render, h]

end Renderer

end DocPress
