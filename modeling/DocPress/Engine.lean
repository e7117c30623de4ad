import DocPress.Failure

/-!
# Markdown engines

An engine is a machine that is built for a list of extensions, is put back to its
start between documents, and converts bodies.  It may refuse to be built, it may fail
to go back to its start, and it may fail to convert; it keeps a state either way.

Main results:

- `Engine.convertAnew_of_resets`: an engine that can always be put back converts from there.
- `configurationOf?_footnotes`: footnotes are configured to number themselves per document.
-/

namespace DocPress

/-! ## Machines -/

/-- What an engine is built with: the extensions, and configurations by extension. -/
structure EngineSetup where
  extensions : List String
  configurations : Mapping

/-- An engine with states of a type. -/
structure Engine (σ : Type) where
  build : EngineSetup → Except Raised σ
  reset : σ → Except Raised Unit × σ
  convert : String → σ → Except Raised String × σ

namespace Engine

variable {σ : Type}

/-- Put an engine back to its start and convert a body.  An engine that cannot be put back
is not asked to convert. -/
def convertAnew (E : Engine σ) (body : String) (engine : σ) : Except Raised String × σ :=
  match E.reset engine with
  | (.error reason, engine) => (.error reason, engine)
  | (.ok (), engine) => E.convert body engine

/-- An engine that can always be put back to its start. -/
def Resets (E : Engine σ) : Prop :=
  ∀ engine, (E.reset engine).1 = .ok ()

/-- An engine that can always be put back converts from its start. -/
theorem convertAnew_of_resets {E : Engine σ} (h : E.Resets) (body : String) (engine : σ) :
    E.convertAnew body engine = E.convert body (E.reset engine).2 := by
  have hreset := h engine
  rcases hr : E.reset engine with ⟨reason | ⟨⟩, start⟩
  · rw [hr] at hreset
    cases hreset
  · rw [convertAnew, hr]

end Engine

/-! ## Configurations -/

/-- The configuration of an extension that has one: footnotes have identifiers
that are unique across documents. -/
def configurationOf? (extension : String) : Option Mapping :=
  if extension = "footnotes" then some [(.text "UNIQUE_IDS", .bool true)] else none

@[simp] theorem configurationOf?_footnotes :
    configurationOf? "footnotes" = some [(.text "UNIQUE_IDS", .bool true)] := rfl

/-- The setup for some extensions. -/
def EngineSetup.of (extensions : List String) : EngineSetup where
  extensions := extensions
  configurations := extensions.filterMap fun extension =>
    (configurationOf? extension).map fun m => (.text extension, .map m)

end DocPress
