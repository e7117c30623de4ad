import DocPress.Engine.Echo
import DocPress.Plugin.Samples
import DocPress.Proofs.Processor.Course
import DocPress.Proofs.Value.Updating
import Mathlib.Data.List.Nodup

/-!
# What compiling leaves behind

A document that is compiled has gone through every plugin once.  Its content is the last
output, its notes are those that it had with those of rendering and of the plugins behind
them, and five names of its data say how it was compiled, whatever stood there before.

Main results:

- `declares_update`: the five names are written, whatever stood there before.
- `document_processRendered_of_ok`: a run of plugins that does not fail is finished with its
  last output.
- `finishing_law`: a compiled document is what its plugins made of the rendered one, with
  the five names written last.
-/

namespace DocPress

namespace Processor

variable {σ : Type}

/-! ## The data of compiling -/

/-- The names under which data say how a document was compiled. -/
def compiledNames : List String :=
  ["front_matter", "format", "development", "output_format", "provider_import_source"]

/-- Data say how a document was compiled: its front matter, and what the processor was built
for. -/
structure Declares (processor : Processor σ) (metadata data : Mapping) : Prop where
  frontMatter : data.get? (.text "front_matter") = some (.map metadata)
  format : data.get? (.text "format") = some (.text processor.format.name)
  development : data.get? (.text "development") = some (.bool processor.options.development)
  outputFormat : data.get? (.text "output_format") = some (.text processor.options.outputShape.name)
  provider : data.get? (.text "provider_import_source") =
    some (match processor.options.providerImportSource with
      | some source => .text source
      | none => .none)

section Data

variable (processor : Processor σ) (metadata : Mapping)

theorem keys_dataOf : (processor.dataOf metadata).keys = compiledNames.map .text := rfl

/-- The data of compiling stand under names. -/
theorem areNames_dataOf : (processor.dataOf metadata).AreNames where
  texts key hkey := by
    rw [keys_dataOf] at hkey
    obtain ⟨name, -, rfl⟩ := List.mem_map.1 hkey
    exact ⟨name, rfl⟩
  nodup := by
    rw [keys_dataOf]
    apply List.Nodup.map
    · intro first second hsame
      exact Value.text.inj hsame
    · decide

/-- Writing the data of compiling says how the document was compiled, whatever stood there
before. -/
theorem declares_update (data : Mapping) :
    Declares processor metadata (data.update (processor.dataOf metadata)) := by
  have hreads {name : String} {value : Value}
      (hmem : (.text name, value) ∈ processor.dataOf metadata) :
      (data.update (processor.dataOf metadata)).get? (.text name) = some value :=
    Mapping.get?_update_text (areNames_dataOf processor metadata) data hmem
  constructor
  case frontMatter => exact hreads (by simp [dataOf])
  case format => exact hreads (by simp [dataOf])
  case development => exact hreads (by simp [dataOf])
  case outputFormat => exact hreads (by simp [dataOf])
  case provider =>
    apply hreads
    cases hp : processor.options.providerImportSource <;> simp [dataOf, hp]

/-- The other data stay as they are, in order. -/
theorem without_update_dataOf (data : Mapping) :
    (data.update (processor.dataOf metadata)).without compiledNames = data.without compiledNames := by
  apply Mapping.without_update
  intro key hkey
  rw [keys_dataOf] at hkey
  obtain ⟨name, hname, rfl⟩ := List.mem_map.1 hkey
  exact ⟨name, hname, rfl⟩

/-- Names that are there keep their places, and the others go to the end. -/
theorem keys_update_dataOf (data : Mapping) :
    (data.update (processor.dataOf metadata)).keys =
      data.keys ++
        (compiledNames.filter fun name => (data.get? (.text name)).isNone).map .text := by
  rw [Mapping.keys_update (areNames_dataOf processor metadata), keys_dataOf, List.filter_map]
  rfl

end Data

/-! ## Finishing -/

section Finishing

variable {E : Engine σ} {mode : Mode} {document : Document} {processor : Processor σ}

/-- Once every plugin was called, the document as they left it is finished with the last
output. -/
theorem document_processRendered_of_ok {rendered : Rendered}
    (h : (processRendered mode rendered document processor).outcome = .ok ()) :
    (visitsFrom mode processor.plugins rendered.html document).length = processor.plugins.length ∧
    (processRendered mode rendered document processor).document =
      processor.finish
        (Visit.outputAfter mode rendered.html
          (visitsFrom mode processor.plugins rendered.html document))
        rendered.frontMatter
        (Visit.documentAfter mode document
          (visitsFrom mode processor.plugins rendered.html document)) := by
  have hleft : (runPlugins mode processor.plugins rendered.html document).2 =
      Visit.documentAfter mode document
        (visitsFrom mode processor.plugins rendered.html document) := document_runPlugins
  unfold processRendered at h ⊢
  rcases hr : runPlugins mode processor.plugins rendered.html document with ⟨failure | html, last⟩
  · rw [hr] at h
    cases h
  · rw [hr] at hleft
    obtain ⟨houtput, hlength⟩ := output_runPlugins (congrArg Prod.fst hr)
    rw [← houtput, ← hleft]
    exact ⟨hlength, rfl⟩

/-- Compiling a document has gone through all plugins and has finished what they left. -/
structure Finishes (E : Engine σ) (mode : Mode) (document : Document) (processor : Processor σ)
    (split : FrontMatter.Split) (rendered : Rendered) : Prop where
  /-- The document was rendered, the front matter taken off. -/
  rendersTo : ∃ source, RendersTo E document processor source split rendered
  /-- Every plugin was called once, in order. -/
  plugins_eq : (processor.visits E mode document).map Visit.plugin = processor.plugins
  /-- It was given the last output before it, or the rendered text, and the document as the
  plugins before it left it, the first one with its new notes. -/
  course : IsCourse mode processor.plugins rendered.html (document.noted rendered.notes)
    (processor.visits E mode document)
  /-- It saw the original content unless a plugin before it had changed that. -/
  value_seen : ∀ earlier visit later,
    processor.visits E mode document = earlier ++ visit :: later →
    (∀ other ∈ earlier, (other.effect mode).value = other.document.value) →
    visit.document.value = document.value
  /-- It saw the original notes, those of rendering, and those that the plugins before it had
  attached. -/
  messages_seen : ∀ earlier visit later,
    processor.visits E mode document = earlier ++ visit :: later →
    ∀ attached : Visit → List Value,
      (∀ other ∈ earlier, (other.effect mode).messages = other.document.messages ++ attached other) →
      visit.document.messages =
        document.messages ++ rendered.notes.map .text ++ earlier.flatMap attached
  /-- The content is the last output. -/
  value_eq : (processor.process E mode document).document.value =
    .text (Visit.outputAfter mode rendered.html (processor.visits E mode document))
  /-- The path and the notes are those that the plugins left. -/
  path_eq : (processor.process E mode document).document.path =
    (Visit.documentAfter mode (document.noted rendered.notes)
      (processor.visits E mode document)).path
  messages_eq : (processor.process E mode document).document.messages =
    (Visit.documentAfter mode (document.noted rendered.notes)
      (processor.visits E mode document)).messages
  /-- Where the plugins did nothing but attach notes, these stand in order behind those of
  rendering, which stand behind the original ones. -/
  messages_attached : ∀ attached : Visit → List Value,
    (∀ visit ∈ processor.visits E mode document,
      (visit.effect mode).messages = visit.document.messages ++ attached visit) →
    (processor.process E mode document).document.messages =
      document.messages ++ rendered.notes.map .text ++
        (processor.visits E mode document).flatMap attached
  /-- The data say how the document was compiled, whatever the plugins left there. -/
  declares : Declares processor split.metadata (processor.process E mode document).document.data
  /-- The other data are those that the plugins left, in order. -/
  others_eq : (processor.process E mode document).document.data.without compiledNames =
    (Visit.documentAfter mode (document.noted rendered.notes)
      (processor.visits E mode document)).data.without compiledNames
  /-- What was there keeps its place, and new names go to the end. -/
  keys_eq : (processor.process E mode document).document.data.keys =
    (Visit.documentAfter mode (document.noted rendered.notes)
        (processor.visits E mode document)).data.keys ++
      (compiledNames.filter fun name =>
        ((Visit.documentAfter mode (document.noted rendered.notes)
          (processor.visits E mode document)).data.get? (.text name)).isNone).map .text

/-- A compiled document is what its plugins made of the rendered one, each called once with
what those before it gave and left, with the data of compiling written last. -/
theorem finishing_law (h : (processor.process E mode document).outcome = .ok ()) :
    ∃ split rendered, Finishes E mode document processor split rendered := by
  have hn : (mode = .synchronous && processor.hasAsyncSteps) = false := by
    rw [← Bool.not_eq_true]
    intro hrefused
    rw [process, if_pos hrefused] at h
    cases h
  rcases hr : processor.renderDocument E document with ⟨failure | rendered, noted, used⟩
  · rw [(process_of_unrendered hn hr).1] at h
    cases h
  obtain ⟨source, split, hrendered⟩ := (rendersTo_of_ok hr).1
  obtain ⟨⟨engine, hprocess⟩, hvisits⟩ := process_of_rendersTo hn hr
  rw [hprocess] at h
  obtain ⟨hlength, hdocument⟩ := document_processRendered_of_ok h
  have hcourse : IsCourse mode processor.plugins rendered.html (document.noted rendered.notes)
      (processor.visits E mode document) := hvisits ▸ isCourse_visitsFrom
  have hfinished : (processor.process E mode document).document =
      processor.finish
        (Visit.outputAfter mode rendered.html (processor.visits E mode document)) split.metadata
        (Visit.documentAfter mode (document.noted rendered.notes)
          (processor.visits E mode document)) := by
    rw [hprocess, hdocument, hvisits, hrendered.frontMatter_eq]
    rfl
  refine ⟨split, rendered, ?_⟩
  constructor
  case rendersTo => exact ⟨source, hrendered⟩
  case plugins_eq =>
    rw [hcourse.plugins_eq, hvisits]
    exact List.take_of_length_le (Nat.le_of_eq hlength.symm)
  case course => exact hcourse
  case value_seen =>
    intro earlier visit later hsplit hkeeps
    rw [hcourse.document_eq earlier visit later hsplit]
    rw [hsplit] at hcourse
    exact hcourse.of_append.keeps_documentAfter Document.value hkeeps
  case messages_seen =>
    intro earlier visit later hsplit attached hattached
    rw [hcourse.document_eq earlier visit later hsplit]
    rw [hsplit] at hcourse
    exact hcourse.of_append.messages_documentAfter attached hattached
  case value_eq => rw [hfinished, finish]
  case path_eq => rw [hfinished, finish]
  case messages_eq => rw [hfinished, finish]
  case messages_attached =>
    intro attached hattached
    rw [hfinished, finish]
    exact hcourse.messages_documentAfter attached hattached
  case declares =>
    rw [hfinished, finish]
    exact declares_update processor split.metadata _
  case others_eq =>
    rw [hfinished, finish]
    exact without_update_dataOf processor split.metadata _
  case keys_eq =>
    rw [hfinished, finish]
    exact keys_update_dataOf processor split.metadata _

/-- A processor of samples that change the document, empty the output and have themselves
awaited. -/
def busy : Processor Echo where
  options := { development := true, providerImportSource := some "#" }
  format := .mdx
  renderer := ⟨[], ⟨⟨[], []⟩, 0⟩⟩
  plugins := ["note", "async_wrap", "retag", "blank", "async_none"].map fun name =>
    Plugin.sample ⟨name, "function"⟩

/-- A document with front matter, and with data under a name of compiling and another one. -/
def titled : Document where
  value := .text "---\ntitle: Intro\n---\nBody\n"
  data := [(.text "kept", .int 1), (.text "format", .text "mine")]
  messages := [.text "seen"]

theorem finishing_law_busy :
    (busy.process Echo.engine .asynchronous titled).outcome = .ok () ∧
      ∃ split rendered, Finishes Echo.engine .asynchronous titled busy split rendered := by
  have h : (busy.process Echo.engine .asynchronous titled).outcome = .ok () :=
    eq_ok_of_toOption (by decide +kernel)
  exact ⟨h, finishing_law h⟩

end Finishing

end Processor

end DocPress
