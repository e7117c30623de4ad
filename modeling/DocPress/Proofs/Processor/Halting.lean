import DocPress.Engine.Echo
import DocPress.Plugin.Samples
import DocPress.Proofs.Processor.Course

/-!
# What failing leaves behind

Processing that fails leaves the document as the stages that ran left it.  Before any
plugin is called it is as it was.  After that it is what the calls of plugins made of the
noted document, up to the call that fails; the processor itself has put nothing into it.

Main results:

- `document_processRendered_of_error`: a run of plugins that fails is all that changes the
  document.
- `halting_law`: processing that fails has met an obstacle ahead of all plugins, or has come
  to the one that fails.
-/

namespace DocPress

namespace Processor

variable {σ : Type} {E : Engine σ} {mode : Mode} {document : Document} {processor : Processor σ}
  {failure : Failure}

/-! ## Ahead of the plugins -/

/-- What keeps a processor from calling plugins on a document, with the failure that it
raises and its kind: a plugin that would have to be awaited, the text of the document, its
front matter, or the engine. -/
inductive Obstacle (E : Engine σ) (mode : Mode) (document : Document) (processor : Processor σ) :
    Failure → ErrorKind → Prop where
  | coroutine {plugin : Plugin} (mode_eq : mode = .synchronous)
      (mem_plugins : plugin ∈ processor.plugins) (isCoroutine_eq : plugin.isCoroutine = true) :
      Obstacle E mode document processor .asynchronousPlugins .processing
  | undecodable {fault : Text.DecodeFault} (text_eq : document.text = .error fault) :
      Obstacle E mode document processor (.undecodable document.path fault) .processing
  | unsplit {source : Value} {failure : Failure} (text_eq : document.text = .ok source)
      (split_eq : FrontMatter.ofValue source = .error failure) :
      Obstacle E mode document processor failure failure.kind
  | unconverted {source : Value} {split : FrontMatter.Split} {reason : Raised}
      (text_eq : document.text = .ok source) (split_eq : FrontMatter.ofValue source = .ok split)
      (convert_eq : (E.convertAnew (String.ofList split.body)
        processor.renderer.engine).1 = .error reason) :
      Obstacle E mode document processor (.conversion reason) .conversion

/-- What keeps a document from being rendered is raised as a failure of its kind. -/
theorem RenderFails.obstacle (h : RenderFails E document processor failure) :
    Obstacle E mode document processor failure failure.kind := by
  cases h with
  | undecodable ht => exact Obstacle.undecodable ht
  | unsplit ht hs => exact Obstacle.unsplit ht hs
  | unconverted ht hs hc => exact Obstacle.unconverted ht hs hc

/-- Processing fails ahead of all plugins: it meets an obstacle, calls no plugin and leaves
the document as it was. -/
structure HaltsAhead (E : Engine σ) (mode : Mode) (document : Document) (processor : Processor σ)
    (failure : Failure) : Prop where
  obstacle : Obstacle E mode document processor failure failure.kind
  visits_eq : processor.visits E mode document = []
  document_eq : (processor.process E mode document).document = document

/-! ## At a plugin -/

/-- Processing fails at a call of a plugin, the last of those that it makes. -/
structure HaltsAt (E : Engine σ) (mode : Mode) (document : Document) (processor : Processor σ)
    (failure : Failure) (rendered : Rendered) (earlier : List Visit) (visit : Visit) : Prop where
  /-- The document was rendered. -/
  rendersTo : ∃ source split, RendersTo E document processor source split rendered
  /-- The calls are those of the first plugins, up to the one that fails. -/
  visits_eq : processor.visits E mode document = earlier ++ [visit]
  plugins_eq : (earlier ++ [visit]).map Visit.plugin = processor.plugins.take (earlier.length + 1)
  /-- The plugins before it did not fail. -/
  earlier_succeed : ∀ other ∈ earlier, ∀ raised, ¬ other.Fails mode raised
  /-- It raises the failure itself, or its answer would have to be awaited and was closed. -/
  fails : visit.Raises mode failure ∨
    mode = .synchronous ∧ visit.Closes ∧ failure = .awaitable visit.plugin.label ∧
      failure.kind = .processing
  /-- Each plugin was given the last output and the document as it was then, the first one the
  rendered text and the document with its new notes. -/
  course : IsCourse mode processor.plugins rendered.html (document.noted rendered.notes)
    (earlier ++ [visit])
  /-- The document is as the calls left it. -/
  document_eq : (processor.process E mode document).document =
    Visit.documentAfter mode (document.noted rendered.notes) (earlier ++ [visit])
  /-- Its content is the original one unless a plugin has changed it. -/
  value_eq : (∀ other ∈ earlier ++ [visit], (other.effect mode).value = other.document.value) →
    (processor.process E mode document).document.value = document.value
  /-- At no key has it other data than before unless a plugin has changed that. -/
  data_eq : ∀ key, (∀ other ∈ earlier ++ [visit],
      (other.effect mode).data.get? key = other.document.data.get? key) →
    (processor.process E mode document).document.data.get? key = document.data.get? key

/-- A run of plugins that fails is all that changes the rendered document. -/
theorem document_processRendered_of_error {rendered : Rendered}
    (h : (processRendered mode rendered document processor).outcome = .error failure) :
    (processRendered mode rendered document processor).document =
      Visit.documentAfter mode document
        (visitsFrom mode processor.plugins rendered.html document) := by
  have hruns := outcome_processRendered_error_iff.1 h
  rw [← document_runPlugins]
  unfold processRendered
  rcases hr : runPlugins mode processor.plugins rendered.html document with ⟨raised | html, last⟩
  · rfl
  · rw [hr] at hruns
    cases hruns

/-- A failure of the run of plugins comes from one plugin, and the document is as the calls
up to it left it. -/
theorem exists_haltsAt {rendered : Rendered} {noted : Document} {used : Processor σ}
    (hn : (mode = .synchronous && processor.hasAsyncSteps) = false)
    (hr : processor.renderDocument E document = (.ok rendered, noted, used))
    (h : (processor.process E mode document).outcome = .error failure) :
    ∃ earlier visit, HaltsAt E mode document processor failure rendered earlier visit := by
  obtain ⟨⟨engine, hprocess⟩, hvisits⟩ := process_of_rendersTo hn hr
  rw [hprocess] at h
  have hruns := outcome_processRendered_error_iff.1 h
  have hdocument := document_processRendered_of_error h
  obtain ⟨earlier, visit, hsplit, hfails, hearlier⟩ := exists_last_of_error hruns
  have hcourse : IsCourse mode processor.plugins rendered.html (document.noted rendered.notes)
      (earlier ++ [visit]) := hsplit ▸ isCourse_visitsFrom
  have hleft : (processor.process E mode document).document =
      Visit.documentAfter mode (document.noted rendered.notes) (earlier ++ [visit]) := by
    rw [hprocess, hdocument, ← hsplit]
  refine ⟨earlier, visit, ?_⟩
  constructor
  case rendersTo => exact (rendersTo_of_ok hr).1
  case visits_eq => exact hvisits.trans hsplit
  case plugins_eq =>
    have hplugins := hcourse.plugins_eq
    rwa [List.length_append, List.length_singleton] at hplugins
  case earlier_succeed => exact hearlier
  case fails =>
    rcases hfails with hraises | ⟨hmode, hcloses, rfl⟩
    · exact .inl hraises
    · exact .inr ⟨hmode, hcloses, rfl, rfl⟩
  case course => exact hcourse
  case document_eq => exact hleft
  case value_eq =>
    intro hkeeps
    rw [hleft]
    exact hcourse.keeps_documentAfter Document.value hkeeps
  case data_eq =>
    intro key hkeeps
    rw [hleft]
    exact hcourse.keeps_documentAfter (fun document => document.data.get? key) hkeeps

/-! ## Failing at all -/

/-- Processing that fails has met an obstacle ahead of all plugins and leaves the document
alone, or it has come to the plugin that fails and leaves the document as the plugins left
it. -/
theorem halting_law (h : (processor.process E mode document).outcome = .error failure) :
    HaltsAhead E mode document processor failure ∨
      ∃ rendered earlier visit,
        HaltsAt E mode document processor failure rendered earlier visit := by
  by_cases ha : mode = .synchronous ∧ processor.hasAsyncSteps = true
  · left
    obtain ⟨rfl, hasync⟩ := ha
    have hrefused := process_of_coroutine E document hasync
    rw [hrefused] at h
    cases h
    obtain ⟨plugin, hmem, hcoroutine⟩ := hasAsyncSteps_iff.1 hasync
    constructor
    case obstacle => exact Obstacle.coroutine rfl hmem hcoroutine
    case visits_eq => simp [visits, hasync]
    case document_eq => rw [hrefused]
  · have hn : (mode = .synchronous && processor.hasAsyncSteps) = false := by simpa using ha
    rcases hr : processor.renderDocument E document with ⟨raised | rendered, noted, used⟩
    · left
      obtain ⟨hprocess, hvisits⟩ := process_of_unrendered hn hr
      have hrenders : RenderFails E document processor raised := by
        rw [← renderDocument_error_iff, hr]
      rw [hprocess] at h
      cases h
      constructor
      case obstacle => exact hrenders.obstacle
      case visits_eq => exact hvisits
      case document_eq => rw [hprocess, (renderDocument_error hr).1]
    · right
      exact ⟨rendered, exists_haltsAt hn hr h⟩

/-- A processor of samples, the third of which raises. -/
def failingThird : Processor Echo where
  options := {}
  format := .md
  renderer := ⟨[], ⟨⟨[], []⟩, 0⟩⟩
  plugins := ["note", "retag", "explode", "upper"].map fun name =>
    Plugin.sample ⟨name, "function"⟩

/-- A document whose leading block is never closed, with a note that it came with. -/
def openBlock : Document where
  value := .text "---\nIntro\n"
  messages := [.text "seen"]

theorem halting_law_failingThird :
    (failingThird.process Echo.engine .asynchronous openBlock).outcome =
        .error (.raised ⟨.lookup, "plugin failed"⟩) ∧
      (HaltsAhead Echo.engine .asynchronous openBlock failingThird
          (.raised ⟨.lookup, "plugin failed"⟩) ∨
        ∃ rendered earlier visit,
          HaltsAt Echo.engine .asynchronous openBlock failingThird
            (.raised ⟨.lookup, "plugin failed"⟩) rendered earlier visit) := by
  have h : (failingThird.process Echo.engine .asynchronous openBlock).outcome =
      .error (.raised ⟨.lookup, "plugin failed"⟩) := by rfl
  exact ⟨h, halting_law h⟩

end Processor

end DocPress
