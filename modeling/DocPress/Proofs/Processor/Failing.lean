import DocPress.Proofs.Processor.Modes

/-!
# How processing fails

Processing goes through stages, and the first that fails ends it.  This module names
what fails in each stage: the refusal up front, the text of the document, its front
matter, the engine, and the calls of plugins.

Main results:

- `renderDocument_error_iff`: rendering fails by the text, the front matter or the engine.
- `outcome_process_error_iff`: processing fails in one of these ways and in no other.
- `outcome_process_construction_iff`: that something could not be constructed is said by
  plugins alone.
-/

namespace DocPress

namespace Processor

variable {σ : Type}

/-! ## Failing to render -/

variable {E : Engine σ} {mode : Mode} {document : Document} {processor : Processor σ}

/-- What keeps a document from being rendered: its text, its front matter, or the
engine. -/
inductive RenderFails (E : Engine σ) (document : Document) (processor : Processor σ) :
    Failure → Prop where
  | undecodable {fault : Text.DecodeFault} (text_eq : document.text = .error fault) :
      RenderFails E document processor (.undecodable document.path fault)
  | unsplit {source : Value} {failure : Failure} (text_eq : document.text = .ok source)
      (split_eq : FrontMatter.ofValue source = .error failure) :
      RenderFails E document processor failure
  | unconverted {source : Value} {split : FrontMatter.Split} {reason : Raised}
      (text_eq : document.text = .ok source) (split_eq : FrontMatter.ofValue source = .ok split)
      (convert_eq : (E.convertAnew (String.ofList split.body)
        processor.renderer.engine).1 = .error reason) :
      RenderFails E document processor (.conversion reason)

/-- Rendering fails exactly by the text, the front matter or the engine. -/
theorem renderDocument_error_iff {failure : Failure} :
    (processor.renderDocument E document).1 = .error failure ↔
      RenderFails E document processor failure := by
  constructor
  · intro h
    have hcase := renderCase E document processor
    generalize processor.renderDocument E document = result at hcase h
    cases hcase with
    | undecodable ht =>
      cases h
      exact .undecodable ht
    | unsplit ht hs =>
      cases h
      exact .unsplit ht hs
    | unconverted ht hs hc =>
      cases h
      exact .unconverted ht hs (congrArg Prod.fst hc)
    | rendered => cases h
  · rintro (ht | ⟨ht, hs⟩ | ⟨ht, hs, hc⟩)
    · simp only [renderDocument, ht]
    · simp only [renderDocument, ht, Renderer.render, hs]
    · simp only [renderDocument, ht, Renderer.render, hs, hc]

/-! ## Failing at all -/

/-- Processing fails exactly if it is refused up front, if the document cannot be
rendered, or by a call of a plugin. -/
theorem outcome_process_error_iff {failure : Failure} :
    (processor.process E mode document).outcome = .error failure ↔
      mode = .synchronous ∧ processor.hasAsyncSteps = true ∧ failure = .asynchronousPlugins ∨
      ¬ (mode = .synchronous ∧ processor.hasAsyncSteps = true) ∧
        RenderFails E document processor failure ∨
      ∃ visit ∈ processor.visits E mode document, visit.Fails mode failure := by
  by_cases hn : mode = .synchronous ∧ processor.hasAsyncSteps = true
  · obtain ⟨rfl, ha⟩ := hn
    rw [process_of_coroutine E document ha]
    simp [visits, ha, eq_comm]
  · have hadmitted : (mode = .synchronous && processor.hasAsyncSteps) = false := by
      simpa using hn
    have hupfront : ¬ (mode = .synchronous ∧ processor.hasAsyncSteps = true ∧
        failure = .asynchronousPlugins) := fun h => hn ⟨h.1, h.2.1⟩
    rw [or_iff_right hupfront, ← renderDocument_error_iff]
    rcases hr : processor.renderDocument E document with ⟨raised | rendered, noted, used⟩
    · obtain ⟨hprocess, hvisits⟩ := process_of_unrendered hadmitted hr
      simp [hprocess, hvisits, hn]
    · obtain ⟨hprocess, hvisits⟩ := process_of_rendered hadmitted hr
      rw [hprocess, hvisits, outcome_processRendered_error_iff, runPlugins_error_iff]
      simp

/-! ## What processing itself never says -/

/-- A fault in front matter is no failure to construct something. -/
theorem kind_of_ofValue_error {source : Value} {failure : Failure}
    (h : FrontMatter.ofValue source = .error failure) : failure.kind ≠ .construction := by
  cases source with
  | text s =>
    rw [FrontMatter.ofValue] at h
    cases hs : FrontMatter.split s.toList with
    | ok split =>
      rw [hs] at h
      cases h
    | error fault =>
      rw [hs] at h
      cases h
      cases fault <;> rintro ⟨⟩
  | _ =>
    cases h
    rintro ⟨⟩

/-- What keeps a document from being rendered is no failure to construct something. -/
theorem RenderFails.kind_ne {failure : Failure} (h : RenderFails E document processor failure) :
    failure.kind ≠ .construction := by
  cases h with
  | undecodable => rintro ⟨⟩
  | unsplit _ hs => exact kind_of_ofValue_error hs
  | unconverted => rintro ⟨⟩

/-- Where processing fails because something could not be constructed, a plugin that was
called has raised that. -/
theorem outcome_process_construction_iff {failure : Failure} (h : failure.kind = .construction) :
    (processor.process E mode document).outcome = .error failure ↔
      ∃ visit ∈ processor.visits E mode document, visit.Raises mode failure := by
  rw [outcome_process_error_iff]
  constructor
  · rintro (⟨-, -, rfl⟩ | ⟨-, hrender⟩ | ⟨visit, hv, hraises | ⟨-, -, rfl⟩⟩)
    · cases h
    · exact absurd h hrender.kind_ne
    · exact ⟨visit, hv, hraises⟩
    · cases h
  · rintro ⟨visit, hv, hraises⟩
    exact .inr (.inr ⟨visit, hv, .inl hraises⟩)

end Processor

end DocPress
