import DocPress.Processor

/-!
# What processing asks of an engine

Whatever becomes of a document, processing asks at most one thing of the engine: to go
back to its start and to convert the body of the document.  The engine counts through
the result of that conversion alone.

Main results:

- `renderCase`: what rendering a document can do.
- `processor_process`: processing leaves the processor as it is, or with the engine that
  was reset and has converted the body.
- `process_congr`: two engines that make the same of the body lead to the same document.
-/

namespace DocPress

variable {σ τ : Type}

/-- Processing is known from its processor and from what is seen without it. -/
theorem Processed.eq_of_map {P : Type} {first second : Processed P}
    (h : first.map (fun _ => ()) = second.map fun _ => ())
    (hp : first.processor = second.processor) : first = second := by
  obtain ⟨outcome, document, processor, log⟩ := first
  obtain ⟨outcome', document', processor', log'⟩ := second
  obtain rfl : processor = processor' := hp
  simpa [Processed.map] using h

/-- The body that an engine is given of a document: its text behind the front matter, if
it can be decoded and split. -/
def Document.body? (document : Document) : Option String :=
  match document.text with
  | .error _ => none
  | .ok source =>
    match FrontMatter.ofValue source with
    | .error _ => none
    | .ok split => some (String.ofList split.body)

namespace Document

variable {document : Document}

theorem body?_of_undecodable {fault : Text.DecodeFault} (h : document.text = .error fault) :
    document.body? = none := by
  simp [body?, h]

theorem body?_of_unsplit {source : Value} {failure : Failure} (ht : document.text = .ok source)
    (hs : FrontMatter.ofValue source = .error failure) : document.body? = none := by
  simp [body?, ht, hs]

theorem body?_of_split {source : Value} {split : FrontMatter.Split}
    (ht : document.text = .ok source) (hs : FrontMatter.ofValue source = .ok split) :
    document.body? = some (String.ofList split.body) := by
  simp [body?, ht, hs]

end Document

namespace Processor

/-- The body that the engine is given when a document is processed: none if processing is
refused up front. -/
def body? (mode : Mode) (document : Document) (processor : Processor σ) : Option String :=
  if mode = .synchronous && processor.hasAsyncSteps then none else document.body?

/-- A processor that does not refuse gives its engine the body of the document. -/
theorem body?_of_admitted {mode : Mode} {document : Document} {processor : Processor σ}
    (h : ¬ (mode = .synchronous ∧ processor.hasAsyncSteps = true)) :
    processor.body? mode document = document.body? :=
  if_neg (by simpa using h)

/-- The processor with its engine in another state. -/
def withEngine (processor : Processor σ) (engine : τ) : Processor τ :=
  ⟨processor.options, processor.format, ⟨processor.renderer.extensions, engine⟩,
    processor.plugins⟩

/-! ## Rendering -/

section Engines

variable {E : Engine σ} {processor : Processor σ} {document : Document}

/-- What rendering a document can do: fail at one of three stages and leave the document as
it is, or give the converted body with its notes.  The engine is touched as soon as there is a
body. -/
inductive RenderCase (E : Engine σ) (document : Document) (processor : Processor σ) :
    Except Failure Rendered × Document × Processor σ → Prop where
  /-- The document has no text. -/
  | undecodable {fault : Text.DecodeFault} (text_eq : document.text = .error fault) :
      RenderCase E document processor
        (.error (.undecodable document.path fault), document, processor)
  /-- The front matter cannot be split off. -/
  | unsplit {source : Value} {failure : Failure} (text_eq : document.text = .ok source)
      (split_eq : FrontMatter.ofValue source = .error failure) :
      RenderCase E document processor (.error failure, document, processor)
  /-- The engine fails, at its reset or at the body. -/
  | unconverted {source : Value} {split : FrontMatter.Split} {reason : Raised} {engine : σ}
      (text_eq : document.text = .ok source) (split_eq : FrontMatter.ofValue source = .ok split)
      (convert_eq : E.convertAnew (String.ofList split.body) processor.renderer.engine =
        (.error reason, engine)) :
      RenderCase E document processor
        (.error (.conversion reason), document, processor.withEngine engine)
  /-- The document is rendered. -/
  | rendered {source : Value} {split : FrontMatter.Split} {html : String} {engine : σ}
      (text_eq : document.text = .ok source) (split_eq : FrontMatter.ofValue source = .ok split)
      (convert_eq : E.convertAnew (String.ofList split.body) processor.renderer.engine =
        (.ok html, engine)) :
      RenderCase E document processor
        (.ok ⟨html, split.metadata, Renderer.notesOn (Renderer.charsOf source) split.body⟩,
          (Renderer.notesOn (Renderer.charsOf source) split.body).foldl Document.note document,
          processor.withEngine engine)

/-- Rendering a document is one of the cases. -/
theorem renderCase (E : Engine σ) (document : Document) (processor : Processor σ) :
    RenderCase E document processor (processor.renderDocument E document) := by
  cases ht : document.text with
  | error fault =>
    rw [renderDocument, ht]
    exact .undecodable ht
  | ok source =>
    cases hs : FrontMatter.ofValue source with
    | error failure =>
      simp only [renderDocument, ht, Renderer.render_of_split_error E _ hs]
      exact .unsplit ht hs
    | ok split =>
      rcases hc : E.convertAnew (String.ofList split.body) processor.renderer.engine
        with ⟨reason | html, engine⟩
      · simp only [renderDocument, ht, Renderer.render, hs, hc]
        exact .unconverted ht hs hc
      · simp only [renderDocument, ht, Renderer.render, hs, hc]
        exact .rendered ht hs hc

/-! ## The engine that is left behind -/

/-- Rendering a document without a body leaves the processor alone. -/
theorem processor_renderDocument_of_no_body (h : document.body? = none) :
    (processor.renderDocument E document).2.2 = processor := by
  have hcase := renderCase E document processor
  generalize processor.renderDocument E document = result at hcase ⊢
  cases hcase with
  | undecodable => rfl
  | unsplit => rfl
  | unconverted ht hs | rendered ht hs =>
    rw [Document.body?_of_split ht hs] at h
    cases h

/-- Rendering a document with a body resets the engine and has it convert the body, even
if that fails. -/
theorem processor_renderDocument_of_body {body : String} (h : document.body? = some body) :
    (processor.renderDocument E document).2.2 =
      processor.withEngine (E.convertAnew body processor.renderer.engine).2 := by
  have hcase := renderCase E document processor
  generalize processor.renderDocument E document = result at hcase ⊢
  cases hcase with
  | undecodable ht =>
    rw [Document.body?_of_undecodable ht] at h
    cases h
  | unsplit ht hs =>
    rw [Document.body?_of_unsplit ht hs] at h
    cases h
  | unconverted ht hs hc | rendered ht hs hc =>
    rw [Document.body?_of_split ht hs] at h
    cases h
    rw [hc]

/-- Rendering touches nothing of the processor but its engine. -/
theorem exists_withEngine_renderDocument (E : Engine σ) (document : Document)
    (processor : Processor σ) :
    ∃ engine, (processor.renderDocument E document).2.2 = processor.withEngine engine := by
  cases hb : document.body? with
  | none => exact ⟨processor.renderer.engine, processor_renderDocument_of_no_body hb⟩
  | some body => exact ⟨_, processor_renderDocument_of_body hb⟩

/-- Plugins do not touch the processor. -/
theorem processor_process_of_admitted {mode : Mode}
    (h : (mode = .synchronous && processor.hasAsyncSteps) = false) :
    (processor.process E mode document).processor = (processor.renderDocument E document).2.2 := by
  rw [process, h]
  rcases processor.renderDocument E document with ⟨failure | rendered, noted, used⟩
  · rfl
  · rcases hp : runPlugins mode used.plugins rendered.html noted with ⟨failure | html, last⟩ <;>
      simp only [hp, Bool.false_eq_true, if_false]

/-- Processing leaves the processor as it is, or with the engine that was reset and has
converted the body. -/
theorem processor_process (E : Engine σ) (mode : Mode) (document : Document)
    (processor : Processor σ) :
    (processor.process E mode document).processor =
      match processor.body? mode document with
      | none => processor
      | some body =>
        processor.withEngine (E.convertAnew body processor.renderer.engine).2 := by
  by_cases h : (mode = .synchronous && processor.hasAsyncSteps) = true
  · rw [body?, if_pos h, process, if_pos h]
  · rw [Bool.not_eq_true] at h
    rw [body?, h, processor_process_of_admitted h]
    cases hb : document.body? with
    | none => exact processor_renderDocument_of_no_body hb
    | some body => exact processor_renderDocument_of_body hb

end Engines

/-! ## Two engines -/

section Engines

variable {E : Engine σ} {F : Engine τ} {first : Processor σ} {second : Processor τ}
  {document : Document}

/-- Two engines that make the same of the body render the document alike. -/
theorem renderDocument_congr
    (h : ∀ body, document.body? = some body →
      (E.convertAnew body first.renderer.engine).1 =
        (F.convertAnew body second.renderer.engine).1) :
    (first.renderDocument E document).1 = (second.renderDocument F document).1 ∧
      (first.renderDocument E document).2.1 = (second.renderDocument F document).2.1 := by
  cases ht : document.text with
  | error fault => simp only [renderDocument, ht, and_self]
  | ok source =>
    cases hs : FrontMatter.ofValue source with
    | error failure =>
      simp only [renderDocument, ht, Renderer.render_of_split_error _ _ hs, and_self]
    | ok split =>
      have hsame := h _ (Document.body?_of_split ht hs)
      rcases hfirst : E.convertAnew (String.ofList split.body) first.renderer.engine
        with ⟨result, engine⟩
      rcases hsecond : F.convertAnew (String.ofList split.body) second.renderer.engine
        with ⟨other, engine'⟩
      rw [hfirst, hsecond] at hsame
      obtain rfl : result = other := hsame
      cases result <;>
        simp only [renderDocument, ht, Renderer.render, hs, hfirst, hsecond, and_self]

/-- Two engines that make the same of the body lead to the same document, the same outcome
and the same log. -/
theorem process_congr (hoptions : first.options = second.options)
    (hformat : first.format = second.format) (hplugins : first.plugins = second.plugins)
    (h : ∀ body, document.body? = some body →
      (E.convertAnew body first.renderer.engine).1 =
        (F.convertAnew body second.renderer.engine).1) (mode : Mode) :
    (first.process E mode document).map (fun _ => ()) =
      (second.process F mode document).map fun _ => () := by
  have hasync : first.hasAsyncSteps = second.hasAsyncSteps := by
    rw [hasAsyncSteps, hasAsyncSteps, hplugins]
  obtain ⟨hsame, hdocument⟩ := renderDocument_congr h
  obtain ⟨engine, hused⟩ := exists_withEngine_renderDocument E document first
  obtain ⟨engine', hused'⟩ := exists_withEngine_renderDocument F document second
  rcases hf : first.renderDocument E document with ⟨rendered, noted, used⟩
  rcases hs : second.renderDocument F document with ⟨rendered', noted', used'⟩
  rw [hf, hs] at hsame hdocument
  rw [hf] at hused
  rw [hs] at hused'
  obtain rfl : rendered = rendered' := hsame
  obtain rfl : noted = noted' := hdocument
  obtain rfl : used = first.withEngine engine := hused
  obtain rfl : used' = second.withEngine engine' := hused'
  by_cases hrefused : (mode = .synchronous && second.hasAsyncSteps) = true
  · simp only [process, hasync, hrefused, if_true, Processed.map]
  · simp only [process, hasync, if_neg hrefused, hf, hs]
    cases rendered with
    | error failure => rfl
    | ok rendered =>
      simp only [withEngine, hplugins]
      rcases runPlugins mode second.plugins rendered.html noted with ⟨failure | html, last⟩
      · rfl
      · simp only [Processed.map, finish, dataOf, compiledRecord, hoptions, hformat]

end Engines

end Processor

end DocPress
