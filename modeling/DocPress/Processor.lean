import DocPress.Diagnostics
import DocPress.Document.Format
import DocPress.Plugin
import DocPress.Renderer

/-!
# Processors

A processor compiles documents of one format: it renders them and hands the
output from plugin to plugin.  Only the asynchronous mode can wait for plugins.

Main results:

- `create_of_unpinned`: without a pinned format there is no processor.
- `create_eq_ok_iff`: when there is one, and which.
- `create_eq_error_iff`: with a pinned format there is none exactly if there is no renderer.
- `process_of_coroutine`: a plugin declared to be awaited is refused up front.
-/

namespace DocPress

/-- Whether a caller can wait. -/
inductive Mode where
  | synchronous
  | asynchronous
deriving DecidableEq, Repr

/-- A processor of one format. -/
structure Processor (σ : Type) where
  options : Options
  format : DocumentFormat
  renderer : Renderer σ
  plugins : List Plugin

/-- What processing leaves behind: the outcome, the document in its last state,
the processor, and what was logged. -/
structure Processed (P : Type) where
  outcome : Except Failure Unit
  document : Document
  processor : P
  log : List LogRecord

/-- Processing seen through a view of the processor. -/
def Processed.map {P Q : Type} (view : P → Q) (processed : Processed P) : Processed Q :=
  ⟨processed.outcome, processed.document, view processed.processor, processed.log⟩

namespace Processor

variable {σ : Type}

/-! ## Building -/

/-- The engine extensions of a format followed by those of the options. -/
def extensionsFor (format : DocumentFormat) (options : Options) : List String :=
  format.engineExtensions ++ options.markdownExtensions

/-- Build a processor for options that pin a format, given what callables do. -/
def create (E : Engine σ) (plugins : Callable → Plugin) (options : Options) :
    Except Failure (Processor σ) :=
  match options.pinnedFormat? with
  | none => .error (.unresolvedFormat (options.format.map FormatChoice.name))
  | some format =>
    match Renderer.create E (extensionsFor format options) with
    | .error failure => .error failure
    | .ok renderer => .ok ⟨options, format, renderer, options.plugins.map plugins⟩

/-- Without a pinned format there is no processor. -/
theorem create_of_unpinned (E : Engine σ) (plugins : Callable → Plugin) {options : Options}
    (h : options.pinnedFormat? = none) :
    create E plugins options =
      .error (.unresolvedFormat (options.format.map FormatChoice.name)) := by
  simp [create, h]

/-- A processor is built exactly if a format is pinned and a renderer can be built for it. -/
theorem create_eq_ok_iff {E : Engine σ} {plugins : Callable → Plugin} {options : Options}
    {processor : Processor σ} :
    create E plugins options = .ok processor ↔
      ∃ format renderer, options.pinnedFormat? = some format ∧
        Renderer.create E (extensionsFor format options) = .ok renderer ∧
        processor = ⟨options, format, renderer, options.plugins.map plugins⟩ := by
  cases hf : options.pinnedFormat? with
  | none => simp [create_of_unpinned E plugins hf]
  | some format =>
    cases hr : Renderer.create E (extensionsFor format options) with
    | error failure => simp [create, hf, hr]
    | ok renderer => simp [create, hf, hr, eq_comm]

/-- With a pinned format a processor cannot be built exactly if the renderer cannot. -/
theorem create_eq_error_iff {E : Engine σ} {plugins : Callable → Plugin} {options : Options}
    {format : DocumentFormat} (h : options.pinnedFormat? = some format) {failure : Failure} :
    create E plugins options = .error failure ↔
      Renderer.create E (extensionsFor format options) = .error failure := by
  simp only [create, h]
  cases Renderer.create E (extensionsFor format options) <;> simp

/-- Whether some plugin is declared to be awaited. -/
def hasAsyncSteps (processor : Processor σ) : Bool :=
  processor.plugins.any Plugin.isCoroutine

/-- A processor in words. -/
def describe (processor : Processor σ) : String :=
  "Processor(format=" ++ Text.quotedString processor.format.name ++ ", plugins=" ++
    toString processor.plugins.length ++ ")"

/-! ## Plugins -/

/-- What a plugin's reply makes of the output, in a mode.  Who cannot wait for a reply
refuses it once it is closed; nothing is said of the reply if closing it fails. -/
def settle (mode : Mode) (plugin : Plugin) (html : String) (reply : Reply)
    (document : Document) : Except Failure String × Document :=
  match reply, mode with
  | .nothing, _ => (.ok html, document)
  | .html result, _ => (.ok result, document)
  | .awaitable _ close, .synchronous =>
    match close document with
    | (.error failure, document) => (.error failure, document)
    | (.ok (), document) => (.error (.awaitable plugin.label), document)
  | .awaitable await _, .asynchronous =>
    let (result, document) := await document
    (result.map fun result => result.getD html, document)

/-- Who cannot wait for a reply leaves the document as closing the reply does. -/
theorem document_settle_synchronous (plugin : Plugin) (html : String) (document : Document)
    (await : Document → Except Failure (Option String) × Document)
    (close : Document → Except Failure Unit × Document) :
    (settle .synchronous plugin html (.awaitable await close) document).2 =
      (close document).2 := by
  rw [settle]
  rcases close document with ⟨failure | ⟨⟩, closed⟩ <;> rfl

/-- Call one plugin. -/
def runPlugin (mode : Mode) (plugin : Plugin) (html : String) (document : Document) :
    Except Failure String × Document :=
  match plugin.call html document with
  | (.error failure, document) => (.error failure, document)
  | (.ok reply, document) => settle mode plugin html reply document

/-- Call plugins in turn, each with the output of those before it. -/
def runPlugins (mode : Mode) : List Plugin → String → Document → Except Failure String × Document
  | [], html, document => (.ok html, document)
  | plugin :: plugins, html, document =>
    match runPlugin mode plugin html document with
    | (.error failure, document) => (.error failure, document)
    | (.ok html, document) => runPlugins mode plugins html document

/-! ## Stages -/

/-- Render a document; its notes are attached to it. -/
def renderDocument (E : Engine σ) (document : Document) (processor : Processor σ) :
    Except Failure Rendered × Document × Processor σ :=
  match document.text with
  | .error fault => (.error (.undecodable document.path fault), document, processor)
  | .ok source =>
    let (rendered, renderer) := processor.renderer.render E source
    let processor := { processor with renderer }
    match rendered with
    | .error failure => (.error failure, document, processor)
    | .ok rendered => (.ok rendered, rendered.notes.foldl Document.note document, processor)

/-- The data that compiling sets. -/
def dataOf (processor : Processor σ) (frontMatter : Mapping) : Mapping :=
  [(.text "front_matter", .map frontMatter), (.text "format", .text processor.format.name),
    (.text "development", .bool processor.options.development),
    (.text "output_format", .text processor.options.outputShape.name),
    (.text "provider_import_source",
      (processor.options.providerImportSource.map Value.text).getD .none)]

/-- Put the output and the data of compiling into a document. -/
def finish (processor : Processor σ) (html : String) (frontMatter : Mapping)
    (document : Document) : Document :=
  { document with
    value := .text html
    data := document.data.update (processor.dataOf frontMatter) }

/-- The record of a compiled document. -/
def compiledRecord (processor : Processor σ) (document : Document) : LogRecord :=
  ⟨processorChannel, .debug,
    "compiled " ++ Failure.placeName document.path ++ " as " ++ processor.format.name, none⟩

/-- Compile a document. -/
def process (E : Engine σ) (mode : Mode) (document : Document) (processor : Processor σ) :
    Processed (Processor σ) :=
  if mode = .synchronous && processor.hasAsyncSteps then
    ⟨.error .asynchronousPlugins, document, processor, []⟩
  else
    match processor.renderDocument E document with
    | (.error failure, document, processor) => ⟨.error failure, document, processor, []⟩
    | (.ok rendered, document, processor) =>
      match runPlugins mode processor.plugins rendered.html document with
      | (.error failure, document) => ⟨.error failure, document, processor, []⟩
      | (.ok html, document) =>
        let document := processor.finish html rendered.frontMatter document
        ⟨.ok (), document, processor, [processor.compiledRecord document]⟩

/-- A plugin declared to be awaited is refused up front. -/
theorem process_of_coroutine (E : Engine σ) (document : Document) {processor : Processor σ}
    (h : processor.hasAsyncSteps = true) :
    processor.process E .synchronous document =
      ⟨.error .asynchronousPlugins, document, processor, []⟩ := by
  simp [process, h]

end Processor

/-! ## One document -/

/-- Compile one document with a processor of its own. -/
def compile {σ : Type} (E : Engine σ) (plugins : Callable → Plugin) (mode : Mode)
    (input : Document.Input) (options : Options.Input) : Except Failure Document := do
  let resolved ← Document.resolve input options
  let processor ← Processor.create E plugins resolved.options
  let processed := processor.process E mode resolved.document
  processed.outcome.map fun _ => processed.document

end DocPress
