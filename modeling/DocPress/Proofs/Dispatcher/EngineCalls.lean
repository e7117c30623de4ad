import DocPress.Engine.Echo
import DocPress.Proofs.Dispatcher.View
import DocPress.Proofs.Processor.Conversion

/-!
# The calls that engines receive

The two engines of a dispatcher live as long as it does, and what one document leaves in an
engine must not reach the next.  This module keeps a trace of the calls that an engine
receives and says, for runs of any length, what the trace is: a reset and a conversion for
each document of the format that got as far as being rendered, and nothing for any other.

Main results:

- `shows_onTrace`: keeping the trace changes nothing.
- `engineCalls_serve`: what a request adds to the trace of a format.
- `engineCalls_run`: what a run adds to it.
- `engine_law`: the traces of whole runs.
-/

namespace DocPress

variable {σ φ : Type}

/-! ## Engines on trace -/

/-- A call that an engine receives. -/
inductive EngineCall where
  | reset
  | convert (body : String)
deriving DecidableEq, Repr

/-- The calls for one document. -/
def EngineCall.cycle (body : String) : List EngineCall :=
  [.reset, .convert body]

/-- The state of an engine with the calls that it received, first one first. -/
structure Traced (σ : Type) where
  state : σ
  calls : List EngineCall := []

/-- The engine on trace. -/
def Engine.traced (E : Engine σ) : Engine (Traced σ) where
  build setup := (E.build setup).map fun state => ⟨state, []⟩
  reset engine :=
    let (outcome, state) := E.reset engine.state
    (outcome, ⟨state, engine.calls ++ [.reset]⟩)
  convert body engine :=
    let (html, state) := E.convert body engine.state
    (html, ⟨state, engine.calls ++ [.convert body]⟩)

/-- On trace an engine converts as without. -/
theorem Engine.convertAnew_traced (E : Engine σ) (body : String) (engine : Traced σ) :
    (E.traced.convertAnew body engine).1 = (E.convertAnew body engine.state).1 ∧
      (E.traced.convertAnew body engine).2.state = (E.convertAnew body engine.state).2 := by
  simp only [convertAnew, traced]
  rcases hr : E.reset engine.state with ⟨reason | ⟨⟩, start⟩ <;> simp only [hr, and_self]

/-- A conversion right after a reset is traced, whatever comes of it. -/
theorem Engine.calls_convertAnew {E : Engine σ} (h : E.Resets) (body : String)
    (engine : Traced σ) :
    (E.traced.convertAnew body engine).2.calls = engine.calls ++ EngineCall.cycle body := by
  have htraced : E.traced.Resets := fun engine => h engine.state
  rw [convertAnew_of_resets htraced]
  simp [traced, EngineCall.cycle]

namespace Processor

/-- A processor whose engine is on trace from now on. -/
def traced (processor : Processor σ) : Processor (Traced σ) :=
  processor.withEngine ⟨processor.renderer.engine, []⟩

/-- A processor without the trace. -/
def untraced (processor : Processor (Traced σ)) : Processor σ :=
  processor.withEngine processor.renderer.engine.state

@[simp] theorem untraced_traced (processor : Processor σ) : processor.traced.untraced = processor :=
  rfl

/-- On trace a document is processed as without. -/
theorem process_untraced (E : Engine σ) (mode : Mode) (document : Document)
    (processor : Processor (Traced σ)) :
    processor.untraced.process E mode document =
      (processor.process E.traced mode document).map untraced := by
  have hsame : (processor.untraced.process E mode document).map (fun _ => ()) =
      (processor.process E.traced mode document).map fun _ => () :=
    process_congr (E := E) (F := E.traced) rfl rfl rfl
      (fun body _ => (E.convertAnew_traced body processor.renderer.engine).1.symm) mode
  refine Processed.eq_of_map hsame ?_
  have hbody : processor.untraced.body? mode document = processor.body? mode document := rfl
  change (processor.untraced.process E mode document).processor =
    (processor.process E.traced mode document).processor.untraced
  rw [processor_process, processor_process, hbody]
  cases processor.body? mode document with
  | none => rfl
  | some body =>
    exact congrArg processor.withEngine (E.convertAnew_traced body processor.renderer.engine).2.symm

/-- Processing adds the calls for the body of the document to the trace, if the engine is
given one. -/
theorem calls_process {E : Engine σ} (h : E.Resets) (mode : Mode) (document : Document)
    (processor : Processor (Traced σ)) :
    (processor.process E.traced mode document).processor.renderer.engine.calls =
      processor.renderer.engine.calls ++
        (processor.body? mode document).toList.flatMap EngineCall.cycle := by
  rw [processor_process]
  cases processor.body? mode document with
  | none => simp
  | some body =>
    rw [Option.toList_some, List.flatMap_singleton]
    exact Engine.calls_convertAnew h body processor.renderer.engine

/-- Processing that gives the engine nothing adds no calls. -/
theorem calls_process_of_no_body (E : Engine σ) {mode : Mode} {document : Document}
    {processor : Processor (Traced σ)} (h : processor.body? mode document = none) :
    (processor.process E.traced mode document).processor.renderer.engine.calls =
      processor.renderer.engine.calls := by
  rw [processor_process, h]

end Processor

/-! ## Workshops on trace -/

/-- Build processors in any way, and run them on an engine. -/
def Workshop.on (E : Engine σ) (build : Options → φ → Except Failure (Processor σ) × φ) :
    Workshop φ (Processor σ) where
  build := build
  process mode document processor := processor.process E mode document

/-- Build processors in any way, and run them on an engine that is on trace as soon as its
processor is built. -/
def Workshop.onTrace (E : Engine σ) (build : Options → φ → Except Failure (Processor σ) × φ) :
    Workshop φ (Processor (Traced σ)) :=
  .on E.traced fun options state =>
    ((build options state).1.map Processor.traced, (build options state).2)

section Building

variable (E : Engine σ) (build : Options → φ → Except Failure (Processor σ) × φ)

/-- The usual workshop is one. -/
theorem Workshop.standard_eq_on (plugins : Callable → Plugin) :
    Workshop.standard E plugins =
      .on E fun options state => (Processor.create E plugins options, state) := rfl

/-- Keeping the trace changes nothing. -/
theorem Workshop.shows_onTrace :
    (Workshop.onTrace E build).Shows (Workshop.on E build) Processor.untraced id where
  build_eq options state := by
    rcases hb : build options state with ⟨failure | processor, after⟩ <;>
      simp [onTrace, on, hb, Except.map]
  process_eq mode document processor := processor.process_untraced E mode document

/-- A processor that is built has received no calls. -/
theorem Workshop.calls_of_build {options : Options} {state after : φ}
    {processor : Processor (Traced σ)}
    (h : (Workshop.onTrace E build).build options state = (.ok processor, after)) :
    processor.renderer.engine.calls = [] := by
  rcases hb : build options state with ⟨failure | fresh, next⟩
  · simp [onTrace, on, hb, Except.map] at h
  · simp only [onTrace, on, hb, Except.map, Prod.mk.injEq, Except.ok.injEq] at h
    rw [← h.1]
    rfl

end Building

/-! ## What reaches an engine -/

/-- The body that a request brings to the engine of a format, given the processor that it
finds for the format: the body of a document of the format, if there is a processor and it
does not refuse the document up front. -/
def Request.body? (options : Options) (format : DocumentFormat) (found : Option (Processor σ))
    (request : Request) : Option String :=
  match Document.resolve request.input (.existing options) with
  | .error _ => none
  | .ok resolved =>
    if resolved.options.pinnedFormat? = some format then
      found.bind (Processor.body? request.mode resolved.document)
    else none

namespace Request

variable {options : Options} {format : DocumentFormat} {request : Request}
  {found : Option (Processor σ)}

theorem body?_of_ok {document : Document}
    (h : Document.resolve request.input (.existing options) =
      .ok ⟨document, options.withFormat format⟩) :
    request.body? options format found = found.bind (Processor.body? request.mode document) := by
  simp [body?, h]

/-- A request for a format has a document of the format. -/
theorem exists_document (h : request.format? options = some format) :
    ∃ document, Document.resolve request.input (.existing options) =
      .ok ⟨document, options.withFormat format⟩ := by
  cases hr : Document.resolve request.input (.existing options) with
  | error failure =>
    rw [format?_of_error hr] at h
    cases h
  | ok resolved =>
    obtain ⟨document, pinned⟩ := resolved
    obtain ⟨other, -, rfl⟩ := Document.options_of_resolve hr
    rw [format?_of_ok hr] at h
    exact ⟨document, by rw [Option.some.inj h]⟩

/-- Only a document of the format brings a body. -/
theorem body?_of_ne (h : request.format? options ≠ some format) :
    request.body? options format found = none := by
  cases hr : Document.resolve request.input (.existing options) with
  | error failure => simp [body?, hr]
  | ok resolved =>
    rw [format?, hr] at h
    simp only [body?, hr, if_neg h]

/-- Without a processor nothing is brought. -/
theorem body?_of_no_processor :
    request.body? options format (none : Option (Processor σ)) = none := by
  unfold body?
  split <;> simp

/-- A document without a body brings none. -/
theorem body?_of_no_body {resolved : Document.Resolved}
    (hr : Document.resolve request.input (.existing options) = .ok resolved)
    (h : resolved.document.body? = none) : request.body? options format found = none := by
  cases found <;> simp [body?, hr, Processor.body?, h]

/-- A document that is refused brings no body. -/
theorem body?_of_refused {processor : Processor σ} (hmode : request.mode = .synchronous)
    (hasync : processor.hasAsyncSteps = true) :
    request.body? options format (some processor) = none := by
  unfold body?
  split <;> simp [Processor.body?, hmode, hasync]

end Request

/-- The calls that the engine of a format received, none as long as there is no engine. -/
def Dispatcher.engineCalls (dispatcher : Dispatcher (Processor (Traced σ)))
    (format : DocumentFormat) : List EngineCall :=
  match dispatcher.slot format with
  | none => []
  | some processor => processor.renderer.engine.calls

namespace History

/-- The processor that the next document of a format finds: the one in the slot of the
format, or else a new one, if it can be built. -/
def found? {P : Type} (W : Workshop φ P) (history : History φ P) (format : DocumentFormat) :
    Option P :=
  match history.dispatcher.slot format with
  | some processor => some processor
  | none => (W.build (history.dispatcher.options.withFormat format) history.state).1.toOption

/-- The bodies that requests bring to the engine of a format if they are served from some
point on, first one first. -/
def bodies (W : Workshop φ (Processor σ)) (format : DocumentFormat) :
    History φ (Processor σ) → List Request → List String
  | _, [] => []
  | history, request :: requests =>
    (request.body? history.dispatcher.options format (history.found? W format)).toList ++
      bodies W format (history.serve W request) requests

section Serving

variable (E : Engine σ) (build : Options → φ → Except Failure (Processor σ) × φ)
  (history : History φ (Processor (Traced σ))) (request : Request) (format : DocumentFormat)

/-- A document of another format, or of none, leaves the trace alone. -/
theorem engineCalls_serve_of_ne (h : request.format? history.dispatcher.options ≠ some format) :
    (history.serve (.onTrace E build) request).dispatcher.engineCalls format =
      history.dispatcher.engineCalls format := by
  rw [Dispatcher.engineCalls, slot_serve_of_ne _ history request h]
  rfl

/-- A document for which no processor is found leaves the trace alone. -/
theorem engineCalls_serve_of_not_found (hf : history.found? (.onTrace E build) format = none) :
    (history.serve (.onTrace E build) request).dispatcher.engineCalls format =
      history.dispatcher.engineCalls format := by
  by_cases hformat : request.format? history.dispatcher.options = some format
  · have hcase := callCase_answer (.onTrace E build) history request
    rw [dispatcher_serve]
    generalize history.answer (.onTrace E build) request = call at hcase ⊢
    cases hcase with
    | unresolved hr => rfl
    | unbuilt hr hs hb => rfl
    | built hr hs hb =>
      obtain rfl := Request.format_eq_of_ok hformat hr
      simp [found?, hs, hb, Except.toOption] at hf
    | reused hr hs =>
      obtain rfl := Request.format_eq_of_ok hformat hr
      simp [found?, hs] at hf
  · exact engineCalls_serve_of_ne E build history request format hformat

/-- A document of the format is processed by the processor that it finds, whose engine has the
trace of the format. -/
theorem engineCalls_serve_of_found {document : Document} {processor : Processor (Traced σ)}
    (hr : Document.resolve request.input (.existing history.dispatcher.options) =
      .ok ⟨document, history.dispatcher.options.withFormat format⟩)
    (hf : history.found? (.onTrace E build) format = some processor) :
    history.dispatcher.engineCalls format = processor.renderer.engine.calls ∧
      (history.serve (.onTrace E build) request).dispatcher.engineCalls format =
        (processor.process E.traced request.mode document).processor.renderer.engine.calls := by
  have hformat := Request.format?_of_ok hr
  have hcase := callCase_answer (.onTrace E build) history request
  rw [dispatcher_serve]
  generalize history.answer (.onTrace E build) request = call at hcase ⊢
  cases hcase with
  | unresolved hr' =>
    rw [hr] at hr'
    cases hr'
  | unbuilt hr' hs hb =>
    obtain rfl := Request.format_eq_of_ok hformat hr'
    simp [found?, hs, hb, Except.toOption] at hf
  | built hr' hs hb =>
    obtain rfl := Request.format_eq_of_ok hformat hr'
    obtain ⟨rfl, -⟩ := Document.Resolved.mk.inj (Except.ok.inj (hr.symm.trans hr'))
    simp only [found?, hs, hb, Except.toOption, Option.some.injEq] at hf
    subst hf
    constructor
    · rw [Dispatcher.engineCalls, hs, Workshop.calls_of_build E build hb]
    · simp only [Dispatcher.engineCalls, Dispatcher.Call.ofProcessed, Dispatcher.slot_fill_self]
      rfl
  | reused hr' hs =>
    obtain rfl := Request.format_eq_of_ok hformat hr'
    obtain ⟨rfl, -⟩ := Document.Resolved.mk.inj (Except.ok.inj (hr.symm.trans hr'))
    simp only [found?, hs, Option.some.injEq] at hf
    subst hf
    constructor
    · rw [Dispatcher.engineCalls, hs]
    · simp only [Dispatcher.engineCalls, Dispatcher.Call.ofProcessed, Dispatcher.slot_fill_self]
      rfl

/-- A request that brings no body leaves the trace alone. -/
theorem engineCalls_serve_of_no_body
    (h : request.body? history.dispatcher.options format
      (history.found? (.onTrace E build) format) = none) :
    (history.serve (.onTrace E build) request).dispatcher.engineCalls format =
      history.dispatcher.engineCalls format := by
  by_cases hformat : request.format? history.dispatcher.options = some format
  · obtain ⟨document, hr⟩ := Request.exists_document hformat
    cases hf : history.found? (.onTrace E build) format with
    | none => exact engineCalls_serve_of_not_found E build history request format hf
    | some processor =>
      obtain ⟨hbefore, hafter⟩ := engineCalls_serve_of_found E build history request format hr hf
      rw [hf, Request.body?_of_ok hr, Option.bind_some] at h
      rw [hafter, hbefore, Processor.calls_process_of_no_body E h]
  · exact engineCalls_serve_of_ne E build history request format hformat

/-- A request adds the calls for the body that it brings to the engine of a format, and
nothing if it brings none. -/
theorem engineCalls_serve (hE : E.Resets) :
    (history.serve (.onTrace E build) request).dispatcher.engineCalls format =
      history.dispatcher.engineCalls format ++
        (request.body? history.dispatcher.options format
          (history.found? (.onTrace E build) format)).toList.flatMap EngineCall.cycle := by
  by_cases hformat : request.format? history.dispatcher.options = some format
  · obtain ⟨document, hr⟩ := Request.exists_document hformat
    cases hf : history.found? (.onTrace E build) format with
    | none =>
      rw [Request.body?_of_no_processor, engineCalls_serve_of_not_found E build history _ _ hf,
        Option.toList_none, List.flatMap_nil, List.append_nil]
    | some processor =>
      obtain ⟨hbefore, hafter⟩ := engineCalls_serve_of_found E build history request format hr hf
      rw [Request.body?_of_ok hr, Option.bind_some, hafter, hbefore,
        Processor.calls_process hE]
  · rw [Request.body?_of_ne hformat, Option.toList_none, List.flatMap_nil, List.append_nil,
      engineCalls_serve_of_ne E build history request format hformat]

/-- Requests add the calls for the bodies that they bring. -/
theorem engineCalls_run (hE : E.Resets) (requests : List Request) :
    (history.run (.onTrace E build) requests).dispatcher.engineCalls format =
      history.dispatcher.engineCalls format ++
        (history.bodies (.onTrace E build) format requests).flatMap EngineCall.cycle := by
  induction requests generalizing history with
  | nil => rw [run_nil, bodies, List.flatMap_nil, List.append_nil]
  | cons request requests ih =>
    rw [run_cons, ih, engineCalls_serve E build history request format hE, bodies,
      List.flatMap_append, List.append_assoc]

end Serving

/-! ## The law -/

/-- What holds at every point of a run on trace, given as the function from the requests
served so far to the history that they leave. -/
structure EngineLaw (E : Engine σ) (build : Options → φ → Except Failure (Processor σ) × φ)
    (options : Options) (traced : List Request → History φ (Processor (Traced σ))) : Prop where
  /-- The engine of a format received a reset and a conversion for each body that was
  brought to it, in the order of the documents, and nothing else. -/
  calls_eq : E.Resets → ∀ requests format,
    (traced requests).dispatcher.engineCalls format =
      ((traced []).bodies (.onTrace E build) format requests).flatMap EngineCall.cycle
  /-- A document that gets as far as being rendered adds a reset and the conversion of its
  body to the calls of its format, whatever comes of the conversion. -/
  rendered : E.Resets → ∀ requests request format document processor source split,
    Document.resolve request.input (.existing options) =
        .ok ⟨document, options.withFormat format⟩ →
      (traced requests).found? (.onTrace E build) format = some processor →
      ¬ (request.mode = .synchronous ∧ processor.hasAsyncSteps = true) →
      document.text = .ok source → FrontMatter.ofValue source = .ok split →
      (traced (requests ++ [request])).dispatcher.engineCalls format =
        (traced requests).dispatcher.engineCalls format ++
          [.reset, .convert (String.ofList split.body)]
  /-- A document adds nothing to the calls of another format. -/
  other_format : ∀ requests request format, request.format? options ≠ some format →
    (traced (requests ++ [request])).dispatcher.engineCalls format =
      (traced requests).dispatcher.engineCalls format
  /-- A document that cannot be resolved adds nothing. -/
  unresolved : ∀ requests request failure format,
    Document.resolve request.input (.existing options) = .error failure →
      (traced (requests ++ [request])).dispatcher.engineCalls format =
        (traced requests).dispatcher.engineCalls format
  /-- A document that finds no processor, and for which none can be built, adds nothing. -/
  unbuilt : ∀ requests request format,
    (traced requests).found? (.onTrace E build) format = none →
      (traced (requests ++ [request])).dispatcher.engineCalls format =
        (traced requests).dispatcher.engineCalls format
  /-- A document that is refused because of plugins to be awaited adds nothing. -/
  refused : ∀ requests request format processor,
    (traced requests).found? (.onTrace E build) format = some processor →
      request.mode = .synchronous → processor.hasAsyncSteps = true →
      (traced (requests ++ [request])).dispatcher.engineCalls format =
        (traced requests).dispatcher.engineCalls format
  /-- A document that cannot be decoded adds nothing. -/
  undecodable : ∀ requests request resolved fault format,
    Document.resolve request.input (.existing options) = .ok resolved →
      resolved.document.text = .error fault →
      (traced (requests ++ [request])).dispatcher.engineCalls format =
        (traced requests).dispatcher.engineCalls format
  /-- A document whose front matter cannot be split off adds nothing. -/
  unsplit : ∀ requests request resolved source failure format,
    Document.resolve request.input (.existing options) = .ok resolved →
      resolved.document.text = .ok source → FrontMatter.ofValue source = .error failure →
      (traced (requests ++ [request])).dispatcher.engineCalls format =
        (traced requests).dispatcher.engineCalls format

section Law

variable (E : Engine σ) (build : Options → φ → Except Failure (Processor σ) × φ)
  (options : Options) (state : φ)

/-- A run on trace of a dispatcher that was just created. -/
def traced (requests : List Request) : History φ (Processor (Traced σ)) :=
  (opened options state).run (.onTrace E build) requests

theorem options_traced (requests : List Request) :
    (traced E build options state requests).dispatcher.options = options := by
  rw [traced, options_run]
  rfl

theorem traced_concat (requests : List Request) (request : Request) :
    traced E build options state (requests ++ [request]) =
      (traced E build options state requests).serve (.onTrace E build) request := by
  simp [traced]

/-- A request that brings no body adds no calls. -/
theorem engineCalls_concat_of_no_body {requests : List Request} {request : Request}
    {format : DocumentFormat}
    (h : request.body? options format
      ((traced E build options state requests).found? (.onTrace E build) format) = none) :
    (traced E build options state (requests ++ [request])).dispatcher.engineCalls format =
      (traced E build options state requests).dispatcher.engineCalls format := by
  rw [traced_concat]
  refine engineCalls_serve_of_no_body E build _ request format ?_
  rwa [options_traced]

/-- Forgetting the traces, a run on trace is a run; and the law holds of it, whatever the
engine, the building of processors, the options and the state that it starts in. -/
theorem engine_law :
    (∀ requests, (traced E build options state requests).map Processor.untraced id =
      (opened options state).run (.on E build) requests) ∧
    EngineLaw E build options (traced E build options state) := by
  refine ⟨fun requests => map_run (Workshop.shows_onTrace E build) _ requests, ?_⟩
  constructor
  case calls_eq =>
    intro hE requests format
    rw [traced, engineCalls_run E build _ format hE, Dispatcher.engineCalls, slot_opened,
      List.nil_append]
    rfl
  case rendered =>
    intro hE requests request format document processor source split hr hf hadmitted ht hsplit
    rw [traced_concat, engineCalls_serve E build _ request format hE, options_traced, hf,
      Request.body?_of_ok hr, Option.bind_some, Processor.body?_of_admitted hadmitted,
      Document.body?_of_split ht hsplit]
    rfl
  case other_format =>
    intro requests request format hf
    exact engineCalls_concat_of_no_body E build options state (Request.body?_of_ne hf)
  case unresolved =>
    intro requests request failure format hr
    exact engineCalls_concat_of_no_body E build options state
      (Request.body?_of_ne (by simp [Request.format?_of_error hr]))
  case unbuilt =>
    intro requests request format hf
    refine engineCalls_concat_of_no_body E build options state ?_
    rw [hf]
    exact Request.body?_of_no_processor
  case refused =>
    intro requests request format processor hf hmode hasync
    refine engineCalls_concat_of_no_body E build options state ?_
    rw [hf]
    exact Request.body?_of_refused hmode hasync
  case undecodable =>
    intro requests request resolved fault format hr ht
    exact engineCalls_concat_of_no_body E build options state
      (Request.body?_of_no_body hr (Document.body?_of_undecodable ht))
  case unsplit =>
    intro requests request resolved source failure format hr ht hsplit
    exact engineCalls_concat_of_no_body E build options state
      (Request.body?_of_no_body hr (Document.body?_of_unsplit ht hsplit))

end Law

/-- Markdown documents with an MDX document between them; one of them has no text, one makes
the engine fail, and one document has no format. -/
def assortedRequests : List Request :=
  [.ofFile "one.md" (.text "# One"), .ofFile "two.mdx" (.text "# Two"),
    .ofFile "three" (.text "# Three"), .ofFile "four.md" (.bytes [0xFF]),
    .ofFile "five.md" (.text "!!fail"), .ofFile "six.md" (.text "# Six")]

theorem engine_law_assorted :
    Echo.engine.Resets ∧
    ((traced Echo.engine
        (fun options state => (Processor.create Echo.engine Plugin.idle options, state)) {} ()
        assortedRequests).dispatcher.engineCalls .md =
      [.reset, .convert "# One", .reset, .convert "!!fail", .reset, .convert "# Six"]) := by
  refine ⟨Echo.engine_resets, ?_⟩
  rw [(engine_law Echo.engine _ {} ()).2.calls_eq Echo.engine_resets]
  rfl

end History

end DocPress
