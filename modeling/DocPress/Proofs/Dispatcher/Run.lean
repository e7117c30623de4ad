import DocPress.Dispatcher

/-!
# Runs of a dispatcher

A dispatcher serves requests one after the other.  This module says once what a
single request can do, in four cases, and keeps the history of a run: the
requests served so far with what each call left behind.

Main results:

- `callCase_call`: a call is refused at resolving, refused at building, served by
  a new processor, or served by the processor that is there.
- `options_run`: no request changes the options of a dispatcher.
-/

namespace DocPress

variable {φ P : Type}

/-! ## Requests -/

/-- What a dispatcher is asked: to compile a document in a mode. -/
structure Request where
  mode : Mode
  input : Document.Input

namespace Request

/-- A document with a path, to be compiled without waiting. -/
def ofFile (path : String) (content : Value) : Request :=
  ⟨.synchronous, .value (.map [(.text "value", content), (.text "path", .text path)])⟩

/-- The format of the document, if document and format can be resolved. -/
def format? (options : Options) (request : Request) : Option DocumentFormat :=
  match Document.resolve request.input (.existing options) with
  | .ok resolved => resolved.options.pinnedFormat?
  | .error _ => none

/-- The path of the document, in words. -/
def place? (options : Options) (request : Request) : Option String :=
  match Document.resolve request.input (.existing options) with
  | .ok resolved => resolved.document.path.map Path.toString
  | .error _ => none

theorem format?_of_error {options : Options} {request : Request} {failure : Failure}
    (h : Document.resolve request.input (.existing options) = .error failure) :
    request.format? options = none := by
  simp [format?, h]

theorem format?_of_ok {options : Options} {request : Request} {document : Document}
    {format : DocumentFormat}
    (h : Document.resolve request.input (.existing options) =
      .ok ⟨document, options.withFormat format⟩) :
    request.format? options = some format := by
  simp [format?, h]

/-- A document is resolved with its own format alone. -/
theorem format_eq_of_ok {options : Options} {request : Request} {document : Document}
    {format other : DocumentFormat} (hf : request.format? options = some format)
    (h : Document.resolve request.input (.existing options) =
      .ok ⟨document, options.withFormat other⟩) : format = other :=
  Option.some.inj (hf.symm.trans (format?_of_ok h))

theorem place?_of_ok {options : Options} {request : Request} {document : Document}
    {format : DocumentFormat}
    (h : Document.resolve request.input (.existing options) =
      .ok ⟨document, options.withFormat format⟩) :
    request.place? options = document.path.map Path.toString := by
  simp [place?, h]

end Request

namespace Dispatcher

/-! ## The four ways of a call -/

/-- The event that says where a document goes. -/
def dispatchedEvent (format : DocumentFormat) (document : Document) (reused : Bool) : Event :=
  .documentDispatched format (document.path.map Path.toString) reused

/-- What a call leaves behind once a processor has run: the processor is put back
into its slot, and what it logged stands behind the other notices. -/
def Call.ofProcessed (format : DocumentFormat) (dispatcher : Dispatcher P) (state : φ)
    (notices : List Notice) (processed : Processed P) : Call φ P :=
  ⟨processed.outcome, some processed.document, dispatcher.fill format processed.processor, state,
    notices ++ processed.log.map .record⟩

/-- What a request can come to at a dispatcher. -/
inductive CallCase (W : Workshop φ P) (request : Request) (dispatcher : Dispatcher P)
    (state : φ) : Call φ P → Prop where
  /-- The document or its format cannot be resolved. -/
  | unresolved {failure : Failure}
      (resolve_eq : Document.resolve request.input (.existing dispatcher.options) =
        .error failure) :
      CallCase W request dispatcher state ⟨.error failure, none, dispatcher, state, []⟩
  /-- There is no processor, and none can be built. -/
  | unbuilt {document : Document} {format : DocumentFormat} {failure : Failure} {state' : φ}
      (resolve_eq : Document.resolve request.input (.existing dispatcher.options) =
        .ok ⟨document, dispatcher.options.withFormat format⟩)
      (slot_eq : dispatcher.slot format = none)
      (build_eq : W.build (dispatcher.options.withFormat format) state =
        (.error failure, state')) :
      CallCase W request dispatcher state
        ⟨.error failure, some document, dispatcher, state', []⟩
  /-- There is no processor; one is built and runs. -/
  | built {document : Document} {format : DocumentFormat} {processor : P} {state' : φ}
      (resolve_eq : Document.resolve request.input (.existing dispatcher.options) =
        .ok ⟨document, dispatcher.options.withFormat format⟩)
      (slot_eq : dispatcher.slot format = none)
      (build_eq : W.build (dispatcher.options.withFormat format) state =
        (.ok processor, state')) :
      CallCase W request dispatcher state
        (.ofProcessed format dispatcher state'
          (buildNotices format (dispatcher.options.withFormat format) ++
            [.event (dispatchedEvent format document false)])
          (W.process request.mode document processor))
  /-- There is a processor, and it runs. -/
  | reused {document : Document} {format : DocumentFormat} {processor : P}
      (resolve_eq : Document.resolve request.input (.existing dispatcher.options) =
        .ok ⟨document, dispatcher.options.withFormat format⟩)
      (slot_eq : dispatcher.slot format = some processor) :
      CallCase W request dispatcher state
        (.ofProcessed format dispatcher state
          [.event (dispatchedEvent format document true)]
          (W.process request.mode document processor))

/-- Each case tells what the call comes to. -/
theorem CallCase.call_eq {W : Workshop φ P} {request : Request} {dispatcher : Dispatcher P}
    {state : φ} {result : Call φ P} (h : CallCase W request dispatcher state result) :
    call W request.mode request.input dispatcher state = result := by
  cases h with
  | unresolved hr => exact call_of_unresolved W request.mode state hr
  | unbuilt hr hs hb => simp [call, hr, acquire, hs, hb]
  | built hr hs hb => simp [call, hr, acquire, hs, hb, Call.ofProcessed, dispatchedEvent]
  | reused hr hs => simp [call, hr, acquire, hs, Call.ofProcessed, dispatchedEvent]

/-- Every call is one of the four cases. -/
theorem callCase_call (W : Workshop φ P) (request : Request) (dispatcher : Dispatcher P)
    (state : φ) :
    CallCase W request dispatcher state
      (call W request.mode request.input dispatcher state) := by
  suffices h : ∃ result, CallCase W request dispatcher state result by
    obtain ⟨result, hcase⟩ := h
    rw [hcase.call_eq]
    exact hcase
  cases hr : Document.resolve request.input (.existing dispatcher.options) with
  | error failure => exact ⟨_, .unresolved hr⟩
  | ok resolved =>
    obtain ⟨document, options⟩ := resolved
    obtain ⟨format, -, rfl⟩ : ∃ format, document.detectFormat dispatcher.options = .ok format ∧
        options = dispatcher.options.withFormat format := Document.options_of_resolve hr
    cases hs : dispatcher.slot format with
    | some processor => exact ⟨_, .reused hr hs⟩
    | none =>
      rcases hb : W.build (dispatcher.options.withFormat format) state with
        ⟨failure | processor, state'⟩
      · exact ⟨_, .unbuilt hr hs hb⟩
      · exact ⟨_, .built hr hs hb⟩

@[simp] theorem events_ofProcessed (format : DocumentFormat) (dispatcher : Dispatcher P)
    (state : φ) (notices : List Notice) (processed : Processed P) :
    Notice.events (Call.ofProcessed format dispatcher state notices processed).notices =
      Notice.events notices := by
  simp [Call.ofProcessed]

@[simp] theorem events_buildNotices (format : DocumentFormat) (options : Options) :
    Notice.events (buildNotices format options) =
      [.processorCreated format options.markdownExtensions] := rfl

/-- Every event of a call is about the format of its document. -/
theorem format_of_mem_events {W : Workshop φ P} {request : Request} {dispatcher : Dispatcher P}
    {state : φ} {result : Call φ P} (h : CallCase W request dispatcher state result) {event : Event}
    (he : event ∈ Notice.events result.notices) :
    request.format? dispatcher.options = some event.format := by
  cases h with
  | unresolved hr => simp at he
  | unbuilt hr hs hb => simp at he
  | built hr hs hb =>
    rw [Request.format?_of_ok hr]
    rw [events_ofProcessed, Notice.events_append, events_buildNotices] at he
    simp only [Notice.events_event_cons, Notice.events_nil, List.cons_append, List.nil_append,
      List.mem_cons, List.not_mem_nil, or_false] at he
    rcases he with rfl | rfl <;> rfl
  | reused hr hs =>
    rw [Request.format?_of_ok hr]
    rw [events_ofProcessed] at he
    simp only [Notice.events_event_cons, Notice.events_nil, List.mem_singleton] at he
    subst he
    rfl

/-- A call leaves the slots of other formats alone. -/
theorem slot_of_callCase {W : Workshop φ P} {request : Request} {dispatcher : Dispatcher P}
    {state : φ} {result : Call φ P} (h : CallCase W request dispatcher state result)
    {format : DocumentFormat} (hne : request.format? dispatcher.options ≠ some format) :
    result.dispatcher.slot format = dispatcher.slot format := by
  cases h with
  | unresolved hr => rfl
  | unbuilt hr hs hb => rfl
  | built hr hs hb =>
    rw [Request.format?_of_ok hr] at hne
    exact slot_fill_of_ne _ _ fun he => hne (congrArg some he.symm)
  | reused hr hs =>
    rw [Request.format?_of_ok hr] at hne
    exact slot_fill_of_ne _ _ fun he => hne (congrArg some he.symm)

end Dispatcher

/-! ## Histories -/

/-- A dispatcher in use: the dispatcher and the state of building as they are,
and the requests served so far with what each call left behind, first one first. -/
structure History (φ P : Type) where
  dispatcher : Dispatcher P
  state : φ
  calls : List (Request × Dispatcher.Call φ P) := []

namespace History

/-- A dispatcher that was just created. -/
def opened (options : Options) (state : φ) : History φ P where
  dispatcher := { options }
  state := state

/-- What a request comes to. -/
def answer (W : Workshop φ P) (history : History φ P) (request : Request) :
    Dispatcher.Call φ P :=
  history.dispatcher.call W request.mode request.input history.state

/-- Serve a request. -/
def serve (W : Workshop φ P) (history : History φ P) (request : Request) : History φ P :=
  let call := history.answer W request
  ⟨call.dispatcher, call.state, history.calls ++ [(request, call)]⟩

/-- Serve requests one after the other. -/
def run (W : Workshop φ P) (history : History φ P) (requests : List Request) : History φ P :=
  requests.foldl (serve W) history

@[simp] theorem run_nil (W : Workshop φ P) (history : History φ P) : history.run W [] = history :=
  rfl

@[simp] theorem run_cons (W : Workshop φ P) (history : History φ P) (request : Request)
    (requests : List Request) :
    history.run W (request :: requests) = (history.serve W request).run W requests := rfl

@[simp] theorem run_append (W : Workshop φ P) (history : History φ P)
    (earlier later : List Request) :
    history.run W (earlier ++ later) = (history.run W earlier).run W later := by
  simp [run]

/-- What one request keeps, a run keeps. -/
theorem run_induction {W : Workshop φ P} (Holds : History φ P → Prop)
    (step : ∀ history request, Holds history → Holds (history.serve W request))
    {history : History φ P} (start : Holds history) (requests : List Request) :
    Holds (history.run W requests) := by
  induction requests generalizing history with
  | nil => exact start
  | cons request requests ih => exact ih (step history request start)

theorem callCase_answer (W : Workshop φ P) (history : History φ P) (request : Request) :
    Dispatcher.CallCase W request history.dispatcher history.state
      (history.answer W request) :=
  Dispatcher.callCase_call W request history.dispatcher history.state

@[simp] theorem dispatcher_serve (W : Workshop φ P) (history : History φ P)
    (request : Request) :
    (history.serve W request).dispatcher = (history.answer W request).dispatcher := rfl

@[simp] theorem state_serve (W : Workshop φ P) (history : History φ P) (request : Request) :
    (history.serve W request).state = (history.answer W request).state := rfl

@[simp] theorem calls_serve (W : Workshop φ P) (history : History φ P) (request : Request) :
    (history.serve W request).calls =
      history.calls ++ [(request, history.answer W request)] := rfl

@[simp] theorem slot_opened (options : Options) (state : φ) (format : DocumentFormat) :
    (opened options state : History φ P).dispatcher.slot format = none := by
  cases format <;> rfl

/-- A request leaves the options of the dispatcher alone. -/
theorem options_serve (W : Workshop φ P) (history : History φ P) (request : Request) :
    (history.serve W request).dispatcher.options = history.dispatcher.options := by
  have hcase := callCase_answer W history request
  rw [dispatcher_serve]
  generalize history.answer W request = call at hcase ⊢
  cases hcase <;> simp [Dispatcher.Call.ofProcessed]

/-- No request changes the options of a dispatcher. -/
theorem options_run (W : Workshop φ P) (history : History φ P) (requests : List Request) :
    (history.run W requests).dispatcher.options = history.dispatcher.options := by
  refine run_induction (fun later => later.dispatcher.options = history.dispatcher.options)
    (fun later request hlater => ?_) rfl requests
  rw [options_serve, hlater]

/-- A request leaves the slots of other formats alone. -/
theorem slot_serve_of_ne (W : Workshop φ P) (history : History φ P) (request : Request)
    {format : DocumentFormat}
    (h : request.format? history.dispatcher.options ≠ some format) :
    (history.serve W request).dispatcher.slot format = history.dispatcher.slot format :=
  Dispatcher.slot_of_callCase (callCase_answer W history request) h

/-! ## Events and served documents -/

/-- The events of a history, in the order in which they were emitted. -/
def events (history : History φ P) : List Event :=
  history.calls.flatMap fun entry => Notice.events entry.2.notices

/-- The events about a format. -/
def eventsAbout (history : History φ P) (format : DocumentFormat) : List Event :=
  history.events.filter fun event => event.format = format

/-- The documents of a format that got a processor, by their paths in words: those
of the requests that left the slot of the format filled. -/
def served (options : Options) (history : History φ P) (format : DocumentFormat) :
    List (Option String) :=
  (history.calls.filter fun entry =>
    entry.1.format? options = some format ∧ (entry.2.dispatcher.slot format).isSome).map
    fun entry => entry.1.place? options

@[simp] theorem served_opened (base options : Options) (state : φ) (format : DocumentFormat) :
    (opened options state : History φ P).served base format = [] := rfl

theorem events_serve (W : Workshop φ P) (history : History φ P) (request : Request) :
    (history.serve W request).events =
      history.events ++ Notice.events (history.answer W request).notices := by
  simp [events]

theorem eventsAbout_serve (W : Workshop φ P) (history : History φ P) (request : Request)
    (format : DocumentFormat) :
    (history.serve W request).eventsAbout format = history.eventsAbout format ++
      (Notice.events (history.answer W request).notices).filter
        fun event => event.format = format := by
  rw [eventsAbout, events_serve, List.filter_append, eventsAbout]

/-- A request adds no event about another format. -/
theorem eventsAbout_serve_of_ne (W : Workshop φ P) (history : History φ P) (request : Request)
    {format : DocumentFormat}
    (h : request.format? history.dispatcher.options ≠ some format) :
    (history.serve W request).eventsAbout format = history.eventsAbout format := by
  have hnone : (Notice.events (history.answer W request).notices).filter
      (fun event => event.format = format) = [] := by
    rw [List.filter_eq_nil_iff]
    intro event he hformat
    have habout := Dispatcher.format_of_mem_events (callCase_answer W history request) he
    rw [of_decide_eq_true hformat] at habout
    exact h habout
  rw [eventsAbout_serve, hnone, List.append_nil]

theorem served_serve (W : Workshop φ P) (history : History φ P) (request : Request)
    (options : Options) (format : DocumentFormat) :
    (history.serve W request).served options format = history.served options format ++
      if request.format? options = some format ∧
        ((history.serve W request).dispatcher.slot format).isSome
      then [request.place? options] else [] := by
  simp only [served, calls_serve, List.filter_append, List.map_append]
  congr 1
  by_cases h : request.format? options = some format ∧
    ((history.serve W request).dispatcher.slot format).isSome
  · rw [if_pos h, List.filter_cons_of_pos (by simpa using h)]
    rfl
  · rw [if_neg h, List.filter_cons_of_neg (by simpa using h)]
    rfl

/-- A request adds no served document of another format. -/
theorem served_serve_of_ne (W : Workshop φ P) (history : History φ P) (request : Request)
    {options : Options} {format : DocumentFormat}
    (h : request.format? options ≠ some format) :
    (history.serve W request).served options format = history.served options format := by
  rw [served_serve, if_neg fun hf => h hf.1, List.append_nil]

end History

end DocPress
