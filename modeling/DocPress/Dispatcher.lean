import DocPress.Processor

/-!
# Dispatching

A dispatcher has a slot for the processor of each format.  A document goes to
the processor of its format, which is built at the first need and then kept; a
failed building leaves the slot empty, and the next document tries again.

Main results:

- `slot_fill_self` and `slot_fill_of_ne`: filling one slot leaves the other alone.
- `call_of_unresolved`: a document that cannot be resolved changes nothing.
-/

namespace DocPress

/-! ## Slots -/

/-- A dispatcher over processors of a type. -/
structure Dispatcher (P : Type) where
  options : Options
  md : Option P := none
  mdx : Option P := none

/-- How processors are built and run.  Building has a state of its own, so that
it may answer differently each time. -/
structure Workshop (φ P : Type) where
  build : Options → φ → Except Failure P × φ
  process : Mode → Document → P → Processed P

namespace Dispatcher

variable {φ P : Type}

/-- The processor in the slot of a format. -/
def slot (dispatcher : Dispatcher P) : DocumentFormat → Option P
  | .md => dispatcher.md
  | .mdx => dispatcher.mdx

/-- Put a processor into the slot of a format. -/
def fill (dispatcher : Dispatcher P) (format : DocumentFormat) (processor : P) : Dispatcher P :=
  match format with
  | .md => { dispatcher with md := some processor }
  | .mdx => { dispatcher with mdx := some processor }

@[simp] theorem slot_fill_self (dispatcher : Dispatcher P) (format : DocumentFormat)
    (processor : P) : (dispatcher.fill format processor).slot format = some processor := by
  cases format <;> rfl

theorem slot_fill_of_ne (dispatcher : Dispatcher P) {format other : DocumentFormat}
    (processor : P) (h : other ≠ format) :
    (dispatcher.fill format processor).slot other = dispatcher.slot other := by
  cases format <;> cases other <;> first | rfl | exact absurd rfl h

@[simp] theorem options_fill (dispatcher : Dispatcher P) (format : DocumentFormat)
    (processor : P) : (dispatcher.fill format processor).options = dispatcher.options := by
  cases format <;> rfl

@[simp] theorem fill_fill (dispatcher : Dispatcher P) (format : DocumentFormat)
    (processor other : P) :
    (dispatcher.fill format processor).fill format other = dispatcher.fill format other := by
  cases format <;> rfl

/-- A dispatcher for the options that a caller means. -/
def create (options : Options.Input) : Except Failure (Dispatcher P) :=
  (Options.ofInput options).map fun options => { options }

/-- The file extensions of the documents that the dispatcher takes. -/
def extensions (dispatcher : Dispatcher P) : List String :=
  dispatcher.options.advertised

/-! ## Acquiring a processor -/

/-- A processor that was acquired: itself, whether it was there before, and what
was reported. -/
structure Acquired (P : Type) where
  processor : P
  reused : Bool
  notices : List Notice

/-- What building a processor reports. -/
def buildNotices (format : DocumentFormat) (options : Options) : List Notice :=
  [.record ⟨dispatchChannel, .debug, "built " ++ format.name ++ " processor", none⟩,
    .event (.processorCreated format options.markdownExtensions)]

/-- The processor for a format, built if the slot is empty. -/
def acquire (W : Workshop φ P) (format : DocumentFormat) (options : Options)
    (dispatcher : Dispatcher P) (state : φ) : Except Failure (Acquired P) × Dispatcher P × φ :=
  match dispatcher.slot format with
  | some processor => (.ok ⟨processor, true, []⟩, dispatcher, state)
  | none =>
    match W.build options state with
    | (.error failure, state) => (.error failure, dispatcher, state)
    | (.ok processor, state) =>
      (.ok ⟨processor, false, buildNotices format options⟩, dispatcher.fill format processor,
        state)

/-! ## Calls -/

/-- What a call leaves behind: the outcome, the document if it could be resolved,
the dispatcher, the state of building, and what was reported. -/
structure Call (φ P : Type) where
  outcome : Except Failure Unit
  document : Option Document
  dispatcher : Dispatcher P
  state : φ
  notices : List Notice

/-- Compile a document with the processor of its format. -/
def call (W : Workshop φ P) (mode : Mode) (input : Document.Input) (dispatcher : Dispatcher P)
    (state : φ) : Call φ P :=
  match Document.resolve input (.existing dispatcher.options) with
  | .error failure => ⟨.error failure, none, dispatcher, state, []⟩
  | .ok ⟨document, options⟩ =>
    match options.pinnedFormat? with
    | none => ⟨.error (.unresolvedFormat none), some document, dispatcher, state, []⟩
    | some format =>
      match acquire W format options dispatcher state with
      | (.error failure, dispatcher, state) =>
        ⟨.error failure, some document, dispatcher, state, []⟩
      | (.ok acquired, dispatcher, state) =>
        let dispatched : Notice :=
          .event (.documentDispatched format (document.path.map Path.toString) acquired.reused)
        let processed := W.process mode document acquired.processor
        ⟨processed.outcome, some processed.document,
          dispatcher.fill format processed.processor, state,
          acquired.notices ++ dispatched :: processed.log.map .record⟩

/-- A document that cannot be resolved changes nothing. -/
theorem call_of_unresolved (W : Workshop φ P) (mode : Mode) {input : Document.Input}
    {dispatcher : Dispatcher P} (state : φ) {failure : Failure}
    (h : Document.resolve input (.existing dispatcher.options) = .error failure) :
    call W mode input dispatcher state = ⟨.error failure, none, dispatcher, state, []⟩ := by
  simp [call, h]

end Dispatcher

/-! ## The usual workshop -/

/-- Build processors for the options as they are. -/
def Workshop.standard {σ : Type} (E : Engine σ) (plugins : Callable → Plugin) :
    Workshop Unit (Processor σ) where
  build options state := (Processor.create E plugins options, state)
  process mode document processor := processor.process E mode document

end DocPress
