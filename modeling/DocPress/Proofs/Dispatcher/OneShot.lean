import DocPress.Markdown.Engine
import DocPress.Proofs.Dispatcher.Run
import DocPress.Proofs.Processor.Conversion

/-!
# Dispatchers and single documents

A dispatcher keeps its processors, and each keeps its engine, from document to
document.  If what an engine makes of a body right after a reset does not depend on
what it has converted before, a processor in use gives what a new one gives, so that
every call comes to what compiling its document alone comes to.

Main results:

- `StandsFor.process_eq`: a processor in use gives the document that it gave when new.
- `represents_serve`: every request leaves processors in the slots that stand for new
  ones.
- `results_eq_compile`: the results of a run are those of compiling each document
  alone.
-/

namespace DocPress

variable {σ : Type}

/-! ## Steady engines -/

namespace Engine

/-- The states that an engine comes to by converting bodies, each after a reset. -/
inductive Reaches (E : Engine σ) (start : σ) : σ → Prop where
  | start : Reaches E start start
  | convert {state : σ} (body : String) (h : Reaches E start state) :
      Reaches E start (E.convertAnew body state).2

/-- Right after a reset, what an engine makes of a body depends on the body alone,
however much it has converted since it was built. -/
def Steady (E : Engine σ) : Prop :=
  ∀ setup start state body, E.build setup = .ok start → E.Reaches start state →
    (E.convertAnew body state).1 = (E.convertAnew body start).1

end Engine

/-! ## Renderers in use -/

/-- A renderer in use differs from the new one in the state of its engine alone, and
that came about by converting. -/
structure Renderer.StandsFor (E : Engine σ) (fresh used : Renderer σ) : Prop where
  built : ∃ setup, E.build setup = .ok fresh.engine
  extensions_eq : used.extensions = fresh.extensions
  reaches : E.Reaches fresh.engine used.engine

namespace Renderer

variable {E : Engine σ} {fresh : Renderer σ}

/-- A renderer that was created stands for itself. -/
theorem standsFor_of_create {extensions : List String}
    (h : Renderer.create E extensions = .ok fresh) : StandsFor E fresh fresh := by
  obtain ⟨-, hbuilt⟩ := Renderer.create_eq_ok_iff.1 h
  exact ⟨⟨_, hbuilt⟩, rfl, .start⟩

end Renderer

/-! ## Processors in use -/

/-- A processor in use differs from the new one in its renderer alone. -/
structure Processor.StandsFor (E : Engine σ) (fresh used : Processor σ) : Prop where
  options_eq : used.options = fresh.options
  format_eq : used.format = fresh.format
  plugins_eq : used.plugins = fresh.plugins
  renderer : Renderer.StandsFor E fresh.renderer used.renderer

namespace Processor

variable {E : Engine σ} {fresh used : Processor σ}

/-- A processor that was created stands for itself. -/
theorem standsFor_of_create {plugins : Callable → Plugin} {options : Options}
    (h : Processor.create E plugins options = .ok fresh) : StandsFor E fresh fresh := by
  obtain ⟨format, renderer, -, hr, rfl⟩ := create_eq_ok_iff.1 h
  exact ⟨rfl, rfl, rfl, Renderer.standsFor_of_create hr⟩

/-- A processor in use gives the document that it gave when new, or the same failure. -/
theorem StandsFor.process_eq (h : StandsFor E fresh used) (hE : E.Steady) (mode : Mode)
    (document : Document) :
    (used.process E mode document).outcome = (fresh.process E mode document).outcome ∧
      (used.process E mode document).document = (fresh.process E mode document).document ∧
      StandsFor E fresh (used.process E mode document).processor := by
  obtain ⟨setup, hbuilt⟩ := h.renderer.built
  have hsame := process_congr h.options_eq h.format_eq h.plugins_eq
    (fun body (_ : document.body? = some body) =>
      hE setup fresh.renderer.engine used.renderer.engine body hbuilt h.renderer.reaches) mode
  refine ⟨congrArg (fun seen : Processed Unit => seen.outcome) hsame,
    congrArg (fun seen : Processed Unit => seen.document) hsame, ?_⟩
  rw [processor_process]
  cases used.body? mode document with
  | none => exact h
  | some body =>
    exact ⟨h.options_eq, h.format_eq, h.plugins_eq, h.renderer.built, h.renderer.extensions_eq,
      h.renderer.reaches.convert body⟩

end Processor

/-! ## Compiling alone -/

/-- The document that a call returned, or why it failed. -/
def Dispatcher.Call.result {φ P : Type} (call : Dispatcher.Call φ P) :
    Except Failure (Option Document) :=
  call.outcome.map fun _ => call.document

section Compiling

variable {E : Engine σ} {plugins : Callable → Plugin} {request : Request} {options : Options}

/-- Valid options stand for themselves when a document is resolved. -/
theorem resolve_of_valid {base : Options.Input} (h : Options.ofInput base = .ok options)
    (input : Document.Input) :
    Document.resolve input base = Document.resolve input (.existing options) := by
  simp [Document.resolve, h]

/-- A document that cannot be resolved cannot be compiled. -/
theorem compile_of_unresolved {mode : Mode} {input : Document.Input} {base : Options.Input}
    {failure : Failure} (h : Document.resolve input base = .error failure) :
    compile E plugins mode input base = .error failure := by
  simp [compile, h, bind, Except.bind]

/-- A document whose processor cannot be built cannot be compiled. -/
theorem compile_of_unbuilt {mode : Mode} {input : Document.Input} {base : Options.Input}
    {resolved : Document.Resolved} {failure : Failure}
    (h : Document.resolve input base = .ok resolved)
    (hc : Processor.create E plugins resolved.options = .error failure) :
    compile E plugins mode input base = .error failure := by
  simp [compile, h, hc, bind, Except.bind]

/-- Compiling processes with a new processor. -/
theorem compile_of_built {mode : Mode} {input : Document.Input} {base : Options.Input}
    {resolved : Document.Resolved} {processor : Processor σ}
    (h : Document.resolve input base = .ok resolved)
    (hc : Processor.create E plugins resolved.options = .ok processor) :
    compile E plugins mode input base =
      (processor.process E mode resolved.document).outcome.map
        fun _ => (processor.process E mode resolved.document).document := by
  simp [compile, h, hc, bind, Except.bind]

end Compiling

/-! ## Runs -/

namespace Dispatcher

/-- What holds of a dispatcher for some options all the time: the processor in a slot
stands for a new one. -/
structure Represents (E : Engine σ) (plugins : Callable → Plugin) (options : Options)
    (dispatcher : Dispatcher (Processor σ)) : Prop where
  options_eq : dispatcher.options = options
  slot_stands : ∀ format used, dispatcher.slot format = some used →
    ∃ fresh, Processor.create E plugins (options.withFormat format) = .ok fresh ∧
      Processor.StandsFor E fresh used

section Serving

variable {E : Engine σ} {plugins : Callable → Plugin} {options : Options}
  {dispatcher : Dispatcher (Processor σ)}

/-- A new dispatcher has nothing in its slots. -/
theorem represents_new : Represents E plugins options { options } where
  options_eq := rfl
  slot_stands format used h := by cases format <;> cases h

/-- A processor that stands for a new one may be put into its slot. -/
theorem Represents.fill (h : Represents E plugins options dispatcher) {format : DocumentFormat}
    {fresh used : Processor σ}
    (hc : Processor.create E plugins (options.withFormat format) = .ok fresh)
    (hs : Processor.StandsFor E fresh used) :
    Represents E plugins options (dispatcher.fill format used) where
  options_eq := by rw [options_fill, h.options_eq]
  slot_stands other found hfound := by
    by_cases hf : other = format
    · subst hf
      rw [slot_fill_self] at hfound
      obtain rfl := Option.some.inj hfound
      exact ⟨fresh, hc, hs⟩
    · rw [slot_fill_of_ne dispatcher used hf] at hfound
      exact h.slot_stands other found hfound

/-- A call that ran a processor in use comes to what compiling alone comes to, and
leaves a processor in the slot that stands for a new one. -/
theorem represents_ofProcessed (h : Represents E plugins options dispatcher) (hE : E.Steady)
    {request : Request} {document : Document} {format : DocumentFormat}
    {fresh used : Processor σ}
    (hr : Document.resolve request.input (.existing options) =
      .ok ⟨document, options.withFormat format⟩)
    (hc : Processor.create E plugins (options.withFormat format) = .ok fresh)
    (hs : Processor.StandsFor E fresh used) (notices : List Notice) :
    (Call.ofProcessed format dispatcher () notices
        (used.process E request.mode document)).result =
      (compile E plugins request.mode request.input (.existing options)).map some ∧
    Represents E plugins options
      (Call.ofProcessed format dispatcher () notices
        (used.process E request.mode document)).dispatcher := by
  obtain ⟨houtcome, hdocument, hstands⟩ := hs.process_eq hE request.mode document
  refine ⟨?_, h.fill hc hstands⟩
  rw [compile_of_built hr hc, Call.result, Call.ofProcessed, houtcome, hdocument]
  cases (fresh.process E request.mode document).outcome <;> rfl

/-- Every call comes to what compiling its document alone comes to, and leaves
processors in the slots that stand for new ones. -/
theorem represents_call (h : Represents E plugins options dispatcher) (hE : E.Steady)
    (request : Request) :
    (call (Workshop.standard E plugins) request.mode request.input dispatcher ()).result =
      (compile E plugins request.mode request.input (.existing options)).map some ∧
    Represents E plugins options
      (call (Workshop.standard E plugins) request.mode request.input dispatcher ()).dispatcher := by
  have hcase := callCase_call (Workshop.standard E plugins) request dispatcher ()
  generalize call (Workshop.standard E plugins) request.mode request.input dispatcher () = result
    at hcase ⊢
  obtain rfl := h.options_eq
  cases hcase with
  | unresolved hr =>
    refine ⟨?_, h⟩
    rw [compile_of_unresolved hr]
    rfl
  | unbuilt hr hs hb =>
    refine ⟨?_, h⟩
    rw [compile_of_unbuilt hr (congrArg Prod.fst hb)]
    rfl
  | built hr hs hb =>
    have hc : Processor.create E plugins (dispatcher.options.withFormat _) = .ok _ :=
      congrArg Prod.fst hb
    exact represents_ofProcessed h hE hr hc (Processor.standsFor_of_create hc) _
  | reused hr hs =>
    obtain ⟨fresh, hc, hstands⟩ := h.slot_stands _ _ hs
    exact represents_ofProcessed h hE hr hc hstands _

end Serving

end Dispatcher

namespace History

/-- The results of the requests served so far, first one first. -/
def results {φ P : Type} (history : History φ P) : List (Except Failure (Option Document)) :=
  history.calls.map fun entry => entry.2.result

/-- The results of a run, whatever came before, are those of compiling each document
alone. -/
theorem results_run {E : Engine σ} {plugins : Callable → Plugin} {options : Options}
    (hE : E.Steady) {history : History Unit (Processor σ)}
    (h : Dispatcher.Represents E plugins options history.dispatcher) (requests : List Request) :
    (history.run (Workshop.standard E plugins) requests).results =
      history.results ++ requests.map fun request =>
        (compile E plugins request.mode request.input (.existing options)).map some := by
  induction requests generalizing history with
  | nil => simp
  | cons request requests ih =>
    obtain ⟨hresult, hrepresents⟩ := Dispatcher.represents_call h hE request
    rw [run_cons, ih hrepresents, List.map_cons, ← hresult]
    simp [results, answer]

/-- With a steady engine, the result of every call of a dispatcher is that of compiling
its document alone with the same options, whatever came before. -/
theorem results_eq_compile {E : Engine σ} (plugins : Callable → Plugin) (hE : E.Steady)
    {base : Options.Input} {dispatcher : Dispatcher (Processor σ)}
    (hb : Dispatcher.create base = .ok dispatcher) (requests : List Request) :
    (History.run (Workshop.standard E plugins) ⟨dispatcher, (), []⟩ requests).results =
      requests.map fun request =>
        (compile E plugins request.mode request.input base).map some := by
  cases ho : Options.ofInput base with
  | error failure =>
    rw [Dispatcher.create, ho] at hb
    cases hb
  | ok options =>
    rw [Dispatcher.create, ho] at hb
    cases hb
    rw [results_run hE Dispatcher.represents_new]
    simp only [compile, resolve_of_valid ho]
    rfl

end History

/-! ## An engine that is steady -/

namespace Markdown

/-- The Markdown engine, but for footnotes that get the same number in every document;
documents without footnotes do not see the difference. -/
def unnumbered : Engine Markdown :=
  { engine with reset := fun state => (.ok (), { state with resets := 1 }) }

/-- Converting keeps the dialect. -/
theorem dialect_of_reaches {start state : Markdown} (h : unnumbered.Reaches start state) :
    state.dialect = start.dialect := by
  induction h with
  | start => rfl
  | convert body h ih => exact ih

theorem steady_unnumbered : unnumbered.Steady := by
  intro setup start state body _ hreaches
  have hreset : unnumbered.reset state = unnumbered.reset start := by
    simp only [unnumbered, dialect_of_reaches hreaches]
  rw [Engine.convertAnew, Engine.convertAnew, hreset]

end Markdown

namespace History

/-- A Markdown document, an MDX document, and a text without a format. -/
def mixedRequests : List Request :=
  [⟨.synchronous, .value (.map [(.text "value", .text "# One"), (.text "path", .text "one.md")])⟩,
    ⟨.asynchronous,
      .value (.map [(.text "value", .text "# Two"), (.text "path", .text "two.mdx")])⟩,
    ⟨.synchronous, .value (.text "# Three")⟩]

theorem results_eq_compile_mixed :
    Markdown.unnumbered.Steady ∧
    Dispatcher.create (.value .none) = .ok (⟨{}, none, none⟩ : Dispatcher (Processor Markdown)) ∧
    (History.run (Workshop.standard Markdown.unnumbered Plugin.idle) ⟨⟨{}, none, none⟩, (), []⟩
        mixedRequests).results =
      mixedRequests.map fun request =>
        (compile Markdown.unnumbered Plugin.idle request.mode request.input
          (.value .none)).map some :=
  ⟨Markdown.steady_unnumbered, rfl,
    results_eq_compile Plugin.idle Markdown.steady_unnumbered rfl mixedRequests⟩

end History

end DocPress
