import DocPress.Proofs.Dispatcher.OneShot
import DocPress.Proofs.Processor.Failing

/-!
# What resolving settles

Resolving a document pins the format in its options and touches no other option.  Options
that pin a format need no document any more: they resolve to themselves, they advertise
the suffixes of their format, and a processor can be built for them unless the engine
declines.

Main results:

- `settles_of_resolve`: what holds of every document and options that are resolved.
- `compile_construction_iff`: what could not be constructed when a document is compiled
  alone.
- `call_construction_iff`: what could not be constructed in a call of a dispatcher.
- `resolution_law`: all of these.
-/

namespace DocPress

variable {σ : Type}

/-! ## Engines that decline -/

/-- The engine's constructor declines what a processor for some options would need. -/
inductive Engine.Declines (E : Engine σ) (options : Options) : Failure → Prop where
  | intro {format : DocumentFormat} {reason : Raised}
      (format_eq : options.format = some (.pinned format))
      (build_eq : E.build (.of (ExtensionNames.dedupe (Processor.extensionsFor format options))) =
        .error reason) :
      Engine.Declines E options (.engineConstruction reason)

/-- Options with a pinned format name one. -/
theorem Options.pinnedFormat?_eq_some_iff {options : Options} {format : DocumentFormat} :
    options.pinnedFormat? = some format ↔ options.format = some (.pinned format) := by
  rw [pinnedFormat?]
  rcases options.format with _ | _ | _ <;> simp

/-- For options that pin a format, a processor cannot be built exactly if the engine
declines. -/
theorem Processor.create_error_iff {E : Engine σ} {plugins : Callable → Plugin}
    {options : Options} {format : DocumentFormat}
    (h : options.format = some (.pinned format)) {failure : Failure} :
    create E plugins options = .error failure ↔ E.Declines options failure := by
  rw [create_eq_error_iff (Options.pinnedFormat?_eq_some_iff.2 h), Renderer.create_eq_error_iff]
  constructor
  · rintro ⟨reason, hdeclined, rfl⟩
    exact .intro h hdeclined
  · rintro ⟨hformat, hdeclined⟩
    rw [h] at hformat
    cases hformat
    exact ⟨_, hdeclined, rfl⟩

namespace Document

/-! ## Settled options -/

/-- What holds of a document and options that were resolved. -/
structure Settles (options : Options.Input) (resolved : Resolved) : Prop where
  /-- The format is one of the two. -/
  pinned : ∃ format, resolved.options.format = some (.pinned format)
  /-- Every other option is what the caller means. -/
  unchanged : ∃ base, Options.ofInput options = .ok base ∧
    resolved.options = { base with format := resolved.options.format } ∧
    ∀ format, resolved.options.active format = base.active format
  /-- Resolving the document with these options gives both again. -/
  itself : resolve (.existing resolved.document) (.existing resolved.options) = .ok resolved
  /-- Resolving any other document, with or without a path, gives these options again. -/
  again : ∀ input document, ofInput input = .ok document →
    resolve input (.existing resolved.options) = .ok ⟨document, resolved.options⟩
  /-- The suffixes of the format are advertised, and no other. -/
  advertised : ∀ format, resolved.options.format = some (.pinned format) →
    resolved.options.advertised = resolved.options.active format
  /-- No processor is refused for want of a format. -/
  formatted : ∀ {σ : Type} (E : Engine σ) (plugins : Callable → Plugin) (name : Option String),
    Processor.create E plugins resolved.options ≠ .error (.unresolvedFormat name)

/-- Options that pin a format are resolved to themselves with every document. -/
theorem resolve_of_pinned {options : Options} {format : DocumentFormat}
    (h : options.pinnedFormat? = some format) {input : Input} {document : Document}
    (hd : ofInput input = .ok document) :
    resolve input (.existing options) = .ok ⟨document, options⟩ := by
  refine resolve_eq_ok_iff.2 ⟨options, format, rfl, hd, detectFormat_of_pinned document h, ?_⟩
  exact (Options.withFormat_eq_self_iff.2 h).symm

/-- Resolving settles the format and nothing else. -/
theorem settles_of_resolve {input : Input} {options : Options.Input} {resolved : Resolved}
    (h : resolve input options = .ok resolved) : Settles options resolved := by
  obtain ⟨document, pinned⟩ := resolved
  obtain ⟨base, format, hbase, -, -, rfl⟩ := resolve_eq_ok_iff.1 h
  have hpinned : (base.withFormat format).pinnedFormat? = some format :=
    Options.pinnedFormat?_withFormat base format
  exact {
    pinned := ⟨format, rfl⟩
    unchanged := ⟨base, hbase, rfl, Options.active_withFormat base format⟩
    itself := resolve_of_pinned hpinned (ofInput_existing document)
    again := fun input other hother => resolve_of_pinned hpinned hother
    advertised := by
      rintro other ⟨⟩
      rw [Options.advertised_withFormat, Options.active_withFormat]
    formatted := by
      intro τ E plugins name hrefused
      obtain ⟨⟩ := (Processor.create_error_iff rfl).1 hrefused }

/-! ## Failing to resolve -/

/-- Options that a caller cannot mean are a failure of configuration. -/
theorem kind_of_options_error {options : Options.Input} {failure : Failure}
    (h : Options.ofInput options = .error failure) : failure.kind = .configuration := by
  cases options with
  | existing options => cases h
  | value value =>
    cases value with
    | none => cases h
    | map entries =>
      rw [Options.ofInput] at h
      cases hr : Options.read entries with
      | ok options =>
        rw [hr] at h
        cases h
      | error issues =>
        rw [hr] at h
        cases h
        rfl
    | _ =>
      cases h
      rfl

/-- A value of the wrong form is no failure to construct something. -/
theorem kind_of_mapError {α : Type} {result : Except ValueFault α} {failure : Failure}
    (h : result.mapError Failure.value = .error failure) : failure.kind ≠ .construction := by
  cases result with
  | ok value => cases h
  | error fault =>
    cases h
    cases fault <;> rintro ⟨⟩

/-- Fields that make no document are no failure to construct something. -/
theorem kind_of_ofMapping_error {entries : Mapping} {failure : Failure}
    (h : ofMapping entries = .error failure) : failure.kind ≠ .construction := by
  rw [ofMapping] at h
  split at h
  case isTrue =>
    cases h
    rintro ⟨⟩
  case isFalse =>
    cases hdata : (orEmpty (entries.getText "data") (.map [])).toMapping.mapError Failure.value with
    | error fault =>
      rw [hdata] at h
      cases h
      exact kind_of_mapError hdata
    | ok data =>
      cases hmessages :
          (orEmpty (entries.getText "messages") (.list [])).toList.mapError Failure.value with
      | error fault =>
        rw [hdata, hmessages] at h
        cases h
        exact kind_of_mapError hmessages
      | ok messages =>
        cases hpath : (readPath (entries.getText "path")).mapError Failure.value with
        | error fault =>
          rw [hdata, hmessages, hpath] at h
          cases h
          exact kind_of_mapError hpath
        | ok path =>
          rw [hdata, hmessages, hpath] at h
          cases h

/-- What no document can be made of is no failure to construct something. -/
theorem kind_of_document_error {input : Input} {failure : Failure}
    (h : ofInput input = .error failure) : failure.kind ≠ .construction := by
  cases input with
  | existing document => cases h
  | value value =>
    cases value with
    | none => cases h
    | text s => cases h
    | bytes b => cases h
    | map entries => exact kind_of_ofMapping_error h
    | _ =>
      cases h
      rintro ⟨⟩

/-- Finding out what a caller means is no failure to construct something. -/
theorem kind_of_resolve_error {input : Input} {options : Options.Input} {failure : Failure}
    (h : resolve input options = .error failure) : failure.kind ≠ .construction := by
  rw [resolve] at h
  cases hoptions : Options.ofInput options with
  | error fault =>
    rw [hoptions] at h
    cases h
    rw [kind_of_options_error hoptions]
    rintro ⟨⟩
  | ok base =>
    cases hdocument : ofInput input with
    | error fault =>
      rw [hoptions, hdocument] at h
      cases h
      exact kind_of_document_error hdocument
    | ok document =>
      rcases detectFormat_cases document base with ⟨format, hformat⟩ | ⟨fault, hformat⟩
      · simp [hoptions, hdocument, hformat, bind, Except.bind, pure, Except.pure] at h
      · simp only [hoptions, hdocument, hformat, bind, Except.bind, Except.error.injEq] at h
        subst h
        rintro ⟨⟩

end Document

/-! ## Failing to construct -/

section Constructing

variable {E : Engine σ} {plugins : Callable → Plugin} {mode : Mode} {input : Document.Input}
  {failure : Failure}

/-- When a document is compiled alone, what could not be constructed is the engine, or is
what a plugin that was called has raised. -/
theorem compile_construction_iff {options : Options.Input} (h : failure.kind = .construction) :
    compile E plugins mode input options = .error failure ↔
      ∃ resolved, Document.resolve input options = .ok resolved ∧
        (E.Declines resolved.options failure ∨
          ∃ processor, Processor.create E plugins resolved.options = .ok processor ∧
            ∃ visit ∈ processor.visits E mode resolved.document, visit.Raises mode failure) := by
  cases hr : Document.resolve input options with
  | error fault =>
    rw [compile_of_unresolved hr]
    have hkind := Document.kind_of_resolve_error hr
    constructor
    · rintro ⟨⟩
      exact absurd h hkind
    · rintro ⟨resolved, ⟨⟩, -⟩
  | ok resolved =>
    obtain ⟨format, hformat⟩ := (Document.settles_of_resolve hr).pinned
    have hdeclines : Processor.create E plugins resolved.options = .error failure ↔
        E.Declines resolved.options failure := Processor.create_error_iff hformat
    simp only [Except.ok.injEq, exists_eq_left', ← hdeclines]
    cases hc : Processor.create E plugins resolved.options with
    | error fault =>
      rw [compile_of_unbuilt hr hc]
      simp
    | ok processor =>
      rw [compile_of_built hr hc]
      have hprocess : (processor.process E mode resolved.document).outcome = .error failure ↔
          ∃ visit ∈ processor.visits E mode resolved.document, visit.Raises mode failure :=
        Processor.outcome_process_construction_iff h
      simp only [reduceCtorEq, false_or, Except.ok.injEq, exists_eq_left', ← hprocess]
      cases (processor.process E mode resolved.document).outcome <;> simp [Except.map]

/-- The processor that a call of a dispatcher uses: the one in the slot, or a new one. -/
inductive Dispatcher.Uses (E : Engine σ) (plugins : Callable → Plugin)
    (dispatcher : Dispatcher (Processor σ)) (options : Options) (format : DocumentFormat) :
    Processor σ → Prop where
  | kept {processor : Processor σ} (slot_eq : dispatcher.slot format = some processor) :
      Uses E plugins dispatcher options format processor
  | created {processor : Processor σ} (slot_eq : dispatcher.slot format = none)
      (create_eq : Processor.create E plugins options = .ok processor) :
      Uses E plugins dispatcher options format processor

namespace Dispatcher

variable {dispatcher : Dispatcher (Processor σ)} {document : Document} {format : DocumentFormat}

/-- A call in which something cannot be constructed: the engine declines a processor that is
not there, or a plugin that is called raises the failure itself. -/
def CannotConstruct (E : Engine σ) (plugins : Callable → Plugin) (mode : Mode)
    (dispatcher : Dispatcher (Processor σ)) (document : Document) (format : DocumentFormat)
    (failure : Failure) : Prop :=
  dispatcher.slot format = none ∧ E.Declines (dispatcher.options.withFormat format) failure ∨
    ∃ processor,
      dispatcher.Uses E plugins (dispatcher.options.withFormat format) format processor ∧
        ∃ visit ∈ processor.visits E mode document, visit.Raises mode failure

/-- Where no processor can be built, it is the engine that cannot be constructed. -/
theorem cannotConstruct_of_unbuilt {fault : Failure} (hs : dispatcher.slot format = none)
    (hc : Processor.create E plugins (dispatcher.options.withFormat format) = .error fault) :
    CannotConstruct E plugins mode dispatcher document format failure ↔ fault = failure := by
  have hdeclines : Processor.create E plugins (dispatcher.options.withFormat format) =
      .error failure ↔ E.Declines (dispatcher.options.withFormat format) failure :=
    Processor.create_error_iff rfl
  have hunused (used : Processor σ) :
      ¬ dispatcher.Uses E plugins (dispatcher.options.withFormat format) format used := by
    rintro (hkept | ⟨-, hcreated⟩)
    · cases hs.symm.trans hkept
    · cases hc.symm.trans hcreated
  simp only [CannotConstruct, hs, true_and, ← hdeclines, hc, Except.error.injEq, hunused,
    false_and, exists_false, or_false]

/-- Where a processor runs, it is a plugin that says so. -/
theorem cannotConstruct_of_used {processor : Processor σ}
    (hu : ∀ used,
      dispatcher.Uses E plugins (dispatcher.options.withFormat format) format used ↔
        used = processor)
    (hd : dispatcher.slot format = none → ∃ built,
      Processor.create E plugins (dispatcher.options.withFormat format) = .ok built) :
    CannotConstruct E plugins mode dispatcher document format failure ↔
      ∃ visit ∈ processor.visits E mode document, visit.Raises mode failure := by
  have hnot : ¬ (dispatcher.slot format = none ∧
      E.Declines (dispatcher.options.withFormat format) failure) := by
    rintro ⟨hs, hdeclines⟩
    obtain ⟨built, hbuilt⟩ := hd hs
    have herror : Processor.create E plugins (dispatcher.options.withFormat format) =
        .error failure := (Processor.create_error_iff rfl).2 hdeclines
    cases hbuilt.symm.trans herror
  simp only [CannotConstruct, hnot, false_or, hu, exists_eq_left]

/-- In a call of a dispatcher, whatever was called before, what could not be constructed
is the engine of a processor that was not there, or is what a plugin that was called has
raised. -/
theorem call_construction_iff (h : failure.kind = .construction) :
    (dispatcher.call (Workshop.standard E plugins) mode input ()).outcome = .error failure ↔
      ∃ document format, Document.resolve input (.existing dispatcher.options) =
          .ok ⟨document, dispatcher.options.withFormat format⟩ ∧
        CannotConstruct E plugins mode dispatcher document format failure := by
  have hcase := callCase_call (Workshop.standard E plugins) ⟨mode, input⟩ dispatcher ()
  generalize dispatcher.call (Workshop.standard E plugins) mode input () = call at hcase ⊢
  have hresolved {document : Document} {format : DocumentFormat}
      (hr : Document.resolve input (.existing dispatcher.options) =
        .ok ⟨document, dispatcher.options.withFormat format⟩) :
      (∃ document format, Document.resolve input (.existing dispatcher.options) =
          .ok ⟨document, dispatcher.options.withFormat format⟩ ∧
        CannotConstruct E plugins mode dispatcher document format failure) ↔
      CannotConstruct E plugins mode dispatcher document format failure := by
    constructor
    · rintro ⟨other, otherFormat, hother, hfails⟩
      rw [hr] at hother
      cases hother
      exact hfails
    · exact fun hfails => ⟨document, format, hr, hfails⟩
  cases hcase with
  | unresolved hr =>
    have hkind := Document.kind_of_resolve_error hr
    constructor
    · rintro ⟨⟩
      exact absurd h hkind
    · rintro ⟨document, format, hresolved, -⟩
      cases hr.symm.trans hresolved
  | unbuilt hr hs hb =>
    rw [hresolved hr, cannotConstruct_of_unbuilt hs (congrArg Prod.fst hb), Except.error.injEq]
  | @built document format processor _ hr hs hb =>
    have hc : Processor.create E plugins (dispatcher.options.withFormat format) = .ok processor :=
      congrArg Prod.fst hb
    have hu (used : Processor σ) :
        dispatcher.Uses E plugins (dispatcher.options.withFormat format) format used ↔
          used = processor := by
      constructor
      · rintro (hkept | ⟨-, hcreated⟩)
        · cases hs.symm.trans hkept
        · exact Except.ok.inj (hcreated.symm.trans hc)
      · rintro rfl
        exact .created hs hc
    rw [hresolved hr, cannotConstruct_of_used hu fun _ => ⟨processor, hc⟩]
    exact Processor.outcome_process_construction_iff h
  | @reused document format processor hr hs =>
    have hu (used : Processor σ) :
        dispatcher.Uses E plugins (dispatcher.options.withFormat format) format used ↔
          used = processor := by
      constructor
      · rintro (hkept | ⟨hempty, -⟩)
        · exact Option.some.inj (hkept.symm.trans hs)
        · cases hs.symm.trans hempty
      · rintro rfl
        exact .kept hs
    rw [hresolved hr, cannotConstruct_of_used hu fun hempty => by cases hs.symm.trans hempty]
    exact Processor.outcome_process_construction_iff h

end Dispatcher

end Constructing

/-! ## The law -/

/-- What resolving a document and options settles, and what may still fail to be
constructed afterwards. -/
structure Resolves (E : Engine σ) (plugins : Callable → Plugin) (mode : Mode)
    (input : Document.Input) (options : Options.Input) : Prop where
  /-- The format is pinned for good, and nothing else is changed. -/
  settles : ∀ resolved, Document.resolve input options = .ok resolved →
    Document.Settles options resolved
  /-- Compiling the document alone can fail to construct the engine and nothing else; what
  a plugin raises goes through. -/
  compiling : ∀ failure, failure.kind = .construction →
    (compile E plugins mode input options = .error failure ↔
      ∃ resolved, Document.resolve input options = .ok resolved ∧
        (E.Declines resolved.options failure ∨
          ∃ processor, Processor.create E plugins resolved.options = .ok processor ∧
            ∃ visit ∈ processor.visits E mode resolved.document, visit.Raises mode failure))
  /-- A call of a dispatcher in any state can fail to construct the engine and nothing
  else; what a plugin raises goes through. -/
  calling : ∀ (dispatcher : Dispatcher (Processor σ)) failure, failure.kind = .construction →
    ((dispatcher.call (Workshop.standard E plugins) mode input ()).outcome = .error failure ↔
      ∃ document format, Document.resolve input (.existing dispatcher.options) =
          .ok ⟨document, dispatcher.options.withFormat format⟩ ∧
        dispatcher.CannotConstruct E plugins mode document format failure)

/-- Resolving pins the format and changes nothing else, and so the engine is all that
compiling may fail to construct. -/
theorem resolution_law (E : Engine σ) (plugins : Callable → Plugin) (mode : Mode)
    (input : Document.Input) (options : Options.Input) :
    Resolves E plugins mode input options where
  settles _ h := Document.settles_of_resolve h
  compiling _ h := compile_construction_iff h
  calling _ _ h := Dispatcher.call_construction_iff h

end DocPress
