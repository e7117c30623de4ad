import DocPress.Engine.Echo
import DocPress.Proofs.Processor.Conversion

/-!
# Processing with and without waiting

In both modes a processor renders a document and calls its plugins in turn.  This
module follows the calls of plugins in a run, says by which call a run fails and when
processing without waiting is refused, and shows that where it is not refused both modes
do the same.

Main results:

- `runPlugins_error_iff`: a run of plugins fails by a call that ends it, and by nothing else.
- `refuses_iff`: processing without waiting is refused exactly if a plugin is declared
  to be awaited or a plugin that is called gives an answer that has to be awaited and
  can be closed.
- `modes_agree`: what succeeds or fails without waiting, but for being refused, does
  the same with waiting by the same engine.
- `modes_differ`: an engine that has been used makes a difference, and so does an answer that
  cannot be closed.
-/

namespace DocPress

/-- The failures that are about having to wait: those of processors that cannot. -/
def Failure.isAboutWaiting : Failure → Bool
  | .asynchronousPlugins => true
  | .awaitable _ => true
  | _ => false

/-! ## Calls of plugins -/

/-- A call of a plugin, with the output so far and the document that it is given. -/
structure Visit where
  plugin : Plugin
  html : String
  document : Document

namespace Visit

/-- What the plugin answers, or why it fails. -/
def answer (visit : Visit) : Except Failure Reply :=
  (visit.plugin.call visit.html visit.document).1

/-- The document as the plugin returns. -/
def returned (visit : Visit) : Document :=
  (visit.plugin.call visit.html visit.document).2

/-- The answer has to be awaited. -/
def Defers (visit : Visit) : Prop :=
  ∃ await close, visit.answer = .ok (.awaitable await close)

/-- The answer has to be awaited, and who cannot wait can close it. -/
def Closes (visit : Visit) : Prop :=
  ∃ await close, visit.answer = .ok (.awaitable await close) ∧
    (close visit.returned).1 = .ok ()

/-- The plugin raises a failure: when it is called, when its answer is awaited by who can
wait, or when it is closed by who cannot. -/
inductive Raises (mode : Mode) (visit : Visit) (failure : Failure) : Prop where
  | called (answer_eq : visit.answer = .error failure)
  | awaited {await : Document → Except Failure (Option String) × Document}
      {close : Document → Except Failure Unit × Document} (mode_eq : mode = .asynchronous)
      (answer_eq : visit.answer = .ok (.awaitable await close))
      (await_eq : (await visit.returned).1 = .error failure)
  | closed {await : Document → Except Failure (Option String) × Document}
      {close : Document → Except Failure Unit × Document} (mode_eq : mode = .synchronous)
      (answer_eq : visit.answer = .ok (.awaitable await close))
      (close_eq : (close visit.returned).1 = .error failure)

/-- The call ends a run of plugins: the plugin raises a failure, or its answer is closed by
who cannot wait for it. -/
def Fails (mode : Mode) (visit : Visit) (failure : Failure) : Prop :=
  visit.Raises mode failure ∨
    mode = .synchronous ∧ visit.Closes ∧ failure = .awaitable visit.plugin.label

section Answers

variable {mode : Mode} {visit : Visit} {failure : Failure}

theorem Closes.defers (h : visit.Closes) : visit.Defers := by
  obtain ⟨await, close, hanswer, -⟩ := h
  exact ⟨await, close, hanswer⟩

/-- A plugin that fails ends a run by its failure. -/
theorem fails_of_error {raised : Failure} (h : visit.answer = .error raised) :
    visit.Fails mode failure ↔ raised = failure := by
  constructor
  · rintro ((hcalled | ⟨-, hanswer, -⟩ | ⟨-, hanswer, -⟩) | ⟨-, ⟨_, _, hanswer, -⟩, -⟩)
    · rw [h] at hcalled
      exact Except.error.inj hcalled
    all_goals
      rw [h] at hanswer
      cases hanswer
  · rintro rfl
    exact .inl (.called h)

/-- A plugin that answers at once ends no run. -/
theorem not_fails_of_ok {reply : Reply} (h : visit.answer = .ok reply)
    (hnow : ∀ await close, reply ≠ .awaitable await close) : ¬ visit.Fails mode failure := by
  rintro ((hcalled | ⟨-, hanswer, -⟩ | ⟨-, hanswer, -⟩) | ⟨-, ⟨_, _, hanswer, -⟩, -⟩)
  · rw [h] at hcalled
    cases hcalled
  all_goals
    rw [h] at hanswer
    exact hnow _ _ (Except.ok.inj hanswer)

section Awaitable

variable {await : Document → Except Failure (Option String) × Document}
  {close : Document → Except Failure Unit × Document}

/-- An answer that has to be awaited ends a run with waiting if awaiting it fails. -/
theorem fails_asynchronous_iff (h : visit.answer = .ok (.awaitable await close)) :
    visit.Fails .asynchronous failure ↔ (await visit.returned).1 = .error failure := by
  constructor
  · rintro ((hcalled | ⟨-, hanswer, hawait⟩ | ⟨⟨⟩, -, -⟩) | ⟨⟨⟩, -, -⟩)
    · rw [h] at hcalled
      cases hcalled
    · rw [h] at hanswer
      cases hanswer
      exact hawait
  · exact fun hawait => .inl (.awaited rfl h hawait)

/-- It ends every run without waiting, by what closing it raises or else by having to be
awaited. -/
theorem fails_synchronous_iff (h : visit.answer = .ok (.awaitable await close)) :
    visit.Fails .synchronous failure ↔
      (close visit.returned).1 = .error failure ∨
        (close visit.returned).1 = .ok () ∧ failure = .awaitable visit.plugin.label := by
  constructor
  · rintro ((hcalled | ⟨⟨⟩, -, -⟩ | ⟨-, hanswer, hclose⟩) | ⟨-, ⟨_, _, hanswer, hclose⟩, hfailure⟩)
    · rw [h] at hcalled
      cases hcalled
    · rw [h] at hanswer
      cases hanswer
      exact .inl hclose
    · rw [h] at hanswer
      cases hanswer
      exact .inr ⟨hclose, hfailure⟩
  · rintro (hclose | ⟨hclose, hfailure⟩)
    · exact .inl (.closed rfl h hclose)
    · exact .inr ⟨rfl, ⟨await, close, h, hclose⟩, hfailure⟩

end Awaitable

/-- An answer that has to be awaited ends every run without waiting. -/
theorem Defers.exists_fails (h : visit.Defers) : ∃ failure, visit.Fails .synchronous failure := by
  obtain ⟨await, close, hanswer⟩ := h
  cases hclose : (close visit.returned).1 with
  | error raised => exact ⟨raised, (fails_synchronous_iff hanswer).2 (.inl hclose)⟩
  | ok => exact ⟨_, (fails_synchronous_iff hanswer).2 (.inr ⟨hclose, rfl⟩)⟩

/-- A call that ends with an answer that was closed raises nothing. -/
theorem Closes.not_raises (h : visit.Closes) : ¬ visit.Raises .synchronous failure := by
  obtain ⟨await, close, hanswer, hclosed⟩ := h
  rintro (hcalled | ⟨⟨⟩, -, -⟩ | ⟨-, hother, hclose⟩)
  · rw [hanswer] at hcalled
    cases hcalled
  · rw [hanswer] at hother
    cases hother
    rw [hclosed] at hclose
    cases hclose

end Answers

end Visit

namespace Processor

variable {σ : Type}

/-- The calls of a run of plugins, in order: a plugin is called if all before it gave
an output. -/
def visitsFrom (mode : Mode) : List Plugin → String → Document → List Visit
  | [], _, _ => []
  | plugin :: plugins, html, document =>
    ⟨plugin, html, document⟩ ::
      match runPlugin mode plugin html document with
      | (.error _, _) => []
      | (.ok html, document) => visitsFrom mode plugins html document

/-- The calls of plugins when a document is processed: none if processing is refused up
front or the document cannot be rendered. -/
def visits (E : Engine σ) (mode : Mode) (document : Document) (processor : Processor σ) :
    List Visit :=
  if mode = .synchronous && processor.hasAsyncSteps then []
  else
    match processor.renderDocument E document with
    | (.error _, _, _) => []
    | (.ok rendered, document, processor) =>
      visitsFrom mode processor.plugins rendered.html document

/-! ## One plugin -/

section Calling

variable {plugin : Plugin} {html : String} {document : Document}

/-- A plugin whose answer need not be awaited does the same in both modes. -/
theorem runPlugin_asynchronous_eq (h : ¬ Visit.Defers ⟨plugin, html, document⟩) :
    runPlugin .asynchronous plugin html document = runPlugin .synchronous plugin html document := by
  rcases hc : plugin.call html document with ⟨failure | reply, last⟩
  · simp only [runPlugin, hc]
  · cases reply with
    | nothing => simp only [runPlugin, hc, settle]
    | html result => simp only [runPlugin, hc, settle]
    | awaitable await close =>
      exact absurd ⟨await, close, by rw [Visit.answer, hc]⟩ h

/-- Calling a plugin fails exactly if the call ends a run. -/
theorem runPlugin_error_iff {mode : Mode} {failure : Failure} :
    (runPlugin mode plugin html document).1 = .error failure ↔
      Visit.Fails mode ⟨plugin, html, document⟩ failure := by
  rcases hc : plugin.call html document with ⟨raised | reply, last⟩
  · have hanswer : Visit.answer ⟨plugin, html, document⟩ = .error raised := by
      rw [Visit.answer, hc]
    rw [Visit.fails_of_error hanswer]
    simp only [runPlugin, hc, Except.error.injEq]
  · have hanswer : Visit.answer ⟨plugin, html, document⟩ = .ok reply := by rw [Visit.answer, hc]
    have hreturned : Visit.returned ⟨plugin, html, document⟩ = last := by
      rw [Visit.returned, hc]
    cases reply with
    | nothing =>
      have hno : ¬ Visit.Fails mode ⟨plugin, html, document⟩ failure :=
        Visit.not_fails_of_ok hanswer (by rintro _ _ ⟨⟩)
      simp only [runPlugin, hc, settle, reduceCtorEq, hno]
    | html result =>
      have hno : ¬ Visit.Fails mode ⟨plugin, html, document⟩ failure :=
        Visit.not_fails_of_ok hanswer (by rintro _ _ ⟨⟩)
      simp only [runPlugin, hc, settle, reduceCtorEq, hno]
    | awaitable await close =>
      cases mode with
      | synchronous =>
        rw [Visit.fails_synchronous_iff hanswer, hreturned]
        rcases hclose : close last with ⟨raised | ⟨⟩, closed⟩
        · simp [runPlugin, hc, settle, hclose]
        · simp [runPlugin, hc, settle, hclose, eq_comm]
      | asynchronous =>
        rw [Visit.fails_asynchronous_iff hanswer, hreturned]
        simp only [runPlugin, hc, settle]
        cases (await last).1 <;> simp [Except.map]

/-- A call that gives an output ends no run. -/
theorem not_fails_of_runPlugin_ok {mode : Mode} {result : String} {next : Document}
    (h : runPlugin mode plugin html document = (.ok result, next)) (failure : Failure) :
    ¬ Visit.Fails mode ⟨plugin, html, document⟩ failure := by
  rw [← runPlugin_error_iff, h]
  rintro ⟨⟩

end Calling

/-! ## A run of plugins -/

section Running

variable {mode : Mode} {plugin : Plugin} {plugins : List Plugin} {html : String}
  {document : Document}

theorem visitsFrom_cons_of_error {failure : Failure} {last : Document}
    (h : runPlugin mode plugin html document = (.error failure, last)) :
    visitsFrom mode (plugin :: plugins) html document = [⟨plugin, html, document⟩] := by
  simp only [visitsFrom, h]

theorem visitsFrom_cons_of_ok {result : String} {next : Document}
    (h : runPlugin mode plugin html document = (.ok result, next)) :
    visitsFrom mode (plugin :: plugins) html document =
      ⟨plugin, html, document⟩ :: visitsFrom mode plugins result next := by
  simp only [visitsFrom, h]

/-- If no answer has to be awaited, both modes run the plugins alike. -/
theorem runPlugins_asynchronous_eq
    (h : ∀ visit ∈ visitsFrom .synchronous plugins html document, ¬ visit.Defers) :
    runPlugins .asynchronous plugins html document =
      runPlugins .synchronous plugins html document := by
  induction plugins generalizing html document with
  | nil => rfl
  | cons plugin plugins ih =>
    have hfirst := runPlugin_asynchronous_eq (h _ (List.mem_cons_self ..))
    rcases hr : runPlugin .synchronous plugin html document with ⟨failure | result, next⟩
    · simp only [runPlugins, hfirst, hr]
    · rw [visitsFrom_cons_of_ok hr] at h
      simp only [runPlugins, hfirst, hr]
      exact ih fun visit hv => h visit (List.mem_cons_of_mem _ hv)

/-- A run of plugins fails exactly by a call that ends it. -/
theorem runPlugins_error_iff {failure : Failure} :
    (runPlugins mode plugins html document).1 = .error failure ↔
      ∃ visit ∈ visitsFrom mode plugins html document, visit.Fails mode failure := by
  induction plugins generalizing html document with
  | nil => simp [runPlugins, visitsFrom]
  | cons plugin plugins ih =>
    rcases hr : runPlugin mode plugin html document with ⟨raised | result, next⟩
    · have hfirst : (runPlugin mode plugin html document).1 = .error failure ↔
          Visit.Fails mode ⟨plugin, html, document⟩ failure := runPlugin_error_iff
      rw [hr] at hfirst
      rw [visitsFrom_cons_of_error hr]
      simpa only [runPlugins, hr, List.mem_singleton, exists_eq_left] using hfirst
    · have hnot := not_fails_of_runPlugin_ok hr failure
      rw [visitsFrom_cons_of_ok hr]
      simp only [runPlugins, hr, ih, List.mem_cons, exists_eq_or_imp, hnot, false_or]

/-- An answer that is closed ends a run without waiting before any plugin raises a
failure. -/
theorem not_raises_of_closes {visit other : Visit}
    (hv : visit ∈ visitsFrom .synchronous plugins html document) (hc : visit.Closes)
    (ho : other ∈ visitsFrom .synchronous plugins html document) (failure : Failure) :
    ¬ other.Raises .synchronous failure := by
  induction plugins generalizing html document with
  | nil => cases hv
  | cons plugin plugins ih =>
    rcases hr : runPlugin .synchronous plugin html document with ⟨raised | result, next⟩
    · rw [visitsFrom_cons_of_error hr, List.mem_singleton] at hv ho
      rw [ho, ← hv]
      exact hc.not_raises
    · have hfirst := not_fails_of_runPlugin_ok hr
      rw [visitsFrom_cons_of_ok hr] at hv ho
      rcases List.mem_cons.1 hv with rfl | hv
      · exact absurd (.inr ⟨rfl, hc, rfl⟩) (hfirst _)
      · rcases List.mem_cons.1 ho with rfl | ho
        · exact fun hraises => hfirst failure (.inl hraises)
        · exact ih hv ho

/-- An answer that has to be awaited is met in one mode exactly if it is met in the
other. -/
theorem exists_defers_iff :
    (∃ visit ∈ visitsFrom mode plugins html document, visit.Defers) ↔
      ∃ visit ∈ visitsFrom .synchronous plugins html document, visit.Defers := by
  cases mode with
  | synchronous => exact Iff.rfl
  | asynchronous =>
    induction plugins generalizing html document with
    | nil => simp [visitsFrom]
    | cons plugin plugins ih =>
      by_cases hd : Visit.Defers ⟨plugin, html, document⟩
      · exact ⟨fun _ => ⟨_, List.mem_cons_self .., hd⟩, fun _ => ⟨_, List.mem_cons_self .., hd⟩⟩
      · have hfirst := runPlugin_asynchronous_eq hd
        rcases hr : runPlugin .synchronous plugin html document with ⟨raised | result, next⟩
        · rw [visitsFrom_cons_of_error hr, visitsFrom_cons_of_error (hfirst.trans hr)]
        · rw [visitsFrom_cons_of_ok hr, visitsFrom_cons_of_ok (hfirst.trans hr)]
          simp only [List.mem_cons, exists_eq_or_imp, ih]

end Running

/-! ## Rendering -/

/-- A fault in front matter is not about waiting. -/
theorem isAboutWaiting_of_ofValue {source : Value} {failure : Failure}
    (h : FrontMatter.ofValue source = .error failure) : failure.isAboutWaiting = false := by
  cases source with
  | text s =>
    rw [FrontMatter.ofValue] at h
    cases hs : FrontMatter.split s.toList with
    | error fault =>
      rw [hs] at h
      cases h
      rfl
    | ok split =>
      rw [hs] at h
      cases h
  | _ =>
    cases h
    rfl

section Processing

variable {E : Engine σ} {mode : Mode} {document : Document} {processor : Processor σ}

/-- A document that cannot be rendered stays as it is, and the failure is not about
waiting. -/
theorem renderDocument_error {failure : Failure} {last : Document} {used : Processor σ}
    (h : processor.renderDocument E document = (.error failure, last, used)) :
    last = document ∧ failure.isAboutWaiting = false := by
  have hcase := renderCase E document processor
  rw [h] at hcase
  cases hcase with
  | undecodable => exact ⟨rfl, rfl⟩
  | unsplit _ hs => exact ⟨rfl, isAboutWaiting_of_ofValue hs⟩
  | unconverted => exact ⟨rfl, rfl⟩

/-- Whether some plugin is declared to be awaited. -/
theorem hasAsyncSteps_iff :
    processor.hasAsyncSteps = true ↔ ∃ plugin ∈ processor.plugins, plugin.isCoroutine = true :=
  List.any_eq_true

/-! ## Stages -/

/-- Processing from the rendered document on. -/
def processRendered (mode : Mode) (rendered : Rendered) (document : Document)
    (processor : Processor σ) : Processed (Processor σ) :=
  match runPlugins mode processor.plugins rendered.html document with
  | (.error failure, last) => ⟨.error failure, last, processor, []⟩
  | (.ok html, last) =>
    let finished := processor.finish html rendered.frontMatter last
    ⟨.ok (), finished, processor, [processor.compiledRecord finished]⟩

/-- It fails exactly if a plugin does. -/
theorem outcome_processRendered_error_iff {rendered : Rendered} {failure : Failure} :
    (processRendered mode rendered document processor).outcome = .error failure ↔
      (runPlugins mode processor.plugins rendered.html document).1 = .error failure := by
  rw [processRendered]
  rcases runPlugins mode processor.plugins rendered.html document with ⟨raised | html, last⟩
  · simp only [Except.error.injEq]
  · simp only [reduceCtorEq]

section Stages

variable {noted : Document} {used : Processor σ}

/-- Processing fails where rendering does, and calls no plugin. -/
theorem process_of_unrendered {failure : Failure}
    (hn : (mode = .synchronous && processor.hasAsyncSteps) = false)
    (hr : processor.renderDocument E document = (.error failure, noted, used)) :
    processor.process E mode document = ⟨.error failure, noted, used, []⟩ ∧
      processor.visits E mode document = [] := by
  simp only [process, visits, hn, hr, Bool.false_eq_true, if_false, and_self]

/-- Processing goes on from the rendered document, and calls plugins from there. -/
theorem process_of_rendered {rendered : Rendered}
    (hn : (mode = .synchronous && processor.hasAsyncSteps) = false)
    (hr : processor.renderDocument E document = (.ok rendered, noted, used)) :
    processor.process E mode document = processRendered mode rendered noted used ∧
      processor.visits E mode document =
        visitsFrom mode used.plugins rendered.html noted := by
  constructor
  · simp only [process, hn, hr, Bool.false_eq_true, if_false]
    rfl
  · simp only [visits, hn, hr, Bool.false_eq_true, if_false]

end Stages

/-! ## Refusals -/

/-- Processing without waiting is refused: it fails because of having to wait, and that
is not a failure that a plugin raises. -/
def Refuses (E : Engine σ) (document : Document) (processor : Processor σ) : Prop :=
  ∃ failure, (processor.process E .synchronous document).outcome = .error failure ∧
    failure.isAboutWaiting = true ∧
    ∀ visit ∈ processor.visits E .synchronous document, ¬ visit.Raises .synchronous failure

/-- The answer that processing without waiting has to close, if there is one, can be
closed. -/
def Closable (E : Engine σ) (document : Document) (processor : Processor σ) : Prop :=
  ∀ visit ∈ processor.visits E .synchronous document, visit.Defers → visit.Closes

/-- A processor without a plugin declared to be awaited is not refused up front. -/
theorem admitted (ha : processor.hasAsyncSteps = false) (mode : Mode) :
    (mode = .synchronous && processor.hasAsyncSteps) = false := by
  rw [ha, Bool.and_false]

/-- Processing without waiting is refused exactly if a plugin is declared to be awaited
or a plugin that is called gives an answer that has to be awaited and can be closed. -/
theorem refuses_iff :
    Refuses E document processor ↔
      (∃ plugin ∈ processor.plugins, plugin.isCoroutine = true) ∨
        ∃ visit ∈ processor.visits E .synchronous document, visit.Closes := by
  rw [← hasAsyncSteps_iff]
  by_cases ha : processor.hasAsyncSteps = true
  · have hrefuses : Refuses E document processor := by
      refine ⟨.asynchronousPlugins, ?_, rfl, ?_⟩
      · rw [process_of_coroutine E document ha]
      · simp [visits, ha]
    exact ⟨fun _ => .inl ha, fun _ => hrefuses⟩
  · have hn := admitted (Bool.eq_false_iff.2 ha) .synchronous
    rw [or_iff_right ha, Refuses]
    rcases hr : processor.renderDocument E document with ⟨failure | rendered, noted, used⟩
    · obtain ⟨hprocess, hvisits⟩ := process_of_unrendered hn hr
      have habout := (renderDocument_error hr).2
      rw [hprocess, hvisits]
      simp [habout]
    · obtain ⟨hprocess, hvisits⟩ := process_of_rendered hn hr
      rw [hprocess, hvisits]
      simp only [outcome_processRendered_error_iff, runPlugins_error_iff]
      constructor
      · rintro ⟨failure, ⟨visit, hv, hraises | ⟨-, hcloses, -⟩⟩, -, hno⟩
        · exact absurd hraises (hno visit hv)
        · exact ⟨visit, hv, hcloses⟩
      · rintro ⟨visit, hv, hcloses⟩
        refine ⟨.awaitable visit.plugin.label, ⟨visit, hv, .inr ⟨rfl, hcloses, rfl⟩⟩, rfl, ?_⟩
        exact fun other ho => not_raises_of_closes hv hcloses ho _

/-- Without plugins that are declared to be awaited, an answer that has to be awaited is met
in one mode exactly if it is met in the other. -/
theorem exists_defers_visits_iff (ha : processor.hasAsyncSteps = false) :
    (∃ visit ∈ processor.visits E mode document, visit.Defers) ↔
      ∃ visit ∈ processor.visits E .synchronous document, visit.Defers := by
  rcases hr : processor.renderDocument E document with ⟨failure | rendered, noted, used⟩
  · rw [(process_of_unrendered (admitted ha mode) hr).2,
      (process_of_unrendered (admitted ha .synchronous) hr).2]
  · rw [(process_of_rendered (admitted ha mode) hr).2,
      (process_of_rendered (admitted ha .synchronous) hr).2, exists_defers_iff]

/-- Processing without waiting fails if it meets an answer that has to be awaited. -/
theorem exists_error_of_defers {visit : Visit}
    (hv : visit ∈ processor.visits E .synchronous document) (hd : visit.Defers) :
    ∃ failure, (processor.process E .synchronous document).outcome = .error failure := by
  cases ha : processor.hasAsyncSteps with
  | true => exact ⟨_, congrArg Processed.outcome (process_of_coroutine E document ha)⟩
  | false =>
    rcases hr : processor.renderDocument E document with ⟨failure | rendered, noted, used⟩
    · exact ⟨failure, congrArg Processed.outcome (process_of_unrendered (admitted ha _) hr).1⟩
    · obtain ⟨hprocess, hvisits⟩ := process_of_rendered (admitted ha _) hr
      rw [hvisits] at hv
      obtain ⟨failure, hfails⟩ := hd.exists_fails
      refine ⟨failure, ?_⟩
      rw [hprocess, outcome_processRendered_error_iff, runPlugins_error_iff]
      exact ⟨visit, hv, hfails⟩

/-- Where there is nothing to await, processing with waiting does all the same. -/
theorem process_asynchronous_eq (ha : processor.hasAsyncSteps = false)
    (hdefers : ∀ visit ∈ processor.visits E .synchronous document, ¬ visit.Defers) :
    processor.process E .asynchronous document = processor.process E .synchronous document := by
  rcases hr : processor.renderDocument E document with ⟨failure | rendered, noted, used⟩
  · rw [(process_of_unrendered (admitted ha _) hr).1, (process_of_unrendered (admitted ha _) hr).1]
  · obtain ⟨hprocess, hvisits⟩ := process_of_rendered (admitted ha .synchronous) hr
    rw [hvisits] at hdefers
    have hplugins : runPlugins .asynchronous used.plugins rendered.html noted =
        runPlugins .synchronous used.plugins rendered.html noted :=
      runPlugins_asynchronous_eq hdefers
    rw [hprocess, (process_of_rendered (admitted ha _) hr).1, processRendered, hplugins,
      processRendered]

/-- What succeeds without waiting has met nothing to await. -/
theorem nothing_deferred_of_ok
    (h : (processor.process E .synchronous document).outcome = .ok ()) :
    processor.hasAsyncSteps = false ∧
      ∀ visit ∈ processor.visits E .synchronous document, ¬ visit.Defers := by
  constructor
  · rw [Bool.eq_false_iff]
    intro ha
    rw [process_of_coroutine E document ha] at h
    cases h
  · intro visit hv hd
    obtain ⟨failure, hfailure⟩ := exists_error_of_defers hv hd
    rw [h] at hfailure
    cases hfailure

end Processing

/-! ## Agreement -/

/-- What processing without waiting says about processing with waiting, for a processor
and a document.  The engine starts in the same state both times. -/
structure ModesAgree (E : Engine σ) (processor : Processor σ) (document : Document) : Prop where
  /-- A document that is compiled without waiting is compiled with waiting, to the same
  document. -/
  of_ok : (processor.process E .synchronous document).outcome = .ok () →
    (processor.process E .asynchronous document).outcome = .ok () ∧
    (processor.process E .asynchronous document).document =
      (processor.process E .synchronous document).document
  /-- What fails without waiting, but for being refused, fails alike with waiting, if nothing
  went wrong in closing an answer. -/
  of_error : ∀ failure, (processor.process E .synchronous document).outcome = .error failure →
    ¬ Refuses E document processor → Closable E document processor →
    (processor.process E .asynchronous document).outcome = .error failure ∧
    (processor.process E .asynchronous document).document =
      (processor.process E .synchronous document).document
  /-- Without plugins to await there is no refusal. -/
  not_refuses : (∀ plugin ∈ processor.plugins, plugin.isCoroutine = false) →
    ∀ mode, (∀ visit ∈ processor.visits E mode document, ¬ visit.Defers) →
    ¬ Refuses E document processor
  /-- With a plugin that is declared to be awaited there is nothing but refusal. -/
  refuses_of_coroutine : (∃ plugin ∈ processor.plugins, plugin.isCoroutine = true) →
    Refuses E document processor
  /-- With an answer that has to be awaited there is nothing but refusal, if the answer can be
  closed. -/
  refuses_of_defers : ∀ mode, (∃ visit ∈ processor.visits E mode document, visit.Defers) →
    Closable E document processor → Refuses E document processor
  /-- In no case is a document compiled then. -/
  not_ok : ∀ mode, (∃ visit ∈ processor.visits E mode document, visit.Defers) →
    (processor.process E .synchronous document).outcome ≠ .ok ()

/-- The modes agree but for refusals, and there is a refusal exactly if there is a plugin
to await. -/
theorem modes_agree (E : Engine σ) (processor : Processor σ) (document : Document) :
    ModesAgree E processor document where
  of_ok h := by
    obtain ⟨ha, hdefers⟩ := nothing_deferred_of_ok h
    rw [process_asynchronous_eq ha hdefers]
    exact ⟨h, rfl⟩
  of_error failure h hno hclosable := by
    obtain ⟨hcoroutine, hcloses⟩ := not_or.1 (mt refuses_iff.2 hno)
    rw [← hasAsyncSteps_iff, Bool.not_eq_true] at hcoroutine
    have hdefers : ∀ visit ∈ processor.visits E .synchronous document, ¬ visit.Defers :=
      fun visit hv hd => hcloses ⟨visit, hv, hclosable visit hv hd⟩
    rw [process_asynchronous_eq hcoroutine hdefers]
    exact ⟨h, rfl⟩
  not_refuses hcoroutine mode hdefers hrefuses := by
    have ha : processor.hasAsyncSteps = false := by
      rw [Bool.eq_false_iff, Ne, hasAsyncSteps_iff]
      rintro ⟨plugin, hp, hc⟩
      exact absurd hc (Bool.eq_false_iff.1 (hcoroutine plugin hp))
    rcases refuses_iff.1 hrefuses with ⟨plugin, hp, hc⟩ | ⟨visit, hv, hcloses⟩
    · exact absurd hc (Bool.eq_false_iff.1 (hcoroutine plugin hp))
    · obtain ⟨other, ho, hd⟩ := (exists_defers_visits_iff ha).2 ⟨visit, hv, hcloses.defers⟩
      exact hdefers other ho hd
  refuses_of_coroutine h := refuses_iff.2 (.inl h)
  refuses_of_defers mode h hclosable := by
    cases ha : processor.hasAsyncSteps with
    | true => exact refuses_iff.2 (.inl (hasAsyncSteps_iff.1 ha))
    | false =>
      obtain ⟨visit, hv, hd⟩ := (exists_defers_visits_iff ha).1 h
      exact refuses_iff.2 (.inr ⟨visit, hv, hclosable visit hv hd⟩)
  not_ok mode h hok := by
    obtain ⟨ha, hdefers⟩ := nothing_deferred_of_ok hok
    obtain ⟨visit, hv, hd⟩ := (exists_defers_visits_iff ha).1 h
    exact hdefers visit hv hd

/-! ## Differences -/

/-- A processor without plugins whose engine counts its documents. -/
def counting : Processor Echo where
  options := {}
  format := .md
  renderer := ⟨[], ⟨⟨[], []⟩, 0⟩⟩
  plugins := []

/-- A plugin whose answer can be awaited but not closed. -/
def unclosable : Plugin where
  callable := ⟨"stuck", "function"⟩
  isCoroutine := false
  call html document :=
    (.ok (.awaitable (fun document => (.ok (some html), document))
      fun document => (.error (.raised ⟨.value, "still running"⟩), document)), document)

/-- A processor that has already compiled a document compiles it to something else with
waiting than it did without.  And where an answer cannot be closed, processing without
waiting is not refused but fails by that, and with waiting it succeeds. -/
theorem modes_differ :
    (let memo : Document := { value := .text "Note" }
      let first := counting.process Echo.engine .synchronous memo
      let second := first.processor.process Echo.engine .asynchronous memo
      first.outcome = .ok () ∧ second.outcome = .ok () ∧
        first.document.value = .text "<stub n=1>Note</stub>" ∧
        second.document.value = .text "<stub n=2>Note</stub>") ∧
    (let memo : Document := { value := .text "Note" }
      let stuck : Processor Echo := { counting with plugins := [unclosable] }
      (∃ visit ∈ stuck.visits Echo.engine .synchronous memo, visit.Defers) ∧
        (stuck.process Echo.engine .synchronous memo).outcome =
          .error (.raised ⟨.value, "still running"⟩) ∧
        ¬ Refuses Echo.engine memo stuck ∧
        (stuck.process Echo.engine .asynchronous memo).outcome = .ok ()) := by
  constructor
  · exact ⟨rfl, rfl, rfl, rfl⟩
  · refine ⟨⟨_, List.mem_cons_self .., _, _, rfl⟩, rfl, ?_, rfl⟩
    rintro ⟨failure, hfailure, habout, -⟩
    cases hfailure
    cases habout

end Processor

end DocPress
