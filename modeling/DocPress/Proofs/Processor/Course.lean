import DocPress.Proofs.Processor.Conversion
import DocPress.Proofs.Processor.Failing
import Mathlib.Data.List.Basic
import Mathlib.Data.List.Induction

/-!
# The course of processing

A document is rendered, which changes nothing of it but its notes, and then plugins are
called in turn.  Each call is given the last output before it and the document as the call
before it left it.  This module says so of every run of plugins, also of one that fails,
and says what a run leaves behind by what its calls do.

Main results:

- `isCourse_visitsFrom`: the calls of a run are a course from the rendered document on.
- `document_runPlugins`: what a run leaves behind is what its calls leave behind, whether
  it fails or not.
- `exists_last_of_error`: a run that fails ends with the only call that fails.
- `IsCourse.view_documentAfter`: a view that every call changes in its own way is changed
  by all of them in turn.
- `rendersTo_of_ok`: rendering changes nothing of a document but its notes.
-/

namespace DocPress

/-! ## Notes -/

/-- The document with some notes behind those that it has. -/
def Document.noted (document : Document) (notes : List String) : Document :=
  { document with messages := document.messages ++ notes.map .text }

/-- Notes that are attached one by one stand in order. -/
theorem Document.foldl_note (notes : List String) (document : Document) :
    notes.foldl note document = document.noted notes := by
  induction notes generalizing document with
  | nil => simp [noted]
  | cons text notes ih => simp [ih, noted, note]

/-! ## What calls do -/

namespace Visit

/-- The output that a call gives, if it gives one: its answer, or what waiting for its
answer gives.  The empty text is an output. -/
def result? (mode : Mode) (visit : Visit) : Option String :=
  match visit.answer, mode with
  | .ok (.html result), _ => some result
  | .ok (.awaitable await _), .asynchronous =>
    match (await visit.returned).1 with
    | .ok result => result
    | .error _ => none
  | _, _ => none

/-- The document after a call: an answer that has to be awaited is awaited, or closed by
who cannot wait. -/
def effect (mode : Mode) (visit : Visit) : Document :=
  match visit.answer, mode with
  | .ok (.awaitable await _), .asynchronous => (await visit.returned).2
  | .ok (.awaitable _ close), .synchronous => (close visit.returned).2
  | _, _ => visit.returned

/-- The output after some calls: the last that one of them gave, or the one before them. -/
def outputAfter (mode : Mode) (html : String) (visits : List Visit) : String :=
  (visits.filterMap (result? mode)).getLastD html

/-- The document after some calls: as the last of them left it, or as it was before them. -/
def documentAfter (mode : Mode) (document : Document) (visits : List Visit) : Document :=
  (visits.map (effect mode)).getLastD document

section After

variable (mode : Mode) (html : String) (document : Document) (visit : Visit) (visits : List Visit)

@[simp] theorem outputAfter_nil : outputAfter mode html [] = html := rfl

@[simp] theorem outputAfter_cons :
    outputAfter mode html (visit :: visits) =
      outputAfter mode ((visit.result? mode).getD html) visits := by
  unfold outputAfter
  cases hr : visit.result? mode with
  | none => rw [List.filterMap_cons_none hr, Option.getD_none]
  | some result => rw [List.filterMap_cons_some hr, List.getLastD_cons, Option.getD_some]

@[simp] theorem documentAfter_nil : documentAfter mode document [] = document := rfl

@[simp] theorem documentAfter_cons :
    documentAfter mode document (visit :: visits) = documentAfter mode (visit.effect mode) visits := by
  unfold documentAfter
  rw [List.map_cons, List.getLastD_cons]

@[simp] theorem documentAfter_concat :
    documentAfter mode document (visits ++ [visit]) = visit.effect mode := by
  unfold documentAfter
  rw [List.map_append, List.map_singleton, List.getLastD_concat]

end After

end Visit

namespace Processor

variable {σ : Type}

section Running

variable {mode : Mode} {plugin : Plugin} {plugins : List Plugin} {html : String}
  {document : Document}

/-- Calling a plugin leaves the document as the call does. -/
theorem document_runPlugin :
    (runPlugin mode plugin html document).2 = Visit.effect mode ⟨plugin, html, document⟩ := by
  rcases hc : plugin.call html document with ⟨failure | reply, next⟩
  · simp only [runPlugin, hc, Visit.effect, Visit.answer, Visit.returned]
  · cases reply with
    | nothing => simp only [runPlugin, hc, settle, Visit.effect, Visit.answer, Visit.returned]
    | html result => simp only [runPlugin, hc, settle, Visit.effect, Visit.answer, Visit.returned]
    | awaitable await close =>
      cases mode with
      | synchronous =>
        simp only [runPlugin, hc, document_settle_synchronous, Visit.effect, Visit.answer,
          Visit.returned]
      | asynchronous =>
        simp only [runPlugin, hc, settle, Visit.effect, Visit.answer, Visit.returned]

/-- A plugin that does not fail gives an output, or leaves the one that it was given. -/
theorem output_runPlugin {result : String}
    (h : (runPlugin mode plugin html document).1 = .ok result) :
    result = (Visit.result? mode ⟨plugin, html, document⟩).getD html := by
  rcases hc : plugin.call html document with ⟨failure | reply, next⟩
  · simp only [runPlugin, hc, reduceCtorEq] at h
  · cases reply with
    | nothing =>
      simp only [runPlugin, hc, settle, Except.ok.injEq] at h
      rw [← h]
      simp only [Visit.result?, Visit.answer, hc, Option.getD_none]
    | html output =>
      simp only [runPlugin, hc, settle, Except.ok.injEq] at h
      simp only [Visit.result?, Visit.answer, hc, Option.getD_some, h]
    | awaitable await close =>
      cases mode with
      | synchronous =>
        have hdefers : Visit.Defers ⟨plugin, html, document⟩ :=
          ⟨await, close, by rw [Visit.answer, hc]⟩
        obtain ⟨failure, hfails⟩ := hdefers.exists_fails
        rw [← runPlugin_error_iff, h] at hfails
        cases hfails
      | asynchronous =>
        simp only [runPlugin, hc, settle] at h
        simp only [Visit.result?, Visit.answer, Visit.returned, hc]
        cases hawait : (await next).1 with
        | error failure =>
          rw [hawait] at h
          cases h
        | ok output =>
          rw [hawait] at h
          cases h
          rfl

/-! ## Courses -/

/-- Calls of the first of some plugins, in order and once each.  Every call is given the
last output before it and the document as it is then. -/
structure IsCourse (mode : Mode) (plugins : List Plugin) (html : String) (document : Document)
    (visits : List Visit) : Prop where
  plugins_eq : visits.map Visit.plugin = plugins.take visits.length
  html_eq : ∀ earlier visit later, visits = earlier ++ visit :: later →
    visit.html = Visit.outputAfter mode html earlier
  document_eq : ∀ earlier visit later, visits = earlier ++ visit :: later →
    visit.document = Visit.documentAfter mode document earlier

/-- Without calls there is nothing to say. -/
theorem IsCourse.nil : IsCourse mode plugins html document [] where
  plugins_eq := rfl
  html_eq earlier visit later h := by simp at h
  document_eq earlier visit later h := by simp at h

/-- A call in front of a course that goes on from what the call gives and leaves. -/
theorem IsCourse.cons {visits : List Visit}
    (h : IsCourse mode plugins ((Visit.result? mode ⟨plugin, html, document⟩).getD html)
      (Visit.effect mode ⟨plugin, html, document⟩) visits) :
    IsCourse mode (plugin :: plugins) html document (⟨plugin, html, document⟩ :: visits) where
  plugins_eq := by
    rw [List.map_cons, List.length_cons, List.take_succ_cons, h.plugins_eq]
  html_eq earlier visit later hsplit := by
    cases earlier with
    | nil =>
      obtain ⟨rfl, -⟩ := List.cons_eq_cons.1 hsplit
      rfl
    | cons first earlier =>
      obtain ⟨rfl, htail⟩ := List.cons_eq_cons.1 hsplit
      rw [Visit.outputAfter_cons]
      exact h.html_eq earlier visit later htail
  document_eq earlier visit later hsplit := by
    cases earlier with
    | nil =>
      obtain ⟨rfl, -⟩ := List.cons_eq_cons.1 hsplit
      rfl
    | cons first earlier =>
      obtain ⟨rfl, htail⟩ := List.cons_eq_cons.1 hsplit
      rw [Visit.documentAfter_cons]
      exact h.document_eq earlier visit later htail

/-- The calls up to one of a course are a course. -/
theorem IsCourse.of_append {earlier later : List Visit}
    (h : IsCourse mode plugins html document (earlier ++ later)) :
    IsCourse mode plugins html document earlier where
  plugins_eq := by
    have hall := congrArg (List.take earlier.length) h.plugins_eq
    rw [List.map_append, List.take_take, List.length_append] at hall
    rw [← List.length_map (f := Visit.plugin), List.take_left, List.length_map] at hall
    rw [hall, Nat.min_eq_left (Nat.le_add_right ..)]
  html_eq front visit back hsplit := by
    apply h.html_eq front visit (back ++ later)
    rw [hsplit, List.append_assoc, List.cons_append]
  document_eq front visit back hsplit := by
    apply h.document_eq front visit (back ++ later)
    rw [hsplit, List.append_assoc, List.cons_append]

/-- The calls of a run are a course. -/
theorem isCourse_visitsFrom :
    IsCourse mode plugins html document (visitsFrom mode plugins html document) := by
  induction plugins generalizing html document with
  | nil => exact IsCourse.nil
  | cons plugin plugins ih =>
    rcases hr : runPlugin mode plugin html document with ⟨failure | result, next⟩
    · rw [visitsFrom_cons_of_error hr]
      exact IsCourse.cons IsCourse.nil
    · rw [visitsFrom_cons_of_ok hr]
      have hresult := output_runPlugin (congrArg Prod.fst hr)
      have hnext : next = Visit.effect mode ⟨plugin, html, document⟩ := by
        rw [← document_runPlugin, hr]
      rw [hresult, hnext]
      exact IsCourse.cons ih

/-! ## What a run leaves behind -/

/-- What a run leaves behind is what its calls leave behind, whether it fails or not. -/
theorem document_runPlugins :
    (runPlugins mode plugins html document).2 =
      Visit.documentAfter mode document (visitsFrom mode plugins html document) := by
  induction plugins generalizing html document with
  | nil => rfl
  | cons plugin plugins ih =>
    have hfirst : (runPlugin mode plugin html document).2 =
        Visit.effect mode ⟨plugin, html, document⟩ := document_runPlugin
    rcases hr : runPlugin mode plugin html document with ⟨failure | result, next⟩
    · rw [hr] at hfirst
      rw [visitsFrom_cons_of_error hr, Visit.documentAfter_cons, ← hfirst]
      simp only [runPlugins, hr, Visit.documentAfter_nil]
    · rw [hr] at hfirst
      rw [visitsFrom_cons_of_ok hr, Visit.documentAfter_cons, ← hfirst, ← ih]
      simp only [runPlugins, hr]

/-- A run that does not fail gives the last output of its calls, of which there is one to
a plugin. -/
theorem output_runPlugins {result : String}
    (h : (runPlugins mode plugins html document).1 = .ok result) :
    result = Visit.outputAfter mode html (visitsFrom mode plugins html document) ∧
      (visitsFrom mode plugins html document).length = plugins.length := by
  induction plugins generalizing html document with
  | nil =>
    cases h
    exact ⟨rfl, rfl⟩
  | cons plugin plugins ih =>
    rcases hr : runPlugin mode plugin html document with ⟨failure | first, next⟩
    · simp only [runPlugins, hr, reduceCtorEq] at h
    · simp only [runPlugins, hr] at h
      obtain ⟨hresult, hlength⟩ := ih h
      have hfirst := output_runPlugin (congrArg Prod.fst hr)
      rw [visitsFrom_cons_of_ok hr, Visit.outputAfter_cons, ← hfirst, List.length_cons,
        List.length_cons, hlength]
      exact ⟨hresult, rfl⟩

/-- A run that fails ends with the only call that fails. -/
theorem exists_last_of_error {failure : Failure}
    (h : (runPlugins mode plugins html document).1 = .error failure) :
    ∃ earlier visit, visitsFrom mode plugins html document = earlier ++ [visit] ∧
      visit.Fails mode failure ∧ ∀ other ∈ earlier, ∀ raised, ¬ other.Fails mode raised := by
  induction plugins generalizing html document with
  | nil => cases h
  | cons plugin plugins ih =>
    have hfirst (raised : Failure) : (runPlugin mode plugin html document).1 = .error raised ↔
        Visit.Fails mode ⟨plugin, html, document⟩ raised := runPlugin_error_iff
    rcases hr : runPlugin mode plugin html document with ⟨raised | result, next⟩
    · simp only [runPlugins, hr, Except.error.injEq] at h
      subst h
      rw [hr] at hfirst
      refine ⟨[], ⟨plugin, html, document⟩, visitsFrom_cons_of_error hr, ?_, ?_⟩
      · exact (hfirst raised).1 rfl
      · simp
    · simp only [runPlugins, hr] at h
      obtain ⟨earlier, visit, hvisits, hfails, hearlier⟩ := ih h
      rw [hr] at hfirst
      refine ⟨⟨plugin, html, document⟩ :: earlier, visit, ?_, hfails, ?_⟩
      · rw [visitsFrom_cons_of_ok hr, hvisits, List.cons_append]
      · intro other hother raised
        rcases List.mem_cons.1 hother with rfl | hmem
        · intro hraised
          cases (hfirst raised).2 hraised
        · exact hearlier other hmem raised

/-! ## Views of the document -/

/-- A view of the document that every call of a course changes in its own way is changed
by all of them in turn. -/
theorem IsCourse.view_documentAfter {visits : List Visit}
    (h : IsCourse mode plugins html document visits) {α : Type} (view : Document → α)
    (change : α → Visit → α)
    (hview : ∀ visit ∈ visits, view (visit.effect mode) = change (view visit.document) visit) :
    view (Visit.documentAfter mode document visits) = visits.foldl change (view document) := by
  induction visits using List.reverseRecOn with
  | nil => rfl
  | append_singleton visits visit ih =>
    have hearlier : view (Visit.documentAfter mode document visits) =
        visits.foldl change (view document) :=
      ih h.of_append fun other hother => hview other (List.mem_append_left _ hother)
    have hdocument : visit.document = Visit.documentAfter mode document visits :=
      h.document_eq visits visit [] rfl
    rw [Visit.documentAfter_concat, List.foldl_concat, ← hearlier, ← hdocument]
    exact hview visit (by simp)

/-- A view of the document that every call of a course keeps is kept by all of them. -/
theorem IsCourse.keeps_documentAfter {visits : List Visit}
    (h : IsCourse mode plugins html document visits) {α : Type} (view : Document → α)
    (hview : ∀ visit ∈ visits, view (visit.effect mode) = view visit.document) :
    view (Visit.documentAfter mode document visits) = view document := by
  rw [h.view_documentAfter view (fun seen _ => seen) hview, List.foldl_fixed]

/-- The notes that every call of a course attaches stand behind those before, in order. -/
theorem IsCourse.messages_documentAfter {visits : List Visit}
    (h : IsCourse mode plugins html document visits) (attached : Visit → List Value)
    (hattached : ∀ visit ∈ visits,
      (visit.effect mode).messages = visit.document.messages ++ attached visit) :
    (Visit.documentAfter mode document visits).messages =
      document.messages ++ visits.flatMap attached := by
  rw [h.view_documentAfter Document.messages (fun messages visit => messages ++ attached visit)
    hattached, List.foldl_append_eq_append, List.flatMap_def]

end Running

/-! ## Rendering -/

/-- What a document is rendered to: its text without the front matter, converted by the
engine that was put back to its start, and the notes on that text. -/
structure RendersTo (E : Engine σ) (document : Document) (processor : Processor σ)
    (source : Value) (split : FrontMatter.Split) (rendered : Rendered) : Prop where
  text_eq : document.text = .ok source
  split_eq : FrontMatter.ofValue source = .ok split
  convert_eq : (E.convertAnew (String.ofList split.body) processor.renderer.engine).1 =
    .ok rendered.html
  frontMatter_eq : rendered.frontMatter = split.metadata
  notes_eq : rendered.notes = Renderer.notesOn (Renderer.charsOf source) split.body

section Rendering

variable {E : Engine σ} {document noted : Document} {processor used : Processor σ}
  {rendered : Rendered}

/-- Rendering changes nothing of a document but its notes. -/
theorem rendersTo_of_ok (h : processor.renderDocument E document = (.ok rendered, noted, used)) :
    (∃ source split, RendersTo E document processor source split rendered) ∧
      noted = document.noted rendered.notes := by
  have hcase := renderCase E document processor
  rw [h] at hcase
  cases hcase with
  | rendered ht hs hc =>
    exact ⟨⟨_, _, ht, hs, congrArg Prod.fst hc, rfl, rfl⟩, Document.foldl_note _ document⟩

/-- Once a document is rendered, the processor that calls the plugins differs in the state
of its engine alone. -/
theorem process_of_rendersTo {mode : Mode}
    (hn : (mode = .synchronous && processor.hasAsyncSteps) = false)
    (hr : processor.renderDocument E document = (.ok rendered, noted, used)) :
    (∃ engine, processor.process E mode document =
      processRendered mode rendered (document.noted rendered.notes)
        (processor.withEngine (τ := σ) engine)) ∧
    processor.visits E mode document =
      visitsFrom mode processor.plugins rendered.html (document.noted rendered.notes) := by
  obtain ⟨engine, hengine⟩ := exists_withEngine_renderDocument E document processor
  obtain ⟨hprocess, hvisits⟩ := process_of_rendered hn hr
  rw [hr] at hengine
  obtain rfl : used = processor.withEngine engine := hengine
  obtain rfl : noted = document.noted rendered.notes := (rendersTo_of_ok hr).2
  exact ⟨⟨engine, hprocess⟩, hvisits⟩

end Rendering

end Processor

end DocPress
