import DocPress.Proofs.Dispatcher.EngineCalls
import DocPress.Proofs.Processor.Finishing
import DocPress.Proofs.Text.Utf8

/-!
# Documents that are text and documents that are bytes

A document may be given as text or as the bytes of a text.  Nobody who looks at the text of
the document, and not at its content as it was given, sees which it is; so if the plugins do
not, a document is processed alike in both forms.  Bytes that are no text are refused before
anything is done with them.

Main results:

- `runPlugins_parallel`: plugins that see only the text do the same in both forms.
- `process_alike`: documents that look alike are processed alike.
- `encoding_law`: a text and its bytes are processed alike, and other bytes are refused.
-/

namespace DocPress

variable {σ : Type}

/-! ## Documents that look alike -/

/-- Two documents that look alike: they have the same text, in whichever form it was given,
and the same everything else. -/
structure Document.Alike (first second : Document) : Prop where
  text_eq : first.text = second.text
  path_eq : first.path = second.path
  data_eq : first.data = second.data
  messages_eq : first.messages = second.messages

/-- What two steps do with two documents that look alike: they give results that are the
same, in some sense, leave documents that look alike, and assign no content. -/
structure Document.Parallel {α : Type} (same : α → α → Prop) (first second : Document)
    (after other : α × Document) : Prop where
  same : same after.1 other.1
  alike : after.2.Alike other.2
  left : after.2.value = first.value
  right : other.2.value = second.value

namespace Document

variable {first second : Document}

/-- A text and its bytes look alike. -/
theorem alike_encode (s : String) (path : Option Path) (data : Mapping)
    (messages : List Value) :
    Alike ⟨.text s, path, data, messages⟩ ⟨.bytes (Text.encode s.toList), path, data, messages⟩ where
  text_eq := by
    have hread : Text.decode (Text.encode s.toList) = .ok s.toList := Text.decode_eq_ok_iff.2 rfl
    simp only [text, hread, Except.map, String.ofList_toList]
  path_eq := rfl
  data_eq := rfl
  messages_eq := rfl

/-- Documents that look alike do so with the same notes behind theirs. -/
theorem Alike.noted (h : first.Alike second) (notes : List String) :
    (first.noted notes).Alike (second.noted notes) where
  text_eq := h.text_eq
  path_eq := h.path_eq
  data_eq := h.data_eq
  messages_eq := by rw [Document.noted, Document.noted, h.messages_eq]

/-- A step that gives a result and leaves the document alone. -/
theorem Alike.parallel (h : first.Alike second) {α : Type} {same : α → α → Prop} {a b : α}
    (hab : same a b) : Parallel same first second (a, first) (b, second) :=
  ⟨hab, h, rfl, rfl⟩

/-- A step after another. -/
theorem Parallel.andThen {α β : Type} {same : α → α → Prop} {also : β → β → Prop}
    {after other : α × Document} {last final : β × Document}
    (h : Parallel same first second after other)
    (hnext : Parallel also after.2 other.2 last final) : Parallel also first second last final :=
  ⟨hnext.same, hnext.alike, hnext.left.trans h.left, hnext.right.trans h.right⟩

end Document

/-! ## Plugins that see the text -/

/-- Two answers of plugins are alike: what is to be awaited does the same with documents that
look alike, awaited or closed. -/
inductive AlikeAnswers : Except Failure Reply → Except Failure Reply → Prop where
  | failure (failure : Failure) : AlikeAnswers (.error failure) (.error failure)
  | nothing : AlikeAnswers (.ok .nothing) (.ok .nothing)
  | html (html : String) : AlikeAnswers (.ok (.html html)) (.ok (.html html))
  | awaitable {await await' : Document → Except Failure (Option String) × Document}
      {close close' : Document → Except Failure Unit × Document}
      (hawait : ∀ first second, first.Alike second →
        Document.Parallel Eq first second (await first) (await' second))
      (hclose : ∀ first second, first.Alike second →
        Document.Parallel Eq first second (close first) (close' second)) :
      AlikeAnswers (.ok (.awaitable await close)) (.ok (.awaitable await' close'))

/-- A plugin reads a document through its text, its path, its data and its messages alone, and
does not assign its content. -/
def Plugin.SeesText (plugin : Plugin) : Prop :=
  ∀ html first second, first.Alike second →
    Document.Parallel AlikeAnswers first second (plugin.call html first) (plugin.call html second)

namespace Plugin

/-- A plugin that answers at once sees only the text if its answer does. -/
theorem seesText_pure {callable : Callable} {reply : String → Document → Except Failure Reply}
    (h : ∀ html first second, first.Alike second →
      AlikeAnswers (reply html first) (reply html second)) :
    (pure callable reply).SeesText :=
  fun html first second halike => halike.parallel (h html first second halike)

/-- A plugin that changes the document sees only the text if the change does. -/
theorem seesText_changing {callable : Callable} {change : String → Document → Document}
    (hvalue : ∀ html document, (change html document).value = document.value)
    (halike : ∀ html first second, first.Alike second →
      (change html first).Alike (change html second)) :
    (changing callable change).SeesText :=
  fun html first second h =>
    ⟨.nothing, halike html first second h, hvalue html first, hvalue html second⟩

/-- A plugin with an answer to await that depends on the output alone sees nothing else. -/
theorem seesText_awaited (callable : Callable) (isCoroutine : Bool)
    (result : String → Option String) : (awaited callable isCoroutine result).SeesText :=
  fun _ _ _ h => h.parallel
    (.awaitable (fun _ _ hlater => hlater.parallel rfl) (fun _ _ hlater => hlater.parallel rfl))

/-- Putting the text behind the output reads nothing but the text. -/
theorem alikeAnswers_withText (html : String) {first second : Document}
    (h : first.Alike second) : AlikeAnswers (withText html first) (withText html second) := by
  rw [withText, withText, ← h.text_eq]
  cases first.text with
  | error fault => exact .failure _
  | ok value => exact .html _

/-- Every sample plugin sees only the text. -/
theorem seesText_sample (callable : Callable) : (sample callable).SeesText := by
  rw [sample]
  split
  · exact seesText_pure fun _ _ _ _ => .html _
  · exact seesText_pure fun _ _ _ _ => .html _
  · refine seesText_changing (fun _ _ => rfl) fun html first second h => ?_
    exact ⟨h.text_eq, h.path_eq, by simp only [h.data_eq], h.messages_eq⟩
  · refine seesText_changing (fun _ _ => rfl) fun html first second h => ?_
    exact h.noted ["plugin note: " ++ toString html.toList.length]
  · exact seesText_pure fun html _ _ h => alikeAnswers_withText html h
  · exact seesText_pure fun _ _ _ _ => .html _
  · refine seesText_changing (fun _ _ => rfl) fun html first second h => ?_
    exact ⟨h.text_eq, rfl, by simp only [retagged, h.data_eq], h.messages_eq⟩
  · exact seesText_pure fun _ _ _ _ => .failure _
  · exact seesText_awaited callable true _
  · exact seesText_awaited callable true _
  · exact seesText_awaited callable false _
  · exact seesText_awaited callable false _
  · exact seesText_pure fun _ _ _ _ => .html _
  · exact seesText_pure fun _ _ _ _ => .nothing

end Plugin

namespace Processor

section Running

variable {plugin : Plugin} {plugins : List Plugin} {first second : Document}

/-- What becomes of alike answers, in a mode. -/
theorem settle_parallel (mode : Mode) (plugin : Plugin) (html : String)
    {reply other : Reply} (hr : AlikeAnswers (.ok reply) (.ok other)) (h : first.Alike second) :
    Document.Parallel Eq first second (settle mode plugin html reply first)
      (settle mode plugin html other second) := by
  cases hr with
  | nothing => exact h.parallel rfl
  | html result => exact h.parallel rfl
  | awaitable hawait hclose =>
    cases mode with
    | synchronous =>
      rename_i close close'
      have hclosed := hclose first second h
      simp only [settle]
      generalize close first = closed at hclosed ⊢
      generalize close' second = closed' at hclosed ⊢
      obtain ⟨result, after⟩ := closed
      obtain ⟨result', after'⟩ := closed'
      obtain rfl : result = result' := hclosed.same
      cases result <;> exact ⟨rfl, hclosed.alike, hclosed.left, hclosed.right⟩
    | asynchronous =>
      have hawaited := hawait first second h
      refine ⟨?_, hawaited.alike, hawaited.left, hawaited.right⟩
      simp only [settle, hawaited.same]

/-- A plugin that sees only the text gives the same output for documents that look alike. -/
theorem runPlugin_parallel (hp : plugin.SeesText) (mode : Mode) (html : String)
    (h : first.Alike second) :
    Document.Parallel Eq first second (runPlugin mode plugin html first)
      (runPlugin mode plugin html second) := by
  have hcall := hp html first second h
  rw [runPlugin, runPlugin]
  generalize plugin.call html first = called at hcall ⊢
  generalize plugin.call html second = called' at hcall ⊢
  obtain ⟨answer, after⟩ := called
  obtain ⟨answer', after'⟩ := called'
  have hanswers : AlikeAnswers answer answer' := hcall.same
  cases hanswers with
  | failure failure => exact ⟨rfl, hcall.alike, hcall.left, hcall.right⟩
  | nothing => exact hcall.andThen (settle_parallel mode plugin html .nothing hcall.alike)
  | html result => exact hcall.andThen (settle_parallel mode plugin html (.html result) hcall.alike)
  | awaitable hawait hclose =>
    exact hcall.andThen (settle_parallel mode plugin html (.awaitable hawait hclose) hcall.alike)

/-- So do plugins in turn. -/
theorem runPlugins_parallel (hp : ∀ plugin ∈ plugins, plugin.SeesText) (mode : Mode)
    (html : String) (h : first.Alike second) :
    Document.Parallel Eq first second (runPlugins mode plugins html first)
      (runPlugins mode plugins html second) := by
  induction plugins generalizing html first second with
  | nil => exact h.parallel rfl
  | cons plugin plugins ih =>
    obtain ⟨hplugin, hplugins⟩ := List.forall_mem_cons.1 hp
    have hstep := runPlugin_parallel hplugin mode html h
    rw [runPlugins, runPlugins]
    generalize runPlugin mode plugin html first = called at hstep ⊢
    generalize runPlugin mode plugin html second = called' at hstep ⊢
    obtain ⟨result, after⟩ := called
    obtain ⟨result', after'⟩ := called'
    obtain rfl : result = result' := hstep.same
    cases result with
    | error failure => exact hstep
    | ok html => exact hstep.andThen (ih hplugins html hstep.alike)

end Running

section Processing

variable {E : Engine σ} {processor : Processor σ} {first second : Document}

/-- What rendering makes of a document depends on its text and its path, and is not seen in
anything of the document but its notes. -/
theorem renderDocument_alike (h : first.Alike second) {result : Except Failure Rendered}
    {noted : Document} {used : Processor σ}
    (hr : processor.renderDocument E first = (result, noted, used)) :
    ∃ other, processor.renderDocument E second = (result, other, used) ∧ noted.Alike other := by
  have htext := h.text_eq
  cases ht : first.text with
  | error fault =>
    simp only [renderDocument, ht, Prod.mk.injEq] at hr
    obtain ⟨rfl, rfl, rfl⟩ := hr
    refine ⟨second, ?_, h⟩
    simp only [renderDocument, ← htext, ht, h.path_eq]
  | ok source =>
    rcases hrender : processor.renderer.render E source with ⟨failure | rendered, renderer⟩
    · simp only [renderDocument, ht, hrender, Prod.mk.injEq] at hr
      obtain ⟨rfl, rfl, rfl⟩ := hr
      refine ⟨second, ?_, h⟩
      simp only [renderDocument, ← htext, ht, hrender]
    · simp only [renderDocument, ht, hrender, Document.foldl_note, Prod.mk.injEq] at hr
      obtain ⟨rfl, rfl, rfl⟩ := hr
      refine ⟨second.noted rendered.notes, ?_, h.noted rendered.notes⟩
      simp only [renderDocument, ← htext, ht, hrender, Document.foldl_note]

/-- The output takes the place of the only thing in which documents that look alike differ. -/
theorem finish_alike (processor : Processor σ) (h : first.Alike second) (html : String)
    (frontMatter : Mapping) :
    processor.finish html frontMatter first = processor.finish html frontMatter second := by
  simp only [finish, h.path_eq, h.data_eq, h.messages_eq]

/-- Two documents are processed alike: with the same outcome, to the same document once it is
compiled, and leaving the same processor and the same log. -/
structure ProcessedAlike {P : Type} (first second : Processed P) : Prop where
  outcome_eq : first.outcome = second.outcome
  document_eq : first.outcome = .ok () → first.document = second.document
  alike : first.document.Alike second.document
  processor_eq : first.processor = second.processor
  log_eq : first.log = second.log

/-- Processing that fails for the same reason, with documents that look alike. -/
theorem ProcessedAlike.of_error (h : first.Alike second) (failure : Failure)
    (used : Processor σ) :
    ProcessedAlike ⟨.error failure, first, used, []⟩ ⟨.error failure, second, used, []⟩ where
  outcome_eq := rfl
  document_eq hok := nomatch hok
  alike := h
  processor_eq := rfl
  log_eq := rfl

/-- From the rendered document on, documents that look alike are processed alike by plugins
that see only the text. -/
theorem processRendered_alike (hp : ∀ plugin ∈ processor.plugins, plugin.SeesText) (mode : Mode)
    (rendered : Rendered) (h : first.Alike second) :
    ProcessedAlike (processRendered mode rendered first processor)
      (processRendered mode rendered second processor) := by
  have hrun := runPlugins_parallel hp mode rendered.html h
  rw [processRendered, processRendered]
  generalize runPlugins mode processor.plugins rendered.html first = ran at hrun ⊢
  generalize runPlugins mode processor.plugins rendered.html second = ran' at hrun ⊢
  obtain ⟨result, last⟩ := ran
  obtain ⟨result', last'⟩ := ran'
  obtain rfl : result = result' := hrun.same
  cases result with
  | error failure => exact .of_error hrun.alike failure processor
  | ok html =>
    simp only [finish_alike processor hrun.alike html rendered.frontMatter]
    exact ⟨rfl, fun _ => rfl, ⟨rfl, rfl, rfl, rfl⟩, rfl, rfl⟩

/-- Documents that look alike are processed alike by plugins that see only the text. -/
theorem process_alike (hp : ∀ plugin ∈ processor.plugins, plugin.SeesText) (mode : Mode)
    (h : first.Alike second) :
    ProcessedAlike (processor.process E mode first) (processor.process E mode second) := by
  by_cases hrefused : (mode = .synchronous && processor.hasAsyncSteps) = true
  · rw [process, process, if_pos hrefused, if_pos hrefused]
    exact .of_error h .asynchronousPlugins processor
  rw [Bool.not_eq_true] at hrefused
  rcases hr : processor.renderDocument E first with ⟨failure | rendered, noted, used⟩
  · obtain ⟨other, hother, halike⟩ := renderDocument_alike h hr
    rw [(process_of_unrendered hrefused hr).1, (process_of_unrendered hrefused hother).1]
    exact .of_error halike failure used
  · obtain ⟨other, hother, halike⟩ := renderDocument_alike h hr
    obtain ⟨engine, hused⟩ := exists_withEngine_renderDocument E first processor
    rw [hr] at hused
    obtain rfl : used = processor.withEngine engine := hused
    have hplugins : ∀ plugin ∈ (processor.withEngine engine).plugins, plugin.SeesText := hp
    rw [(process_of_rendered hrefused hr).1, (process_of_rendered hrefused hother).1]
    exact processRendered_alike hplugins mode rendered halike

end Processing

/-! ## Bytes that are no text -/

section Refusing

variable {E : Engine σ} {mode : Mode} {document : Document} {processor : Processor σ}

/-- A document that cannot be read is turned away: processing fails, up front or because of
the document, before anything is done with the document or the engine. -/
structure TurnsAway (E : Engine σ) (mode : Mode) (document : Document)
    (processor : Processor σ) : Prop where
  unread : ∃ fault, document.text = .error fault
  outcome_eq : ∃ failure, (processor.process E mode document).outcome = .error failure ∧
    failure.kind = .processing ∧
      ((mode = .synchronous ∧ processor.hasAsyncSteps = true ∧ failure = .asynchronousPlugins) ∨
        ∃ fault, failure = .undecodable document.path fault)
  document_eq : (processor.process E mode document).document = document
  processor_eq : (processor.process E mode document).processor = processor
  uncalled : (processor.traced.process E.traced mode document).processor.renderer.engine.calls = []

/-- Every document that cannot be read is turned away. -/
theorem turnsAway_of_unread {fault : Text.DecodeFault} (h : document.text = .error fault) :
    TurnsAway E mode document processor := by
  have hbody : document.body? = none := Document.body?_of_undecodable h
  have huncalled :
      (processor.traced.process E.traced mode document).processor.renderer.engine.calls = [] :=
    calls_process_of_no_body E (by rw [body?, hbody, ite_self])
  by_cases hrefused : (mode = .synchronous && processor.hasAsyncSteps) = true
  · have hprocess : processor.process E mode document =
        ⟨.error .asynchronousPlugins, document, processor, []⟩ := if_pos hrefused
    have hmode : mode = .synchronous ∧ processor.hasAsyncSteps = true := by simpa using hrefused
    constructor
    case unread => exact ⟨fault, h⟩
    case outcome_eq =>
      rw [hprocess]
      exact ⟨.asynchronousPlugins, rfl, rfl, .inl ⟨hmode.1, hmode.2, rfl⟩⟩
    case document_eq => rw [hprocess]
    case processor_eq => rw [hprocess]
    case uncalled => exact huncalled
  · rw [Bool.not_eq_true] at hrefused
    have hrender : processor.renderDocument E document =
        (.error (.undecodable document.path fault), document, processor) := by
      simp only [renderDocument, h]
    have hprocess := (process_of_unrendered hrefused hrender).1
    constructor
    case unread => exact ⟨fault, h⟩
    case outcome_eq =>
      rw [hprocess]
      exact ⟨.undecodable document.path fault, rfl, rfl, .inr ⟨fault, rfl⟩⟩
    case document_eq => rw [hprocess]
    case processor_eq => rw [hprocess]
    case uncalled => exact huncalled

/-- Bytes in which no text is written cannot be read. -/
theorem exists_fault_of_unwritten {bytes : List UInt8} (path : Option Path) (data : Mapping)
    (messages : List Value) (h : ∀ s : String, bytes ≠ Text.encode s.toList) :
    ∃ fault, Document.text ⟨.bytes bytes, path, data, messages⟩ = .error fault := by
  have hnone (text : List Char) : bytes ≠ Text.encode text := by
    rw [← String.toList_ofList (l := text)]
    exact h (String.ofList text)
  obtain ⟨fault, hfault⟩ := Text.decode_eq_error_iff.2 hnone
  refine ⟨fault, ?_⟩
  simp only [Document.text, hfault, Except.map]

end Refusing

/-! ## The law -/

/-- What a processor does with documents that are bytes. -/
structure EncodingLaw (E : Engine σ) (processor : Processor σ) : Prop where
  /-- Plugins that see only the text process a text and its bytes alike, in either mode. -/
  alike : (∀ plugin ∈ processor.plugins, plugin.SeesText) →
    ∀ (mode : Mode) (s : String) (path : Option Path) (data : Mapping) (messages : List Value),
      ProcessedAlike
        (processor.process E mode ⟨.text s, path, data, messages⟩)
        (processor.process E mode ⟨.bytes (Text.encode s.toList), path, data, messages⟩)
  /-- Bytes in which no text is written are turned away, whatever the plugins. -/
  turnsAway : ∀ (mode : Mode) (bytes : List UInt8) (path : Option Path) (data : Mapping)
    (messages : List Value), (∀ s : String, bytes ≠ Text.encode s.toList) →
      TurnsAway E mode ⟨.bytes bytes, path, data, messages⟩ processor

/-- A text and its bytes are processed alike, and other bytes are turned away. -/
theorem encoding_law (E : Engine σ) (processor : Processor σ) : EncodingLaw E processor where
  alike hp mode s path data messages :=
    process_alike hp mode (Document.alike_encode s path data messages)
  turnsAway mode bytes path data messages h := by
    obtain ⟨fault, hfault⟩ := exists_fault_of_unwritten path data messages h
    exact turnsAway_of_unread hfault

/-- A processor of samples that read the text, change everything but the content, and have
themselves awaited. -/
def readers : Processor Echo where
  options := {}
  format := .md
  renderer := ⟨[], ⟨⟨[], []⟩, 0⟩⟩
  plugins := ["peek", "note", "async_wrap", "retag"].map fun name =>
    Plugin.sample ⟨name, "function"⟩

/-- A text and its bytes under a byte order mark, and a byte that starts no character. -/
theorem encoding_law_readers :
    (∀ plugin ∈ readers.plugins, plugin.SeesText) ∧
      (readers.process Echo.engine .asynchronous { value := .text "\ufeffé" }).outcome = .ok () ∧
      ProcessedAlike
        (readers.process Echo.engine .asynchronous { value := .text "\ufeffé" })
        (readers.process Echo.engine .asynchronous
          { value := .bytes (Text.encode "\ufeffé".toList) }) ∧
      TurnsAway Echo.engine .asynchronous { value := .bytes [0xFF] } readers := by
  have hplugins : ∀ plugin ∈ readers.plugins, plugin.SeesText := by
    intro plugin hp
    obtain ⟨name, -, rfl⟩ := List.mem_map.1 hp
    exact Plugin.seesText_sample _
  have hlaw := encoding_law Echo.engine readers
  have hfault : ∃ fault, Text.decode [0xFF] = .error fault := ⟨_, rfl⟩
  have hunwritten (s : String) : [0xFF] ≠ Text.encode s.toList :=
    Text.decode_eq_error_iff.1 hfault s.toList
  refine ⟨hplugins, ?_, ?_, ?_⟩
  · exact eq_ok_of_toOption (by decide +kernel)
  · exact hlaw.alike hplugins .asynchronous "\ufeffé" none [] []
  · exact hlaw.turnsAway .asynchronous [0xFF] none [] [] hunwritten

end Processor

end DocPress
