import DocPress.Cli.Command
import DocPress.Proofs.Dispatcher.OneShot

/-!
# Compiling a file

The command that compiles a file has a dispatcher of its own for the one document, and
comes to what compiling the document alone comes to.  Its options are always valid and
bring no plugins, so that few failures are left.

Main results:

- `ofInput_options`: the options of a request are valid.
- `compileAt_eq`: the command reads the file, compiles the document alone, and delivers it.
- `compileAlone_eq`: the stages of compiling a text, with the failures of each.
-/

namespace DocPress

variable {σ : Type}

/-! ## A text without plugins -/

namespace Processor

variable {E : Engine σ} {processor : Processor σ}

/-- Without plugins, processing a text is splitting it and converting the body. -/
theorem result_process_of_no_plugins (hp : processor.plugins = []) (mode : Mode)
    {document : Document} {text : String} (ht : document.value = .text text) :
    (processor.process E mode document).outcome.map
        (fun _ => (processor.process E mode document).document) =
      match FrontMatter.split text.toList with
      | .error fault => .error (.scalar fault)
      | .ok split =>
        match (E.convertAnew (String.ofList split.body) processor.renderer.engine).1 with
        | .error reason => .error (.conversion reason)
        | .ok html => .ok (processor.finish html split.metadata
            ((Renderer.notesOn text.toList split.body).foldl Document.note document)) := by
  have hasync : (mode = .synchronous && processor.hasAsyncSteps) = false := by
    simp [hasAsyncSteps, hp]
  obtain ⟨value, path, data, messages⟩ := document
  obtain rfl : value = .text text := ht
  rw [process, hasync]
  cases hs : FrontMatter.split text.toList with
  | error fault =>
    have hv : FrontMatter.ofValue (.text text) = .error (.scalar fault) := by
      rw [FrontMatter.ofValue, hs]
      rfl
    simp [renderDocument, Renderer.render_of_split_error E _ hv, Except.map]
  | ok split =>
    have hv : FrontMatter.ofValue (.text text) = .ok split := by
      rw [FrontMatter.ofValue, hs]
      rfl
    rcases hc : E.convertAnew (String.ofList split.body) processor.renderer.engine
      with ⟨reason | html, engine⟩
    · simp [renderDocument, Renderer.render, hv, hc, Except.map]
    · simp [renderDocument, Renderer.render, hv, hc, Except.map, hp, runPlugins,
        Renderer.charsOf, Value.text?, finish, dataOf]

end Processor

/-! ## A dispatcher of its own -/

/-- The first call of a dispatcher comes to what compiling its document alone comes to,
whatever the engine. -/
theorem Dispatcher.result_call_new (E : Engine σ) (plugins : Callable → Plugin)
    (options : Options) (request : Request) :
    (call (Workshop.standard E plugins) request.mode request.input { options } ()).result =
      (compile E plugins request.mode request.input (.existing options)).map some := by
  have hcase := callCase_call (Workshop.standard E plugins) request { options } ()
  generalize call (Workshop.standard E plugins) request.mode request.input { options } () = result
    at hcase ⊢
  cases hcase with
  | unresolved hr =>
    rw [compile_of_unresolved hr]
    rfl
  | unbuilt hr hs hb =>
    rw [compile_of_unbuilt hr (congrArg Prod.fst hb)]
    rfl
  | @built document _ processor _ hr hs hb =>
    rw [compile_of_built hr (congrArg Prod.fst hb)]
    simp only [Call.result, Call.ofProcessed, Workshop.standard]
    cases (processor.process E request.mode document).outcome <;> rfl
  | @reused document format processor hr hs => cases format <;> cases hs

namespace Cli

/-! ## Reading -/

/-- The document of a file: its text with line feeds, and its path. -/
def fileDocument (path : Path) (text : List Char) : Document where
  value := .text (String.ofList (Text.unifyEndings text))
  path := some path

/-- The document of a file is read from bytes that are the written form of a text. -/
theorem ofAnswer_ok (path : Path) (bytes : List UInt8) :
    Document.ofAnswer path "utf-8" (.ok bytes) =
      match Text.decode bytes with
      | .error fault => .error (.decoding fault)
      | .ok text => .ok (fileDocument path text) := by
  have hname : Text.Encoding.ofName? "utf-8" = some .utf8 := by decide +kernel
  simp only [Document.ofAnswer, Document.ofBytes, hname, Text.Encoding.decode_utf8]
  cases Text.decode bytes <;> rfl

/-- Reading a document asks the disk once, and makes what it answers into the document. -/
theorem run_ofFile {τ : Type} (disk : Disk (StateM τ)) {path : Path} (h : '\x00' ∉ path.text)
    (before : τ) :
    (Document.ofFile disk path "utf-8").run before =
      (Document.ofAnswer path "utf-8" ((disk.read path).run before).1,
        ((disk.read path).run before).2) := by
  rw [Document.ofFile, if_neg h]
  rfl

variable (E : Engine σ) (plugins : Callable → Plugin) (request : CompileRequest)

/-! ## The options of a request -/

/-- What the options of a request are read as. -/
def CompileRequest.base : Options where
  format := request.format.map .pinned
  markdownExtensions := ExtensionNames.dedupe (ExtensionNames.split request.extensions)
  development := request.development

/-- The options of a request are valid. -/
theorem ofInput_options : Options.ofInput (.value (.map request.options)) = .ok request.base := by
  have hformat : Options.readField request.options "format" none
      (Options.readOptional Options.readFormat) = .ok (request.format.map .pinned) := by
    obtain ⟨_, _, format, _, _⟩ := request
    rcases format with _ | _ | _ <;> rfl
  have hnames : Options.readField request.options "markdown_extensions" []
      Options.readExtensionNames =
        .ok (ExtensionNames.dedupe (ExtensionNames.split request.extensions)) :=
    Options.readExtensionNames_texts request.extensions (.inl rfl)
  have hdevelopment : Options.readField request.options "development" false Options.readTruth =
      .ok request.development := rfl
  have hread : Options.read request.options = .ok request.base := by
    refine Options.read_eq_ok_iff.2 ⟨?_, ?_⟩
    · simp only [Options.Readings.issues, Options.Readings.of, hformat, hnames, hdevelopment]
      rfl
    · simp only [Options.Readings.options, Options.Readings.of, hformat, hnames, hdevelopment]
      rfl
  rw [Options.ofInput, hread]

/-! ## The command -/

/-- Compile a document alone, with the options of a request. -/
def CompileRequest.compileAlone (document : Document) : Except Failure Document :=
  compile E plugins .synchronous (.existing document) (.value (.map request.options))

/-- The streams once a dispatcher for the request has got a document: the events of its
call are on the error stream. -/
def CompileRequest.streams (state : State) (document : Document) : Streams where
  error := events state (Dispatcher.call (Workshop.standard E plugins) .synchronous
    (.existing document) { options := request.base } ()).notices

/-- The command reads the file, compiles the document alone, and delivers it. -/
theorem compileAt_eq {m : Type → Type} [Monad m] (disk : Disk m) (state : State) (path : Path) :
    compileAt E plugins disk state request path = (do
      match ← Document.ofFile disk path "utf-8" with
      | .error f => return fail state {} f
      | .ok document =>
        match request.compileAlone E plugins document with
        | .error f => return fail state (request.streams E plugins state document) f
        | .ok compiled =>
          deliver disk state request.output compiled
            ((request.streams E plugins state document).addError
              (noteWarnings state path compiled))) := by
  have hcreate : Dispatcher.create (.value (.map request.options)) =
      .ok ({ options := request.base } : Dispatcher (Processor σ)) := by
    rw [Dispatcher.create, ofInput_options]
    rfl
  rw [compileAt, hcreate]
  refine congrArg (Document.ofFile disk path "utf-8" >>= ·) (funext fun answer => ?_)
  cases answer with
  | error f => rfl
  | ok document =>
    have hcall := Dispatcher.result_call_new E plugins request.base
      ⟨.synchronous, .existing document⟩
    have halone : request.compileAlone E plugins document =
        compile E plugins .synchronous (.existing document) (.existing request.base) := by
      rw [CompileRequest.compileAlone, compile, resolve_of_valid (ofInput_options request)]
      rfl
    rw [← halone, Dispatcher.Call.result] at hcall
    simp only [CompileRequest.streams]
    generalize Dispatcher.call (Workshop.standard E plugins) .synchronous (.existing document)
      { options := request.base } () = call at hcall ⊢
    cases hc : request.compileAlone E plugins document with
    | error f =>
      rw [hc] at hcall
      cases ho : call.outcome with
      | error g =>
        rw [ho] at hcall
        obtain rfl : g = f := Except.error.inj hcall
        rfl
      | ok done =>
        rw [ho] at hcall
        cases hcall
    | ok compiled =>
      rw [hc] at hcall
      cases ho : call.outcome with
      | error g =>
        rw [ho] at hcall
        cases hcall
      | ok done =>
        rw [ho] at hcall
        have hdocument : call.document = some compiled := Except.ok.inj hcall
        simp only [hdocument, Option.getD_some]

section Running

variable {τ : Type} {disk : Disk (StateM τ)} {before after : τ} {path : Path}

/-- A file that cannot be read is the end of the command. -/
theorem run_compileAt_of_unread (state : State) {f : Failure}
    (h : (Document.ofFile disk path "utf-8").run before = (.error f, after)) :
    (compileAt E plugins disk state request path).run before = (fail state {} f, after) := by
  rw [compileAt_eq, StateT.run_bind, h]
  rfl

/-- From a file that was read on, the command compiles its document alone. -/
theorem run_compileAt_of_read (state : State) {document : Document}
    (h : (Document.ofFile disk path "utf-8").run before = (.ok document, after)) :
    (compileAt E plugins disk state request path).run before =
      match request.compileAlone E plugins document with
      | .error f => (fail state (request.streams E plugins state document) f, after)
      | .ok compiled =>
        (deliver disk state request.output compiled
          ((request.streams E plugins state document).addError
            (noteWarnings state path compiled))).run after := by
  rw [compileAt_eq, StateT.run_bind, h]
  change StateT.run (match request.compileAlone E plugins document with
    | .error f => _
    | .ok compiled => _) after = _
  cases request.compileAlone E plugins document <;> rfl

end Running

/-! ## The stages of compiling -/

variable {E plugins request}

/-- The stages of compiling a text, with the failures of each: finding the format, building
a processor, taking off the front matter, and converting. -/
theorem compileAlone_eq {document : Document} {text : String} (ht : document.value = .text text) :
    request.compileAlone E plugins document =
      match document.detectFormat request.base with
      | .error f => .error f
      | .ok format =>
        match Processor.create E plugins (request.base.withFormat format) with
        | .error f => .error f
        | .ok processor =>
          match FrontMatter.split text.toList with
          | .error fault => .error (.scalar fault)
          | .ok split =>
            match (E.convertAnew (String.ofList split.body) processor.renderer.engine).1 with
            | .error reason => .error (.conversion reason)
            | .ok html => .ok (processor.finish html split.metadata
                ((Renderer.notesOn text.toList split.body).foldl Document.note document)) := by
  rw [CompileRequest.compileAlone]
  cases hf : document.detectFormat request.base with
  | error f =>
    exact compile_of_unresolved
      (by simp [Document.resolve, ofInput_options, hf, bind, Except.bind])
  | ok format =>
    have hr : Document.resolve (.existing document) (.value (.map request.options)) =
        .ok ⟨document, request.base.withFormat format⟩ :=
      Document.resolve_eq_ok_iff.2 ⟨_, _, ofInput_options request, rfl, hf, rfl⟩
    dsimp only
    cases hc : Processor.create E plugins (request.base.withFormat format) with
    | error f => exact compile_of_unbuilt hr hc
    | ok processor =>
      obtain ⟨_, _, -, -, rfl⟩ := Processor.create_eq_ok_iff.1 hc
      rw [compile_of_built hr hc]
      exact Processor.result_process_of_no_plugins rfl _ ht

/-- What a text is compiled to is a text. -/
theorem exists_text_of_compileAlone {document compiled : Document} {text : String}
    (ht : document.value = .text text)
    (h : request.compileAlone E plugins document = .ok compiled) :
    ∃ html, compiled.value = .text html := by
  rw [compileAlone_eq ht] at h
  cases hf : document.detectFormat request.base with
  | error f => simp [hf] at h
  | ok format =>
    cases hc : Processor.create E plugins (request.base.withFormat format) with
    | error f => simp [hf, hc] at h
    | ok processor =>
      cases hs : FrontMatter.split text.toList with
      | error fault => simp [hf, hc, hs] at h
      | ok split =>
        cases hb : (E.convertAnew (String.ofList split.body) processor.renderer.engine).1 with
        | error reason => simp [hf, hc, hs, hb] at h
        | ok html =>
          simp only [hf, hc, hs, hb, Except.ok.injEq] at h
          exact ⟨html, by rw [← h]; rfl⟩

/-! ## What is said -/

/-- A text on the error stream that reports a failure after what was said before: its
message, with more verbosity followed by details. -/
def Reports (state : State) (f : Failure) (before said : String) : Prop :=
  ∃ details, said = before ++ printed ("\n".intercalate (("error: " ++ f.message) :: details)) ∧
    (state.verbosity = 0 → details = [])

/-- A text on the error stream that warns of the notes of a document: a line for each of
them in order, with more verbosity among other lines. -/
def Warns (state : State) (path : Path) (document : Document) (said : String) : Prop :=
  ∃ before after,
    said = before ++
        String.join (document.messages.map fun note =>
          printed ("warning: " ++ (String.ofList path.name ++ ": " ++ note.display))) ++
        after ∧
      (state.verbosity = 0 → before = "" ∧ after = "")

/-- The quiet do not hear of events. -/
theorem events_of_quiet {state : State} (h : state.verbosity = 0) (notices : List Notice) :
    events state notices = "" := by
  have hevent (e : Event) : ((event state e.name (.map e.payload)).toOption).getD "" = "" := by
    simp [event, h, Except.toOption]
  rw [events]
  simp only [hevent]
  induction Notice.events notices with
  | nil => rfl
  | cons e es ih => rw [List.map_cons, String.join_cons, ih, String.append_empty]

/-- The quiet hear nothing before a document is compiled. -/
theorem error_streams (E : Engine σ) (plugins : Callable → Plugin) (request : CompileRequest)
    (document : Document) {state : State} (h : state.verbosity = 0) :
    (request.streams E plugins state document).error = "" :=
  events_of_quiet h _

/-- The message of a failure reports it. -/
theorem reports_failure (state : State) (f : Failure) (before : String) :
    Reports state f before (before ++ failure state f) := by
  by_cases hquiet : state.verbosity = 0
  · refine ⟨[], ?_, fun _ => rfl⟩
    simp [failure, error, rendered, hquiet]
  · refine ⟨details state.verbosity f.message f.graph, ?_, fun hzero => absurd hzero hquiet⟩
    have hloud : 1 ≤ state.verbosity := Nat.one_le_iff_ne_zero.2 hquiet
    simp [failure, error, rendered, hloud]

/-- The warnings about the notes of a document warn of them. -/
theorem warns_noteWarnings (state : State) (path : Path) (document : Document)
    {before after : String} (hbefore : state.verbosity = 0 → before = "")
    (hafter : state.verbosity = 0 → after = "") :
    Warns state path document (before ++ noteWarnings state path document ++ after) := by
  refine ⟨before, after, ?_, fun h => ⟨hbefore h, hafter h⟩⟩
  simp [noteWarnings, warning, rendered]

end Cli

end DocPress
