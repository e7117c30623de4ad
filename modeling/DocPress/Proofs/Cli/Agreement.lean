import DocPress.Proofs.Cli.Compiling
import DocPress.Proofs.Disk.Writing

/-!
# The command line and the library

Compiling a file from the command line comes to what compiling its text alone comes to:
the same document on the output or in the target, its notes as warnings, or the same
failure as a message, with nothing written.  On the output, however, control sequences of
the document are missing, which are there in a target.

Main results:

- `run_of_reads`: a run on a file that can be read compiles the text of the file alone.
- `agrees_iff`: the command agrees with the library exactly if a document that goes to
  the output has no control sequences.
-/

namespace DocPress.Cli

variable {σ : Type}

/-! ## Runs on files -/

/-- A command line that asks for compiling a file, whose bytes are the written form of a
text.  The target, if there is one, is no directory. -/
structure Reads (arguments : List String) (tree : Tree) (state : State)
    (request : CompileRequest) (path : Path) (text : List Char) : Prop where
  arguments_eq : Invocation.ofArguments arguments =
    .ok ⟨state.verbosity, state.tracebacks, .compile request⟩
  path_eq : tree.absolute (Path.ofString request.input) = path
  no_nul : '\x00' ∉ path.text
  text_eq : ∃ bytes, tree.read path = .ok bytes ∧ Text.decode bytes = .ok text
  target_free : ∀ target, request.output = some target →
    target = "" ∨ tree.entry (Path.ofString target) ≠ some .directory

section Reading

variable {tree : Tree} {path : Path} {request : CompileRequest}

/-- A file that can be read is there. -/
theorem entry_of_read {bytes : List UInt8} (h : tree.read path = .ok bytes) :
    tree.entry path = some .file := by
  rw [Tree.read] at h
  rw [Tree.entry]
  cases hw : tree.wayTo path with
  | error reason => simp [hw] at h
  | ok way =>
    simp only [hw] at h ⊢
    cases hl : tree.lookup way with
    | none => simp [hl] at h
    | some found =>
      cases found with
      | file bytes => rfl
      | directory => simp [hl] at h

/-- Reading a file gives its document, and leaves the tree alone. -/
theorem run_ofFile_of_text {bytes : List UInt8} {text : List Char} (hn : '\x00' ∉ path.text)
    (hr : tree.read path = .ok bytes) (hd : Text.decode bytes = .ok text) :
    (Document.ofFile Tree.disk path "utf-8").run tree = (.ok (fileDocument path text), tree) := by
  have hread : (Tree.disk.read path).run tree = (.ok bytes, tree) := congrArg (·, tree) hr
  rw [run_ofFile Tree.disk hn, hread, ofAnswer_ok, hd]

/-- The paths of a request are fine if the input is a file and the target no directory. -/
theorem run_checkPaths (hp : tree.absolute (Path.ofString request.input) = path)
    (he : tree.entry path = some .file)
    (ht : ∀ target, request.output = some target →
      target = "" ∨ tree.entry (Path.ofString target) ≠ some .directory) :
    (checkPaths Tree.disk request).run tree = (.ok path, tree) := by
  have habsolute : (Tree.disk.absolute (Path.ofString request.input)).run tree = (path, tree) :=
    congrArg (·, tree) hp
  have hentry : (Tree.disk.entry path).run tree = (some .file, tree) := congrArg (·, tree) he
  rw [checkPaths, StateT.run_bind, habsolute]
  change (Tree.disk.entry path >>= _).run tree = _
  rw [StateT.run_bind, hentry]
  cases ho : request.output with
  | none => rfl
  | some target =>
    have hfree : ((entryOf Tree.disk target).run tree).1 ≠ some .directory ∧
        ((entryOf Tree.disk target).run tree).2 = tree := by
      rw [entryOf]
      by_cases hempty : target = ""
      · rw [if_pos hempty]
        exact ⟨by simp, rfl⟩
      · rw [if_neg hempty]
        exact ⟨(ht target ho).resolve_left hempty, rfl⟩
    rcases hf : (entryOf Tree.disk target).run tree with ⟨found, same⟩
    rw [hf] at hfree
    obtain ⟨hfound, rfl : same = tree⟩ := hfree
    change (entryOf Tree.disk target >>= _).run same = _
    rw [StateT.run_bind, hf]
    have hno : (found == some .directory) = false := beq_eq_false_iff_ne.2 hfound
    change (if (found == some .directory) = true then _ else _ : StateM Tree _).run same = _
    rw [hno]
    rfl

end Reading

section Running

variable (E : Engine σ) (plugins : Callable → Plugin) {arguments : List String} {tree : Tree}
  {state : State} {request : CompileRequest} {path : Path} {text : List Char}

/-- A run on a file that can be read compiles the text of the file alone. -/
theorem run_of_reads (h : Reads arguments tree state request path text) :
    (run E plugins Tree.disk arguments).run tree =
      match request.compileAlone E plugins (fileDocument path text) with
      | .error f =>
        ((fail state (request.streams E plugins state (fileDocument path text)) f).outcome state,
          tree)
      | .ok compiled =>
        ((deliver Tree.disk state request.output compiled
          ((request.streams E plugins state (fileDocument path text)).addError
            (noteWarnings state path compiled))).run tree).map (Result.outcome state) id := by
  obtain ⟨bytes, hread, hdecode⟩ := h.text_eq
  have hpaths := run_checkPaths h.path_eq (entry_of_read hread) h.target_free
  have hcompile := run_compileAt_of_read E plugins request state
    (run_ofFile_of_text h.no_nul hread hdecode)
  rw [run, h.arguments_eq]
  change (checkPaths Tree.disk request >>= _).run tree = _
  rw [StateT.run_bind, hpaths]
  change (compileAt E plugins Tree.disk state request path >>= _).run tree = _
  rw [StateT.run_bind, hcompile]
  cases request.compileAlone E plugins (fileDocument path text) <;> rfl

end Running

/-! ## Delivering -/

section Delivering

variable {state : State} {document : Document} {html : String} {streams : Streams}
  {before after : Tree}

/-- The text of a document that holds a text. -/
theorem outputText_of_text (h : document.value = .text html) : outputText document = html := by
  obtain ⟨value, path, data, messages⟩ := document
  obtain rfl : value = .text html := h
  rfl

/-- Without a target the text is put on the output, control sequences left out. -/
theorem run_deliver_output (disk : Disk (StateM Tree)) (h : document.value = .text html) :
    (deliver disk state none document streams).run before =
      (⟨.exit 0, streams.addLine html⟩, before) := by
  rw [deliver, outputText_of_text h]
  rfl

/-- A target that can be written gets the text. -/
theorem run_deliver_target (state : State) (streams : Streams) {target : String}
    (h : document.value = .text html)
    (hw : (Tree.disk.writeText (Path.ofString target) html).run before = (.ok (), after)) :
    ∃ said, (deliver Tree.disk state (some target) document streams).run before =
        (⟨.exit 0, streams.addError said⟩, after) ∧ (state.verbosity = 0 → said = "") := by
  refine ⟨?_, ?_, ?_⟩
  · exact if 1 ≤ state.verbosity
      then rendered state "info" ("Wrote " ++ (Path.ofString target).toString) none else ""
  · rw [deliver, outputText_of_text h, StateT.run_bind, hw]
    rfl
  · intro hquiet
    rw [if_neg (by simp [hquiet])]

end Delivering

/-! ## Agreement -/

/-- What the command owes to the library, given what compiling the document alone comes to,
the tree before the run, and how the run ended with which tree. -/
structure Agrees (library : Except Failure Document) (state : State) (request : CompileRequest)
    (path : Path) (before : Tree) (result : Outcome × Tree) : Prop where
  /-- A text is compiled to a text. -/
  text : ∀ compiled, library = .ok compiled → ∃ html, compiled.value = .text html
  /-- Without a target the output is the compiled text with a line feed, its notes are
  warned of, and no file is touched. -/
  printed : ∀ compiled html, library = .ok compiled → compiled.value = .text html →
    request.output = none →
    ∃ said, result = (.done 0 ⟨html ++ "\n", said⟩ none, before) ∧
      Warns state path compiled said
  /-- A target that can be written holds the compiled text, its notes are warned of, and the
  output is empty. -/
  written : ∀ compiled html target after, library = .ok compiled →
    compiled.value = .text html → request.output = some target →
    (Tree.disk.writeText (Path.ofString target) html).run before = (.ok (), after) →
    after.read (Path.ofString target) = .ok (Text.encode html.toList) ∧
    ∃ said, result = (.done 0 ⟨"", said⟩ none, after) ∧ Warns state path compiled said
  /-- A failure of compiling is reported, the output is empty, and no file is touched. -/
  failed : ∀ f, library = .error f → f.isCompileFailure = true →
    ∃ earlier said, result = (.done 1 ⟨"", said⟩ none, before) ∧ Reports state f earlier said ∧
      (state.verbosity = 0 → earlier = "")

section Agreeing

variable {E : Engine σ} {plugins : Callable → Plugin} {arguments : List String} {tree : Tree}
  {state : State} {request : CompileRequest} {path : Path} {text : List Char}

/-- What the command puts on the output is the compiled text without control sequences. -/
theorem run_of_printed (h : Reads arguments tree state request path text) {compiled : Document}
    {html : String}
    (hc : request.compileAlone E plugins (fileDocument path text) = .ok compiled)
    (hv : compiled.value = .text html) (ho : request.output = none) :
    ∃ said, (run E plugins Tree.disk arguments).run tree =
        (.done 0 ⟨String.ofList (Text.withoutControls html.toList) ++ "\n", said⟩ none, tree) ∧
      Warns state path compiled said := by
  have hwarns := warns_noteWarnings state path compiled
    (error_streams E plugins request (fileDocument path text)) fun _ => (rfl : "" = "")
  rw [String.append_empty] at hwarns
  refine ⟨_, ?_, hwarns⟩
  rw [run_of_reads E plugins h, hc, ho]
  dsimp only
  rw [run_deliver_output Tree.disk hv]
  simp [Result.outcome, Streams.addLine, Streams.addError, CompileRequest.streams]

/-- What the command does to a target that can be written. -/
theorem run_of_written (h : Reads arguments tree state request path text) {compiled : Document}
    {html target : String} {after : Tree}
    (hc : request.compileAlone E plugins (fileDocument path text) = .ok compiled)
    (hv : compiled.value = .text html) (ho : request.output = some target)
    (hw : (Tree.disk.writeText (Path.ofString target) html).run tree = (.ok (), after)) :
    ∃ said, (run E plugins Tree.disk arguments).run tree = (.done 0 ⟨"", said⟩ none, after) ∧
      Warns state path compiled said := by
  obtain ⟨wrote, hdeliver, hquiet⟩ := run_deliver_target state
    ((request.streams E plugins state (fileDocument path text)).addError
      (noteWarnings state path compiled)) hv hw
  refine ⟨_, ?_, warns_noteWarnings state path compiled
    (error_streams E plugins request (fileDocument path text)) hquiet⟩
  rw [run_of_reads E plugins h, hc, ho]
  dsimp only
  rw [hdeliver]
  simp [Result.outcome, Streams.addError, CompileRequest.streams]

/-- What the command does about a failure of compiling. -/
theorem run_of_failed (h : Reads arguments tree state request path text)
    (hquiet : state.tracebacks = false) {f : Failure}
    (hc : request.compileAlone E plugins (fileDocument path text) = .error f)
    (hf : f.isCompileFailure = true) :
    ∃ earlier said,
      (run E plugins Tree.disk arguments).run tree = (.done 1 ⟨"", said⟩ none, tree) ∧
        Reports state f earlier said ∧ (state.verbosity = 0 → earlier = "") := by
  refine ⟨(request.streams E plugins state (fileDocument path text)).error, _, ?_,
    reports_failure state f _, error_streams E plugins request (fileDocument path text)⟩
  rw [run_of_reads E plugins h, hc]
  simp [fail, hf, hquiet, Result.outcome, Streams.addError, CompileRequest.streams]

/-- Where the command agrees with the library, a document that goes to the output has no
control sequences. -/
theorem not_hasControl_of_agrees (h : Reads arguments tree state request path text)
    (hagrees : Agrees (request.compileAlone E plugins (fileDocument path text)) state request path
      tree ((run E plugins Tree.disk arguments).run tree)) {compiled : Document} {html : String}
    (hc : request.compileAlone E plugins (fileDocument path text) = .ok compiled)
    (hv : compiled.value = .text html) (ho : request.output = none) :
    ¬ Text.HasControl html.toList := by
  obtain ⟨said, hresult, -⟩ := hagrees.printed compiled html hc hv ho
  obtain ⟨said', hrun, -⟩ := run_of_printed h hc hv ho
  rw [hrun] at hresult
  simp only [Prod.mk.injEq, Outcome.done.injEq, Streams.mk.injEq] at hresult
  obtain ⟨⟨-, ⟨houtput, -⟩, -⟩, -⟩ := hresult
  have hchars := congrArg String.toList houtput
  rw [String.toList_append, String.toList_append, String.toList_ofList] at hchars
  rw [← Text.withoutControls_eq_self_iff]
  exact List.append_cancel_right hchars

/-- The command agrees with the library exactly if a document that goes to the output has
no control sequences. -/
theorem agrees_iff (h : Reads arguments tree state request path text)
    (hquiet : state.tracebacks = false) :
    Agrees (request.compileAlone E plugins (fileDocument path text)) state request path tree
        ((run E plugins Tree.disk arguments).run tree) ↔
      ∀ compiled html, request.compileAlone E plugins (fileDocument path text) = .ok compiled →
        compiled.value = .text html → request.output = none → ¬ Text.HasControl html.toList := by
  constructor
  · intro hagrees compiled html hc hv ho
    exact not_hasControl_of_agrees h hagrees hc hv ho
  · intro hplain
    constructor
    case text =>
      intro compiled hc
      exact exists_text_of_compileAlone rfl hc
    case printed =>
      intro compiled html hc hv ho
      obtain ⟨said, hrun, hwarns⟩ := run_of_printed h hc hv ho
      rw [Text.withoutControls_eq_self_iff.2 (hplain compiled html hc hv ho),
        String.ofList_toList] at hrun
      exact ⟨said, hrun, hwarns⟩
    case written =>
      intro compiled html target after hc hv ho hw
      exact ⟨Tree.read_of_writeText hw, run_of_written h hc hv ho hw⟩
    case failed =>
      intro f hc hf
      exact run_of_failed h hquiet hc hf

end Agreeing

/-! ## Two runs -/

/-- A tree of one file. -/
def singleFile (name text : String) : Tree where
  nodes := [([name.toList], .file (Text.encode text.toList))]

/-- A command line with every option of compiling, for a file whose leading block is no
front matter; the directory of the target is missing. -/
def draftArguments : List String :=
  ["-v", "compile", "-f", "MDX", "-xtoc,nl2br", "draft.txt", "--markdown-extension=toc",
    "--output", "out/draft.html", "--development"]

/-- What it asks for. -/
def draftRequest : CompileRequest :=
  ⟨"draft.txt", some "out/draft.html", some .mdx, ["toc,nl2br", "toc"], true⟩

def draftText : String := "---\r\n- no\r\n---\r\n# Draft\r\n"

theorem reads_draft :
    Reads draftArguments (singleFile "draft.txt" draftText) ⟨1, false⟩ draftRequest
      ⟨1, ["draft.txt".toList]⟩ draftText.toList where
  arguments_eq := eq_ok_of_toOption (by decide +kernel)
  path_eq := by decide +kernel
  no_nul := by decide +kernel
  text_eq := ⟨_, rfl, eq_ok_of_toOption (by decide +kernel)⟩
  target_free target h := by
    obtain rfl := Option.some.inj h
    exact .inr (by decide +kernel)

/-- The command agrees with the library on a draft. -/
theorem agrees_iff_draft :
    Reads draftArguments (singleFile "draft.txt" draftText) ⟨1, false⟩ draftRequest
      ⟨1, ["draft.txt".toList]⟩ draftText.toList ∧
    (⟨1, false⟩ : State).tracebacks = false ∧
    Agrees (draftRequest.compileAlone Markdown.engine Plugin.idle
        (fileDocument ⟨1, ["draft.txt".toList]⟩ draftText.toList))
      ⟨1, false⟩ draftRequest ⟨1, ["draft.txt".toList]⟩ (singleFile "draft.txt" draftText)
      ((run Markdown.engine Plugin.idle Tree.disk draftArguments).run
        (singleFile "draft.txt" draftText)) :=
  ⟨reads_draft, rfl, (agrees_iff reads_draft rfl).2 fun _ _ _ _ h => by cases h⟩

def boldRequest : CompileRequest := ⟨"a.md", none, none, [], false⟩

def boldText : String := "\x1b[1mNote\x1b[0m\n"

theorem reads_bold :
    Reads ["compile", "a.md"] (singleFile "a.md" boldText) {} boldRequest ⟨1, ["a.md".toList]⟩
      boldText.toList where
  arguments_eq := eq_ok_of_toOption (by decide +kernel)
  path_eq := by decide +kernel
  no_nul := by decide +kernel
  text_eq := ⟨_, rfl, eq_ok_of_toOption (by decide +kernel)⟩
  target_free target h := by cases h

/-- The text that a document holds, if it was compiled to one. -/
def textOf? (library : Except Failure Document) : Option String :=
  library.toOption.bind fun document => document.value.text?

theorem not_agrees_bold :
    ¬ Agrees (boldRequest.compileAlone Markdown.engine Plugin.idle
        (fileDocument ⟨1, ["a.md".toList]⟩ boldText.toList))
      {} boldRequest ⟨1, ["a.md".toList]⟩ (singleFile "a.md" boldText)
      ((run Markdown.engine Plugin.idle Tree.disk ["compile", "a.md"]).run
        (singleFile "a.md" boldText)) := by
  intro h
  have htext : textOf? (boldRequest.compileAlone Markdown.engine Plugin.idle
      (fileDocument ⟨1, ["a.md".toList]⟩ boldText.toList)) =
        some "<p>\x1b[1mNote\x1b[0m</p>" := by
    decide +kernel
  cases hc : boldRequest.compileAlone Markdown.engine Plugin.idle
      (fileDocument ⟨1, ["a.md".toList]⟩ boldText.toList) with
  | error f =>
    rw [hc] at htext
    cases htext
  | ok compiled =>
    obtain ⟨html, hv⟩ := h.text compiled hc
    rw [hc] at htext
    obtain rfl : html = "<p>\x1b[1mNote\x1b[0m</p>" := by
      simpa [textOf?, Except.toOption, hv, Value.text?] using htext
    have hno := not_hasControl_of_agrees reads_bold h hc hv rfl
    rw [← Text.withoutControls_eq_self_iff] at hno
    revert hno
    decide +kernel

end DocPress.Cli
