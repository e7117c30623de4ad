import DocPress.Cli.Arguments
import DocPress.Cli.Message
import DocPress.Disk
import DocPress.Dispatcher
import DocPress.Document.Reading
import DocPress.Text.Control

/-!
# Commands

Compiling reads a document, dispatches it, and prints or writes the output.  A
failure ends a command with a message, or leaves it as it is where failures are
to be shown in full.
-/

namespace DocPress.Cli

/-! ## Results -/

/-- What a command wrote to its two streams. -/
structure Streams where
  output : String := ""
  error : String := ""
deriving DecidableEq, Repr

/-- How a command ends: with a status, or with a failure that leaves it. -/
inductive Ending where
  | exit (status : Nat)
  | escaped (failure : Failure)
deriving DecidableEq, Repr

/-- A command's end and its streams. -/
structure Result where
  ending : Ending
  streams : Streams
deriving DecidableEq, Repr

/-- Add to the error stream. -/
def Streams.addError (streams : Streams) (text : String) : Streams :=
  { streams with error := streams.error ++ text }

/-- Add a line to the output stream, which is no terminal: control sequences are left
out. -/
def Streams.addLine (streams : Streams) (text : String) : Streams :=
  { streams with
    output := streams.output ++ String.ofList (Text.withoutControls text.toList) ++ "\n" }

/-! ## Compiling -/

variable {σ : Type}

/-- The options that a request asks for. -/
def CompileRequest.options (request : CompileRequest) : Mapping :=
  [(.text "format", (request.format.map fun format => .text format.name).getD .none),
    (.text "markdown_extensions", .list (request.extensions.map .text)),
    (.text "development", .bool request.development)]

/-- The end of a command by a failure of compiling: a message, unless failures are
shown in full.  Other failures leave the command. -/
def fail (state : State) (streams : Streams) (f : Failure) : Result :=
  if f.isCompileFailure && !state.tracebacks then
    ⟨.exit 1, streams.addError (failure state f)⟩
  else ⟨.escaped f, streams⟩

/-- The notes of a document as warnings. -/
def noteWarnings (state : State) (path : Path) (document : Document) : String :=
  String.join (document.messages.map fun note =>
    warning state (String.ofList path.name ++ ": " ++ note.display) none)

/-- The text of a compiled document. -/
def outputText (document : Document) : String :=
  match document.text with
  | .ok value => value.display
  | .error _ => ""

/-- Print or write a compiled document. -/
def deliver {m : Type → Type} [Monad m] (disk : Disk m) (state : State) (output : Option String)
    (document : Document) (streams : Streams) : m Result := do
  match output with
  | none => return ⟨.exit 0, streams.addLine (outputText document)⟩
  | some output =>
    let target := Path.ofString output
    match ← disk.writeText target (outputText document) with
    | .error fault =>
      return ⟨.exit 1, streams.addError (failure state (.disk fault))⟩
    | .ok () =>
      let said :=
        if 1 ≤ state.verbosity then rendered state "info" ("Wrote " ++ target.toString) none
        else ""
      return ⟨.exit 0, streams.addError said⟩

/-- Compile the document at a path. -/
def compileAt {m : Type → Type} [Monad m] (E : Engine σ) (plugins : Callable → Plugin)
    (disk : Disk m) (state : State) (request : CompileRequest) (path : Path) : m Result := do
  match Dispatcher.create (.value (.map request.options)) with
  | .error f => return fail state {} f
  | .ok dispatcher =>
    match ← Document.ofFile disk path "utf-8" with
    | .error f => return fail state {} f
    | .ok document =>
      let call := Dispatcher.call (Workshop.standard E plugins) .synchronous
        (.existing document) dispatcher ()
      let streams : Streams := { error := events state call.notices }
      match call.outcome with
      | .error f => return fail state streams f
      | .ok () =>
        let document := call.document.getD document
        deliver disk state request.output document
          (streams.addError (noteWarnings state path document))

/-! ## Listing extensions -/

/-- List the file extensions of a format, or of both. -/
def listExtensions (format : Option DocumentFormat) : Result :=
  let options : Mapping :=
    [(.text "format", (format.map fun format => .text format.name).getD .none)]
  match Options.ofInput (.value (.map options)) with
  | .error f => ⟨.escaped f, {}⟩
  | .ok options => ⟨.exit 0, options.advertised.foldl Streams.addLine {}⟩

/-! ## The program -/

/-- How a program ends: by a problem with its arguments, with help, with a status
and perhaps a failure shown in full, or by an interruption that it lets through. -/
inductive Outcome where
  | usage (problem : UsageProblem)
  | help
  | done (status : Nat) (streams : Streams) (shown : Option ErrorGraph)
  | interrupted (graph : ErrorGraph)
deriving DecidableEq, Repr

/-- What becomes of an error that leaves a command: an interruption is said in
words or let through, any other error is a message or shown in full. -/
def settle (state : State) (streams : Streams) (graph : ErrorGraph) : Outcome :=
  let node := graph.head?
  if (node.map fun node => node.kind == .interrupt).getD false then
    if state.tracebacks then .interrupted graph
    else
      .done 1 (streams.addError (error state "Operation cancelled by user." (some graph))) none
  else if state.tracebacks then .done 1 streams (some graph)
  else
    let message := (node.map ErrorNode.text).getD ""
    .done 1 (streams.addError (error state message (some graph))) none

/-- What becomes of a command's result. -/
def Result.outcome (state : State) (result : Result) : Outcome :=
  match result.ending with
  | .exit status => .done status result.streams none
  | .escaped f => settle state result.streams f.graph

/-- What a raw path leads to; the empty path leads nowhere. -/
def entryOf {m : Type → Type} [Monad m] (disk : Disk m) (path : String) :
    m (Option DiskEntry) := do
  if path = "" then return none else disk.entry (Path.ofString path)

/-- Check the paths of a request: the input has to be a file, the output must not
be a directory. -/
def checkPaths {m : Type → Type} [Monad m] (disk : Disk m) (request : CompileRequest) :
    m (Except UsageProblem Path) := do
  let input ← disk.absolute (Path.ofString request.input)
  match ← disk.entry input with
  | none => return .error (.noFile request.input)
  | some .directory => return .error (.isDirectory request.input)
  | some .file =>
    match request.output with
    | none => return .ok input
    | some output =>
      if (← entryOf disk output) == some .directory then return .error (.isDirectory output)
      else return .ok input

/-- The version of the program. -/
def version : String := "0.1.0"

/-- Run the program. -/
def run {m : Type → Type} [Monad m] (E : Engine σ) (plugins : Callable → Plugin)
    (disk : Disk m) (arguments : List String) : m Outcome := do
  match Invocation.ofArguments arguments with
  | .error problem => return .usage problem
  | .ok invocation =>
    let state : State := ⟨invocation.verbosity, invocation.debug⟩
    match invocation.request with
    | .help => return .help
    | .version => return .done 0 (Streams.addLine {} version) none
    | .extensions format => return (listExtensions format).outcome state
    | .compile request =>
      match ← checkPaths disk request with
      | .error problem => return .usage problem
      | .ok path =>
        return (← compileAt E plugins disk state request path).outcome state

end DocPress.Cli
