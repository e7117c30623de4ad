import DocPress.Diagnostics
import DocPress.ErrorGraph
import DocPress.Failure
import DocPress.Text.Search

/-!
# Messages on the console

Warnings and errors are lines on the error stream.  With more verbosity the kind
of the error, its deepest cause and the whole chain of causes follow.
-/

namespace DocPress.Cli

/-! ## State of the command line

How much the commands say, and whether failures are shown in full. -/

/-- How much is said, and whether failures are shown in full. -/
structure State where
  verbosity : Nat := 0
  tracebacks : Bool := false
deriving DecidableEq, Repr

namespace State

/-- Apply flags to a state; a verbosity below zero counts as zero. -/
def apply (state : State) (verbosity : Option Int) (debug : Option Bool) : State where
  verbosity := (verbosity.map Int.toNat).getD state.verbosity
  tracebacks := debug.getD state.tracebacks

/-- The state, where there has to be one. -/
def require : Option State → Except Failure State
  | some state => .ok state
  | none => .error (.raised ⟨.runtime, "CLI state is not initialised for this context."⟩)

/-- Whether failures are shown in full; without a state they are not. -/
def debugEnabled (state : Option State) : Bool :=
  match require state with
  | .ok state => state.tracebacks
  | .error _ => false

end State

/-! ## Console text -/

/-- The control characters that a console does not print. -/
def isSilent (c : Char) : Bool :=
  let n := c.toNat
  n == 7 || n == 8 || n == 11 || n == 12 || n == 13

/-- Tabs replaced by blanks up to the next multiple of eight columns. -/
def expandTabs (column : Nat) : List Char → List Char
  | [] => []
  | c :: rest =>
    if c = '\t' then
      let width := 8 - column % 8
      List.replicate width ' ' ++ expandTabs (column + width) rest
    else if c = '\n' then c :: expandTabs 0 rest
    else c :: expandTabs (column + 1) rest

/-- A text as a console prints it, with a line feed at its end. -/
def printed (text : String) : String :=
  String.ofList (expandTabs 0 (text.toList.filter fun c => !isSilent c)) ++ "\n"

/-! ## Details -/

/-- The deepest cause, unless the message says it already. -/
def causeLine (message : String) (graph : ErrorGraph) : List String :=
  match graph.hint? with
  | some hint =>
    if hint ≠ "" && !Text.occursIn hint.toList message.toList then ["cause: " ++ hint] else []
  | none => []

/-- The chain of causes, from high verbosity on. -/
def chainLines (verbosity : Nat) (graph : ErrorGraph) : List String :=
  match graph.messages.tail with
  | [] => []
  | causes => if 2 ≤ verbosity then "caused by:" :: causes.map ("  " ++ ·) else []

/-- The name of the kind of the error reported. -/
def kindName (graph : ErrorGraph) : String :=
  (graph.head?.map fun node => node.kind.name).getD ""

/-- The lines about an error below its message. -/
def details (verbosity : Nat) (message : String) (graph : ErrorGraph) : List String :=
  ("type: " ++ kindName graph) :: causeLine message graph ++ chainLines verbosity graph

/-! ## Messages -/

/-- A message of a level on the console; what is not information starts with its
level and is followed by details about the error that goes with it. -/
def rendered (state : State) (level message : String) (error : Option ErrorGraph) : String :=
  if level = "info" then printed message
  else
    let below := match error with
      | some graph => if 1 ≤ state.verbosity then details state.verbosity message graph else []
      | none => []
    printed ("\n".intercalate ((level ++ ": " ++ message) :: below))

/-- A warning on the console. -/
def warning (state : State) (message : String) (error : Option ErrorGraph) : String :=
  rendered state "warning" message error

/-- An error on the console. -/
def error (state : State) (message : String) (graph : Option ErrorGraph) : String :=
  rendered state "error" message graph

/-- A failure on the console. -/
def failure (state : State) (f : Failure) : String :=
  error state f.message (some f.graph)

/-- An event on the console: nothing for the quiet, and otherwise its message, if
it has one. -/
def event (state : State) (name : String) (payload : Value) : Except ValueFault String :=
  if state.verbosity < 1 then .ok ""
  else do
    match ← eventMessage name (← payload.toMapping) with
    | some message => return rendered state "info" message none
    | none => return ""

/-- The events among some notices on the console. -/
def events (state : State) (notices : List Notice) : String :=
  String.join ((Notice.events notices).map fun e =>
    ((event state e.name (.map e.payload)).toOption).getD "")

end DocPress.Cli
