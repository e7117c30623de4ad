import DocPress.Cli.Command

/-!
# Help on the command line

What the program says about itself, about arguments that it does not understand,
and about a failure that is to be shown in full.
-/

namespace DocPress.Cli

/-! ## Help -/

/-- How the program is called. -/
def usageLine : String := "Usage: docpress [OPTIONS] COMMAND [ARGS]..."

/-- The spellings of an option, with a mark for its value. -/
def spellings {κ : Type} [DecidableEq κ] (specs : List (OptionSpec κ)) (key : κ) : String :=
  let own := specs.filter fun spec => spec.key = key
  ", ".intercalate (own.map OptionSpec.name) ++
    if own.any OptionSpec.takesValue then " VALUE" else ""

/-- A line of help about an option. -/
def optionLine {κ : Type} [DecidableEq κ] (specs : List (OptionSpec κ)) (key : κ)
    (meaning : String) : String :=
  "  " ++ spellings specs key ++ ": " ++ meaning

/-- The help, a line at a time. -/
def helpLines : List String :=
  [usageLine,
    "",
    "Compile Markdown and MDX documents.",
    "",
    "Options:",
    optionLine globalSpecs .verbose "say more about what is done",
    optionLine globalSpecs .debug "show failures in full",
    optionLine globalSpecs .version "show the version and exit",
    optionLine globalSpecs .help "show this text and exit",
    "",
    "docpress compile INPUT:",
    optionLine compileSpecs .output "write the output to a file",
    optionLine compileSpecs .format "compile as md or mdx whatever the file's extension",
    optionLine compileSpecs .extension "enable Markdown extensions, with commas between them",
    optionLine compileSpecs .development "compile for development",
    optionLine compileSpecs .production "compile for production",
    "",
    "docpress extensions:",
    optionLine extensionsSpecs .format "list the file extensions of md or of mdx only"]

/-- The help. -/
def helpText : String :=
  "\n".intercalate helpLines ++ "\n"

/-! ## Problems -/

/-- What is said about arguments that are not understood: with none, the help. -/
def usageError (problem : UsageProblem) : String :=
  if problem = .noArguments then helpText
  else usageLine ++ "\n" ++ "Error: " ++ problem.message ++ "\n"

/-- An error in full: its kind and its whole text. -/
def errorLine (node : ErrorNode) : String :=
  node.kind.name ++ ": " ++ node.text

/-- A failure in full: from the origin to the error reported, each with its kind. -/
def fullFailure (graph : ErrorGraph) : String :=
  let met := graph.walk.filterMap fun place => graph[place]?
  "\nled to\n".intercalate (met.reverse.map errorLine) ++ "\n"

/-- The status and the streams that an outcome leaves. -/
def Outcome.report : Outcome → Nat × Streams
  | .usage problem => (2, Streams.addError {} (usageError problem))
  | .help => (0, { output := helpText })
  | .done status streams none => (status, streams)
  | .done status streams (some graph) => (status, streams.addError (fullFailure graph))
  | .interrupted graph => (130, Streams.addError {} (fullFailure graph))

end DocPress.Cli
