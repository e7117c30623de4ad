import DocPress.DocumentFormat
import DocPress.Text.LowerCase
import DocPress.Text.Search

/-!
# Arguments of the command line

Options come long with two dashes or short with one, short ones can be run
together, and a value follows its option or is attached to it.  Two dashes alone
end the options.
-/

namespace DocPress.Cli

/-! ## Scanning -/

/-- Why a command line cannot be understood. -/
inductive UsageProblem where
  | noArguments
  | unknownOption (name : String)
  | missingValue (name : String)
  | unwantedValue (name : String)
  | missingCommand
  | unknownCommand (name : String)
  | missingInput
  | extraArgument (text : String)
  | badChoice (text : String)
  | noFile (path : String)
  | isDirectory (path : String)
deriving DecidableEq, Repr

/-- The wording of a problem. -/
def UsageProblem.message : UsageProblem → String
  | .noArguments => "Nothing to do."
  | .unknownOption name => "No such option: " ++ name
  | .missingValue name => "Option '" ++ name ++ "' requires an argument."
  | .unwantedValue name => "Option '" ++ name ++ "' does not take a value."
  | .missingCommand => "Missing command."
  | .unknownCommand name => "No such command '" ++ name ++ "'."
  | .missingInput => "Missing argument 'INPUT'."
  | .extraArgument text => "Got unexpected extra argument (" ++ text ++ ")"
  | .badChoice text =>
    "Invalid value for '--format' / '-f': '" ++ text ++ "' is not one of 'md', 'mdx'."
  | .noFile path => "File '" ++ path ++ "' does not exist."
  | .isDirectory path => "File '" ++ path ++ "' is a directory."

/-- An option of a kind: its key, and whether a value belongs to it. -/
structure OptionSpec (κ : Type) where
  name : String
  key : κ
  takesValue : Bool

/-- What a command line says: the options in order with their values, and the
other arguments. -/
structure Scanned (κ : Type) where
  options : List (κ × String)
  arguments : List String

variable {κ : Type}

/-- The specification of an option by its name. -/
def specOf (specs : List (OptionSpec κ)) (name : String) : Except UsageProblem (OptionSpec κ) :=
  match specs.find? fun spec => spec.name == name with
  | some spec => .ok spec
  | none => .error (.unknownOption name)

/-- The next argument as the value of an option. -/
def takeValue (spec : OptionSpec κ) : List String → Except UsageProblem (String × List String)
  | value :: rest => .ok (value, rest)
  | [] => .error (.missingValue spec.name)

/-- Short options run together; the first that takes a value takes what is left. -/
def shortOptions (specs : List (OptionSpec κ)) (rest : List String) :
    List Char → Except UsageProblem (List (κ × String) × List String)
  | [] => .ok ([], rest)
  | c :: more => do
    let spec ← specOf specs (String.ofList ['-', c])
    if spec.takesValue then
      let (value, rest) ←
        if more = [] then takeValue spec rest else pure (String.ofList more, rest)
      return ([(spec.key, value)], rest)
    else
      let (options, rest) ← shortOptions specs rest more
      return ((spec.key, "") :: options, rest)

/-- A long option, its value attached by an equals sign or next. -/
def longOption (specs : List (OptionSpec κ)) (text : List Char) (rest : List String) :
    Except UsageProblem (List (κ × String) × List String) := do
  let (name, attached) := match Text.cutAt? ['='] text with
    | some (name, value) => (name, some (String.ofList value))
    | none => (text, none)
  let spec ← specOf specs (String.ofList name)
  if spec.takesValue then
    let (value, rest) ← takeValue spec (attached.toList ++ rest)
    return ([(spec.key, value)], rest)
  else if attached.isSome then throw (.unwantedValue spec.name)
  else return ([(spec.key, "")], rest)

/-- Whether an argument is an option. -/
def isOption (text : List Char) : Bool :=
  Text.startsWith text ['-'] && 1 < text.length

/-- Scan arguments.  Unless options may follow other arguments, the first other
argument ends the options.  There are no more steps than arguments. -/
def scan (specs : List (OptionSpec κ)) (interspersed : Bool) :
    Nat → List String → Except UsageProblem (Scanned κ)
  | 0, arguments => .ok ⟨[], arguments⟩
  | _ + 1, [] => .ok ⟨[], []⟩
  | fuel + 1, argument :: rest =>
    let text := argument.toList
    if argument = "--" then .ok ⟨[], rest⟩
    else if isOption text then do
      let (options, rest) ←
        if Text.startsWith text ['-', '-'] then longOption specs text rest
        else shortOptions specs rest text.tail
      let scanned ← scan specs interspersed fuel rest
      return { scanned with options := options ++ scanned.options }
    else if interspersed then do
      let scanned ← scan specs interspersed fuel rest
      return { scanned with arguments := argument :: scanned.arguments }
    else .ok ⟨[], argument :: rest⟩

/-! ## Global options -/

/-- The options in front of a command. -/
inductive GlobalKey where
  | verbose
  | debug
  | version
  | help
deriving DecidableEq, Repr

/-- The global options by name. -/
def globalSpecs : List (OptionSpec GlobalKey) :=
  [⟨"--verbose", .verbose, false⟩, ⟨"-v", .verbose, false⟩, ⟨"--debug", .debug, false⟩,
    ⟨"--version", .version, false⟩, ⟨"--help", .help, false⟩]

/-! ## Options of commands -/

/-- The options behind a command. -/
inductive CommandKey where
  | output
  | format
  | extension
  | development
  | production
  | help
deriving DecidableEq, Repr

/-- The options of compiling by name. -/
def compileSpecs : List (OptionSpec CommandKey) :=
  [⟨"--output", .output, true⟩, ⟨"-o", .output, true⟩, ⟨"--format", .format, true⟩,
    ⟨"-f", .format, true⟩, ⟨"--markdown-extension", .extension, true⟩, ⟨"-x", .extension, true⟩,
    ⟨"--development", .development, false⟩, ⟨"--production", .production, false⟩,
    ⟨"--help", .help, false⟩]

/-- The options of listing extensions by name. -/
def extensionsSpecs : List (OptionSpec CommandKey) :=
  [⟨"--format", .format, true⟩, ⟨"-f", .format, true⟩, ⟨"--help", .help, false⟩]

/-- The values given for a key, in order. -/
def valuesOf (key : CommandKey) (options : List (CommandKey × String)) : List String :=
  (options.filter fun option => option.1 = key).map Prod.snd

/-- The format that the last value for it names, without regard to letter case. -/
def formatOf (options : List (CommandKey × String)) :
    Except UsageProblem (Option DocumentFormat) :=
  match (valuesOf .format options).getLast? with
  | none => .ok none
  | some text =>
    match DocumentFormat.ofName? (String.ofList (Text.lowerAscii text.toList)) with
    | some format => .ok (some format)
    | none => .error (.badChoice text)

/-- Whether the last switch of the two asks for development. -/
def developmentOf (options : List (CommandKey × String)) : Bool :=
  let switches := options.filter fun option =>
    option.1 = .development || option.1 = .production
  (switches.getLast?.map fun option => decide (option.1 = .development)).getD false

/-- Compiling as it is asked for. -/
structure CompileRequest where
  input : String
  output : Option String
  format : Option DocumentFormat
  extensions : List String
  development : Bool
deriving DecidableEq, Repr

/-- What a command line asks for. -/
inductive Request where
  | help
  | version
  | compile (request : CompileRequest)
  | extensions (format : Option DocumentFormat)
deriving DecidableEq, Repr

/-- Read the arguments of compiling. -/
def compileRequest (arguments : List String) : Except UsageProblem Request := do
  let scanned ← scan compileSpecs true (arguments.length + 1) arguments
  if scanned.options.any fun option => option.1 = .help then return .help
  let format ← formatOf scanned.options
  match scanned.arguments with
  | [] => throw .missingInput
  | [input] =>
    return .compile
      { input
        output := (valuesOf .output scanned.options).getLast?
        format
        extensions := valuesOf .extension scanned.options
        development := developmentOf scanned.options }
  | _ :: extra :: _ => throw (.extraArgument extra)

/-- Read the arguments of listing extensions. -/
def extensionsRequest (arguments : List String) : Except UsageProblem Request := do
  let scanned ← scan extensionsSpecs true (arguments.length + 1) arguments
  if scanned.options.any fun option => option.1 = .help then return .help
  let format ← formatOf scanned.options
  match scanned.arguments with
  | [] => return .extensions format
  | extra :: _ => throw (.extraArgument extra)

/-- The first of the options that answer at once. -/
def immediate? (options : List (GlobalKey × String)) : Option Request :=
  options.findSome? fun option =>
    match option.1 with
    | .version => some .version
    | .help => some .help
    | _ => none

/-- What a command line asks for, how much is to be said, and whether failures are
to be shown in full. -/
structure Invocation where
  verbosity : Nat
  debug : Bool
  request : Request
deriving DecidableEq, Repr

/-- Read a command line. -/
def Invocation.ofArguments (arguments : List String) : Except UsageProblem Invocation := do
  if arguments = [] then throw .noArguments
  let scanned ← scan globalSpecs false (arguments.length + 1) arguments
  let keys := scanned.options.map Prod.fst
  let verbosity := keys.count .verbose
  let debug := keys.contains .debug
  match immediate? scanned.options, scanned.arguments with
  | some request, _ => return ⟨verbosity, debug, request⟩
  | none, [] => throw .missingCommand
  | none, command :: rest =>
    if command = "compile" then return ⟨verbosity, debug, ← compileRequest rest⟩
    else if command = "extensions" then return ⟨verbosity, debug, ← extensionsRequest rest⟩
    else throw (.unknownCommand command)

end DocPress.Cli
