import DocPress.Disk.Fault
import DocPress.ErrorGraph
import DocPress.Path
import DocPress.Text.Utf8
import DocPress.Value.Convert
import DocPress.Yaml.Fault

/-!
# Failures

Every way in which preparing, building or compiling can fail, as a cause.  The
kind, the wording and the error behind a failure are functions of the cause.
-/

namespace DocPress

/-! ## Configuration -/

/-- What is wrong with one option, and where. -/
structure OptionIssue where
  location : String
  problem : String
deriving DecidableEq, Repr

/-- What keeps a document or its options from being used. -/
inductive ConfigurationFault where
  | optionsType (typeName : String)
  | options (issues : List OptionIssue)
  | documentFields (names : List String)
  | documentType (typeName : String)
  | unreadable (path : Path) (fault : DiskFault)
  | formatUnknown
  | extensionUnknown (extension : Option String) (path : Path) (known : List String)
  | runtimeField (field : String)
deriving DecidableEq, Repr

/-- A place and a problem; the options as a whole have no place of their own. -/
def OptionIssue.message (issue : OptionIssue) : String :=
  (if issue.location = "" then "options" else issue.location) ++ ": " ++ issue.problem

/-- The wording of a configuration fault. -/
def ConfigurationFault.message : ConfigurationFault → String
  | .optionsType typeName =>
    "Expected compile options as a mapping, got '" ++ typeName ++ "'."
  | .options issues =>
    "Invalid compile options: " ++ "; ".intercalate (issues.map OptionIssue.message)
  | .documentFields names =>
    "Unexpected document fields: " ++ ", ".intercalate names ++
      ". Expected any of value, path, data, messages."
  | .documentType typeName =>
    "Unsupported document input of type '" ++ typeName ++
      "'. Provide text, bytes, a mapping, or a SourceFile."
  | .unreadable path fault =>
    "Unable to read '" ++ path.toString ++ "': " ++ fault.message
  | .formatUnknown =>
    "Cannot determine the format of a document without a path; " ++
      "pass \x60format='md'\x60 or \x60format='mdx'\x60."
  | .extensionUnknown extension path known =>
    "Unsupported document extension '" ++ extension.getD "<none>" ++ "' for '" ++
      path.toString ++ "'. Expected one of: " ++ ", ".intercalate known ++ "."
  | .runtimeField field => "Expected \x60" ++ field ++ "\x60 given to \x60evaluate\x60"

/-! ## All failures -/

/-- An error of a collaborator: an engine, a plugin, a factory. -/
structure Raised where
  kind : ErrorKind
  message : String
deriving DecidableEq, Repr

/-- A failure of the library or of what it calls. -/
inductive Failure where
  | configuration (fault : ConfigurationFault)
  | unresolvedFormat (format : Option String)
  | engineConstruction (reason : Raised)
  | asynchronousPlugins
  | awaitable (plugin : String)
  | undecodable (path : Option Path) (fault : Text.DecodeFault)
  | conversion (reason : Raised)
  | value (fault : ValueFault)
  | decoding (fault : Text.DecodeFault)
  | scalar (fault : Yaml.ScalarFault)
  | encoding (name : String)
  | disk (fault : DiskFault)
  | raised (reason : Raised)
deriving DecidableEq, Repr

namespace Failure

/-- The path of a document in messages. -/
def placeName (path : Option Path) : String :=
  match path with
  | some path => path.toString
  | none => "<memory>"

/-- The kind of a refused value. -/
def valueKind : ValueFault → ErrorKind
  | .pairSize _ _ => .value
  | .pathNul => .value
  | .unknownFormat _ => .value
  | .noTextOperation _ => .attribute
  | _ => .type

/-- The kind of a failure. -/
def kind : Failure → ErrorKind
  | .configuration _ => .configuration
  | .unresolvedFormat _ => .construction
  | .engineConstruction _ => .construction
  | .asynchronousPlugins => .processing
  | .awaitable _ => .processing
  | .undecodable _ _ => .processing
  | .conversion _ => .conversion
  | .value fault => valueKind fault
  | .decoding _ => .unicodeDecode
  | .scalar fault => fault.kind
  | .encoding _ => .lookup
  | .disk fault => fault.reason.kind
  | .raised reason => reason.kind

/-- Whether a failure is one of compiling, as opposed to an error that a
collaborator let through. -/
def isCompileFailure (failure : Failure) : Bool :=
  failure.kind.isA .compile

/-- What a failure says. -/
def wording : Failure → String
  | .configuration fault => fault.message
  | .unresolvedFormat format =>
    "Unexpected \x60format: " ++
      (match format with
        | some name => Text.quotedString name
        | none => "None") ++
      "\x60, which is not supported by \x60create_processor\x60. Expected 'md' or 'mdx'."
  | .engineConstruction reason =>
    "Failed to initialize Markdown processor: " ++ reason.message
  | .asynchronousPlugins =>
    "\x60process_sync\x60 cannot run asynchronous plugins; use \x60process\x60 instead."
  | .awaitable plugin =>
    "Plugin " ++ plugin ++
      " returned an awaitable; use \x60process\x60 for asynchronous plugins."
  | .undecodable path _ => "Document " ++ placeName path ++ " is not valid UTF-8"
  | .conversion reason => "Failed to convert Markdown source: " ++ reason.message
  | .value fault => fault.message
  | .decoding fault => fault.message
  | .scalar fault => fault.message
  | .encoding name => "unknown encoding: " ++ name
  | .disk fault => fault.message
  | .raised reason => reason.message

/-- The text of a failure; failed look-ups say their key between quotes. -/
def message (failure : Failure) : String :=
  if failure.kind = .key then Text.quotedString failure.wording else failure.wording

/-- How many options are at fault, as the heading of a list of them. -/
def issueHeading (count : Nat) : String :=
  toString count ++ " validation error" ++ (if count = 1 then "" else "s") ++
    " for CompileOptions"

/-- The error behind a failure. -/
def cause? : Failure → Option Raised
  | .configuration (.options issues) => some ⟨.validation, issueHeading issues.length⟩
  | .configuration (.unreadable _ fault) => some ⟨fault.reason.kind, fault.message⟩
  | .engineConstruction reason => some reason
  | .undecodable _ fault => some ⟨.unicodeDecode, fault.message⟩
  | .conversion reason => some reason
  | _ => none

/-- A failure and the error behind it as a chain of errors. -/
def graph (failure : Failure) : ErrorGraph :=
  match failure.cause? with
  | none => [⟨failure.kind, some failure.wording, none, none⟩]
  | some reason =>
    [⟨failure.kind, some failure.wording, some 1, none⟩,
      ⟨reason.kind, some reason.message, none, none⟩]

end Failure

/-! ## Success -/

/-- What has given a value has succeeded with it. -/
theorem eq_ok_of_toOption {ε α : Type} {result : Except ε α} {value : α}
    (h : result.toOption = some value) : result = .ok value := by
  cases result with
  | error e => cases h
  | ok found => exact congrArg Except.ok (Option.some.inj h)

end DocPress
