/-!
# Kinds of errors

Errors have a kind, and kinds are ordered: a kind is also each of the kinds
above it.

Main results:

- `ErrorKind.self_mem_ancestors`: a kind is one of its own.
-/

namespace DocPress

/-- The kinds of errors that the library reports or passes on. -/
inductive ErrorKind where
  | compile
  | configuration
  | construction
  | processing
  | conversion
  | validation
  | value
  | unicode
  | unicodeDecode
  | type
  | attribute
  | lookup
  | key
  | index
  | arithmetic
  | overflow
  | runtime
  | moduleNotFound
  | system
  | fileNotFound
  | fileExists
  | notADirectory
  | isADirectory
  | permission
  | interrupt
  | general
  | base
  | object
deriving DecidableEq, Repr

namespace ErrorKind

/-- The name of a kind in reports. -/
def name : ErrorKind → String
  | .compile => "MdxCompileError"
  | .configuration => "ConfigurationError"
  | .construction => "PipelineConstructionError"
  | .processing => "ProcessingError"
  | .conversion => "MarkdownConversionError"
  | .validation => "ValidationError"
  | .value => "ValueError"
  | .unicode => "UnicodeError"
  | .unicodeDecode => "UnicodeDecodeError"
  | .type => "TypeError"
  | .attribute => "AttributeError"
  | .lookup => "LookupError"
  | .key => "KeyError"
  | .index => "IndexError"
  | .arithmetic => "ArithmeticError"
  | .overflow => "OverflowError"
  | .runtime => "RuntimeError"
  | .moduleNotFound => "ModuleNotFoundError"
  | .system => "OSError"
  | .fileNotFound => "FileNotFoundError"
  | .fileExists => "FileExistsError"
  | .notADirectory => "NotADirectoryError"
  | .isADirectory => "IsADirectoryError"
  | .permission => "PermissionError"
  | .interrupt => "KeyboardInterrupt"
  | .general => "Exception"
  | .base => "BaseException"
  | .object => "object"

/-- The kinds that every ordinary error is. -/
def generalTail : List ErrorKind :=
  [.general, .base, .object]

/-- The kinds that an error of a kind is, nearest first. -/
def ancestors : ErrorKind → List ErrorKind
  | .compile => .compile :: .runtime :: generalTail
  | .configuration => .configuration :: .compile :: .runtime :: .value :: generalTail
  | .construction => .construction :: .compile :: .runtime :: generalTail
  | .processing => .processing :: .compile :: .runtime :: generalTail
  | .conversion => .conversion :: .processing :: .compile :: .runtime :: generalTail
  | .validation => .validation :: .value :: generalTail
  | .value => .value :: generalTail
  | .unicode => .unicode :: .value :: generalTail
  | .unicodeDecode => .unicodeDecode :: .unicode :: .value :: generalTail
  | .type => .type :: generalTail
  | .attribute => .attribute :: generalTail
  | .lookup => .lookup :: generalTail
  | .key => .key :: .lookup :: generalTail
  | .index => .index :: .lookup :: generalTail
  | .arithmetic => .arithmetic :: generalTail
  | .overflow => .overflow :: .arithmetic :: generalTail
  | .runtime => .runtime :: generalTail
  | .moduleNotFound => .moduleNotFound :: generalTail
  | .system => .system :: generalTail
  | .fileNotFound => .fileNotFound :: .system :: generalTail
  | .fileExists => .fileExists :: .system :: generalTail
  | .notADirectory => .notADirectory :: .system :: generalTail
  | .isADirectory => .isADirectory :: .system :: generalTail
  | .permission => .permission :: .system :: generalTail
  | .interrupt => [.interrupt, .base, .object]
  | .general => generalTail
  | .base => [.base, .object]
  | .object => [.object]

/-- Whether an error of one kind is also of another. -/
def isA (kind other : ErrorKind) : Bool :=
  kind.ancestors.contains other

/-- A kind is one of its own. -/
theorem self_mem_ancestors (kind : ErrorKind) : kind ∈ kind.ancestors := by
  cases kind <;> decide

end ErrorKind

end DocPress
