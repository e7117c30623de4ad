import DocPress.ExtensionNames
import DocPress.Failure
import DocPress.Options
import DocPress.Text.Encoding
import DocPress.Text.Search
import DocPress.Value.Printer

/-!
# Checking options

Options come as a mapping of unknown content.  Every field is read by itself; all
problems are collected, those of known fields in the order of declaration and
then those of other keys in the order of the mapping.  Values are data: looking at
their elements runs nobody's code, so reading a field comes to an end and raises nothing.

Main results:

- `read_eq_ok_iff`: options are read exactly if there is no problem.
- `ofInput_map`: a mapping is accepted, or refused with all its problems.
-/

namespace DocPress

/-! ## Reading one field -/

/-- The outcome of reading one field: its value, or its problems, each with the
place inside the field. -/
abbrev FieldReading (α : Type) := Except (List OptionIssue) α

namespace FieldReading

/-- A single problem at the field as a whole. -/
def problem {α : Type} (text : String) : FieldReading α :=
  .error [⟨"", text⟩]

/-- The problems of a reading. -/
def issues {α : Type} : FieldReading α → List OptionIssue
  | .ok _ => []
  | .error issues => issues

/-- The value of a reading, or a default if it has problems. -/
def valueOr {α : Type} (reading : FieldReading α) (default : α) : α :=
  match reading with
  | .ok value => value
  | .error _ => default

@[simp] theorem issues_ok {α : Type} (value : α) : issues (.ok value : FieldReading α) = [] := rfl

@[simp] theorem issues_error {α : Type} (issues : List OptionIssue) :
    FieldReading.issues (.error issues : FieldReading α) = issues := rfl

@[simp] theorem valueOr_ok {α : Type} (value default : α) :
    valueOr (.ok value : FieldReading α) default = value := rfl

end FieldReading

namespace Options

/-- Put an index behind the place of each issue. -/
def atIndex (index : Nat) (issues : List OptionIssue) : List OptionIssue :=
  issues.map fun issue => { issue with location := toString index ++ issue.location }

/-- Read every item of a list, collecting the problems of all. -/
def readItems {α : Type} (readItem : Value → FieldReading α) (index : Nat) :
    List Value → FieldReading (List α)
  | [] => .ok []
  | item :: items =>
    match readItem item, readItems readItem (index + 1) items with
    | .ok value, .ok values => .ok (value :: values)
    | head, tail => .error (atIndex index head.issues ++ tail.issues)

/-- Read a sequence of fixed content, also from a set in the order of its items. -/
def readTuple {α : Type} (readItem : Value → FieldReading α) : Value → FieldReading (List α)
  | .list items => readItems readItem 0 items
  | .tuple items => readItems readItem 0 items
  | .set items => readItems readItem 0 items
  | _ => .problem "Input should be a valid tuple"

/-- Read a text, also from bytes that are the written form of one. -/
def readText : Value → FieldReading String
  | .text s => .ok s
  | .bytes b =>
    match Text.decode b with
    | .ok text => .ok (String.ofList text)
    | .error _ =>
      .problem "Input should be a valid string, unable to parse raw data as a unicode string"
  | _ => .problem "Input should be a valid string"

/-- Read something that may be absent. -/
def readOptional {α : Type} (readSome : Value → FieldReading α) : Value → FieldReading (Option α)
  | .none => .ok none
  | value => (readSome value).map some

/-! ## File extensions -/

/-- Whether a trimmed text is a suffix: a dot in front, no other, something behind. -/
def isSuffix (candidate : List Char) : Bool :=
  2 ≤ candidate.length && Text.startsWith candidate ['.'] && candidate.count '.' == 1

/-- Check one file extension and bring it into its stored form. -/
def checkSuffix (extension : String) : FieldReading String :=
  let candidate := Text.strip extension.toList
  if isSuffix candidate then .ok (String.ofList (Text.lower candidate))
  else
    .problem ("Value error, invalid extension " ++ Text.quotedString extension ++
      ", expected a suffix like '.md'")

/-- Check a list of file extensions; the first that is no suffix is reported. -/
def checkSuffixes (extensions : List String) : FieldReading (List String) :=
  if extensions = [] then .problem "Value error, extension list must not be empty"
  else extensions.mapM checkSuffix

/-- Read a list of file extensions; it is checked only if all items are texts. -/
def readSuffixes (value : Value) : FieldReading (List String) := do
  let extensions ← readTuple readText value
  checkSuffixes extensions

/-! ## The other fields -/

/-- Read the choice of format. -/
def readFormat (value : Value) : FieldReading FormatChoice :=
  match value.text?.bind FormatChoice.ofName? with
  | some choice => .ok choice
  | none => .problem "Input should be 'detect', 'md' or 'mdx'"

/-- Read the output shape. -/
def readShape (value : Value) : FieldReading OutputShape :=
  match value.text?.bind OutputShape.ofName? with
  | some shape => .ok shape
  | none => .problem "Input should be 'program' or 'function-body'"

/-- The first item that is no text. -/
def firstNonText? (items : List Value) : Option Value :=
  items.find? fun item => item.text?.isNone

/-- Read names of engine extensions: nothing, one text, or the texts of anything
that has elements. -/
def readExtensionNames (value : Value) : FieldReading (List String) :=
  match value with
  | .none => .ok []
  | .text s => .ok (ExtensionNames.dedupe (ExtensionNames.split [s]))
  | value =>
    match value.items? with
    | none => .problem "Value error, expected an extension name or a list of names"
    | some items =>
      match firstNonText? items with
      | some item =>
        .problem ("Value error, extension names must be strings, got " ++ item.literal)
      | none =>
        .ok (ExtensionNames.dedupe (ExtensionNames.split (items.filterMap Value.text?)))

/-- Names in a list or a tuple of texts are read as the names in these texts, without
repetitions. -/
theorem readExtensionNames_texts {value : Value} (names : List String)
    (h : value = .list (names.map .text) ∨ value = .tuple (names.map .text)) :
    readExtensionNames value = .ok (ExtensionNames.dedupe (ExtensionNames.split names)) := by
  have htexts : (names.map Value.text).filterMap Value.text? = names := by
    simp [List.filterMap_map, Function.comp_def, Value.text?]
  have hnone : firstNonText? (names.map .text) = none := by
    simp [firstNonText?, Value.text?]
  rcases h with rfl | rfl <;> simp [readExtensionNames, Value.items?, hnone, htexts]

/-- The words for truth. -/
def trueWords : List String :=
  ["1", "on", "t", "true", "y", "yes"]

/-- The words for falsehood. -/
def falseWords : List String :=
  ["0", "off", "f", "false", "n", "no"]

/-- Read a truth value from a word, without regard to letter case. -/
def readTruthWord (text : List Char) : FieldReading Bool :=
  let word := String.ofList (Text.lowerAscii text)
  if word ∈ trueWords then .ok true
  else if word ∈ falseWords then .ok false
  else .problem "Input should be a valid boolean, unable to interpret input"

/-- The numbers of 64 bits with a sign lie below this bound. -/
def longBound : Int := Binary.twoTo 63

/-- Read a truth value from a number; numbers of more than 64 bits are of no use. -/
def readTruthNumber (n : Int) : FieldReading Bool :=
  if n = 0 then .ok false
  else if n = 1 then .ok true
  else if -longBound ≤ n ∧ n < longBound then
    .problem "Input should be a valid boolean, unable to interpret input"
  else .problem "Input should be a valid boolean"

/-- Read a truth value. -/
def readTruth : Value → FieldReading Bool
  | .bool b => .ok b
  | .int n => readTruthNumber n
  | .float x =>
    match Value.integral? x with
    | some n => readTruthNumber n
    | none => .problem "Input should be a valid boolean"
  | .text s => readTruthWord s.toList
  | .bytes b => readTruthWord (Text.decodeLatin1 b)
  | _ => .problem "Input should be a valid boolean"

/-- Read a plugin. -/
def readPlugin : Value → FieldReading Callable
  | .callable callable => .ok callable
  | _ => .problem "Input should be callable"

/-! ## All fields -/

/-- Read the field of a name from a mapping, or take its default. -/
def readField {α : Type} (m : Mapping) (name : String) (default : α)
    (read : Value → FieldReading α) : FieldReading α :=
  match m.get? (.text name) with
  | none => .ok default
  | some value => read value

/-- The problems of a reading, placed at a field. -/
def issuesAt {α : Type} (name : String) (reading : FieldReading α) : List OptionIssue :=
  reading.issues.map fun issue =>
    { issue with
      location := if issue.location = "" then name else name ++ "." ++ issue.location }

/-- The names of the fields, in the order of declaration. -/
def fieldNames : List String :=
  ["format", "md_extensions", "mdx_extensions", "markdown_extensions", "development",
    "output_format", "provider_import_source", "plugins"]

/-- A key that is no text, as a place: truth values count as numbers. -/
def keyLocation : Value → String
  | .bool b => if b then "1" else "0"
  | key => key.literal

/-- The problem of a key that names no field. -/
def unknownIssue? : Value → Option OptionIssue
  | .text name => if name ∈ fieldNames then none else some ⟨name, "Extra inputs are not permitted"⟩
  | key => some ⟨keyLocation key, "Keys should be strings"⟩

/-- The readings of all fields of a mapping. -/
structure Readings where
  format : FieldReading (Option FormatChoice)
  mdExtensions : FieldReading (Option (List String))
  mdxExtensions : FieldReading (Option (List String))
  markdownExtensions : FieldReading (List String)
  development : FieldReading Bool
  outputShape : FieldReading OutputShape
  providerImportSource : FieldReading (Option String)
  plugins : FieldReading (List Callable)
  unknown : List OptionIssue

/-- Read all fields of a mapping. -/
def Readings.of (m : Mapping) : Readings where
  format := readField m "format" none (readOptional readFormat)
  mdExtensions := readField m "md_extensions" none (readOptional readSuffixes)
  mdxExtensions := readField m "mdx_extensions" none (readOptional readSuffixes)
  markdownExtensions := readField m "markdown_extensions" [] readExtensionNames
  development := readField m "development" false readTruth
  outputShape := readField m "output_format" .program readShape
  providerImportSource := readField m "provider_import_source" none (readOptional readText)
  plugins := readField m "plugins" [] (readTuple readPlugin)
  unknown := m.filterMap fun entry => unknownIssue? entry.1

/-- All problems of some readings. -/
def Readings.issues (readings : Readings) : List OptionIssue :=
  issuesAt "format" readings.format ++ issuesAt "md_extensions" readings.mdExtensions ++
    issuesAt "mdx_extensions" readings.mdxExtensions ++
    issuesAt "markdown_extensions" readings.markdownExtensions ++
    issuesAt "development" readings.development ++
    issuesAt "output_format" readings.outputShape ++
    issuesAt "provider_import_source" readings.providerImportSource ++
    issuesAt "plugins" readings.plugins ++ readings.unknown

/-- The options that some readings give, with defaults in place of problems. -/
def Readings.options (readings : Readings) : Options where
  format := readings.format.valueOr none
  mdExtensions := readings.mdExtensions.valueOr none
  mdxExtensions := readings.mdxExtensions.valueOr none
  markdownExtensions := readings.markdownExtensions.valueOr []
  development := readings.development.valueOr false
  outputShape := readings.outputShape.valueOr .program
  providerImportSource := readings.providerImportSource.valueOr none
  plugins := readings.plugins.valueOr []

/-- Read options from a mapping. -/
def read (m : Mapping) : Except (List OptionIssue) Options :=
  let readings := Readings.of m
  if readings.issues = [] then .ok readings.options else .error readings.issues

/-- Options are read exactly if there is no problem. -/
theorem read_eq_ok_iff {m : Mapping} {options : Options} :
    read m = .ok options ↔
      (Readings.of m).issues = [] ∧ (Readings.of m).options = options := by
  unfold read
  by_cases h : (Readings.of m).issues = [] <;> simp [h]

/-! ## Whatever the caller gives -/

/-- What a caller gives as options: options, or a value. -/
inductive Input where
  | existing (options : Options)
  | value (value : Value)

/-- The options that a caller means; nothing means the defaults. -/
def ofInput : Input → Except Failure Options
  | .existing options => .ok options
  | .value .none => .ok {}
  | .value (.map entries) =>
    match read entries with
    | .ok options => .ok options
    | .error issues => .error (.configuration (.options issues))
  | .value value => .error (.configuration (.optionsType value.typeName))

/-- A mapping is accepted without problems, and refused with all its problems. -/
theorem ofInput_map (m : Mapping) :
    ofInput (.value (.map m)) =
      if (Readings.of m).issues = [] then .ok (Readings.of m).options
      else .error (.configuration (.options (Readings.of m).issues)) := by
  by_cases h : (Readings.of m).issues = []
  · simp only [ofInput, read, if_pos h]
  · simp only [ofInput, read, if_neg h]

/-- A mapping is accepted exactly if there is no problem. -/
theorem exists_ofInput_map_iff {m : Mapping} :
    (∃ options, ofInput (.value (.map m)) = .ok options) ↔ (Readings.of m).issues = [] := by
  by_cases h : (Readings.of m).issues = [] <;> simp [ofInput_map, h]

@[simp] theorem ofInput_existing (options : Options) : ofInput (.existing options) = .ok options :=
  rfl

end Options

end DocPress
