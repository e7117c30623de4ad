import DocPress.DocumentFormat
import DocPress.Value

/-!
# Compile options

The options of a compilation: which formats and extensions are recognised, which
engine extensions are on, how the output is shaped, and which plugins follow.

Main results:

- `withFormat_eq_self_iff`: pinning the format that is pinned already changes nothing.
-/

namespace DocPress

/-- What the caller says about the format: to be found out, or one of the two. -/
inductive FormatChoice where
  | detect
  | pinned (format : DocumentFormat)
deriving DecidableEq, Repr

/-- The name of a choice. -/
def FormatChoice.name : FormatChoice → String
  | .detect => "detect"
  | .pinned format => format.name

/-- The choice with a name. -/
def FormatChoice.ofName? (name : String) : Option FormatChoice :=
  if name = "detect" then some .detect
  else (DocumentFormat.ofName? name).map .pinned

/-- The shape of the compiled output. -/
inductive OutputShape where
  | program
  | functionBody
deriving DecidableEq, Repr

/-- The name of a shape. -/
def OutputShape.name : OutputShape → String
  | .program => "program"
  | .functionBody => "function-body"

/-- The shape with a name. -/
def OutputShape.ofName? (name : String) : Option OutputShape :=
  if name = "program" then some .program
  else if name = "function-body" then some .functionBody
  else none

/-- The options of a compilation. -/
structure Options where
  format : Option FormatChoice := none
  mdExtensions : Option (List String) := none
  mdxExtensions : Option (List String) := none
  markdownExtensions : List String := []
  development : Bool := false
  outputShape : OutputShape := .program
  providerImportSource : Option String := none
  plugins : List Callable := []
deriving DecidableEq, Repr

namespace Options

/-! ## Formats -/

/-- The format that the options pin, if they pin one. -/
def pinnedFormat? (options : Options) : Option DocumentFormat :=
  match options.format with
  | some (.pinned format) => some format
  | _ => none

/-- The file extensions under which a format's documents are known. -/
def active (options : Options) : DocumentFormat → List String
  | .md => options.mdExtensions.getD DocumentFormat.md.extensions
  | .mdx => options.mdxExtensions.getD DocumentFormat.mdx.extensions

/-- The file extensions of the documents that the options let through. -/
def advertised (options : Options) : List String :=
  match options.pinnedFormat? with
  | some format => options.active format
  | none => options.active .md ++ options.active .mdx

/-- The options with the format pinned. -/
def withFormat (options : Options) (format : DocumentFormat) : Options :=
  { options with format := some (.pinned format) }

@[simp] theorem pinnedFormat?_withFormat (options : Options) (format : DocumentFormat) :
    (options.withFormat format).pinnedFormat? = some format := rfl

@[simp] theorem active_withFormat (options : Options) (format other : DocumentFormat) :
    (options.withFormat format).active other = options.active other := by
  cases other <;> rfl

@[simp] theorem advertised_withFormat (options : Options) (format : DocumentFormat) :
    (options.withFormat format).advertised = options.active format := by
  simp [advertised]

@[simp] theorem withFormat_withFormat (options : Options) (format other : DocumentFormat) :
    (options.withFormat format).withFormat other = options.withFormat other := rfl

/-- Pinning the format that is pinned already changes nothing. -/
theorem withFormat_eq_self_iff {options : Options} {format : DocumentFormat} :
    options.withFormat format = options ↔ options.pinnedFormat? = some format := by
  obtain ⟨choice, _, _, _, _, _, _, _⟩ := options
  rcases choice with _ | _ | _ <;> simp [withFormat, pinnedFormat?, eq_comm]

/-! ## Fields -/

/-- A list of texts as a value. -/
def textTuple (texts : List String) : Value :=
  .tuple (texts.map .text)

/-- The options as a mapping of their fields, in the order of declaration. -/
def toMapping (options : Options) : Mapping :=
  let optional : Option Value → Value := fun value => value.getD .none
  [ (.text "format", optional (options.format.map fun choice => .text choice.name)),
    (.text "md_extensions", optional (options.mdExtensions.map textTuple)),
    (.text "mdx_extensions", optional (options.mdxExtensions.map textTuple)),
    (.text "markdown_extensions", textTuple options.markdownExtensions),
    (.text "development", .bool options.development),
    (.text "output_format", .text options.outputShape.name),
    (.text "provider_import_source", optional (options.providerImportSource.map .text)),
    (.text "plugins", .tuple (options.plugins.map .callable)) ]

end Options

end DocPress
