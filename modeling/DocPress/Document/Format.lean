import DocPress.Document
import DocPress.Options.Validation

/-!
# The format of a document

A document's format is the one that its options pin; otherwise its extension
decides, plain Markdown first.

Main results:

- `detectFormat_of_pinned`: a pinned format holds for every document.
- `detectFormat_eq_ok_iff`: without one the extension decides.
- `resolve_eq_ok_iff`: resolving pins the format and changes no other option.
-/

namespace DocPress

/-- The format under which an extension is known. -/
def Options.formatOf? (options : Options) (extension : String) : Option DocumentFormat :=
  if extension ∈ options.active .md then some .md
  else if extension ∈ options.active .mdx then some .mdx
  else none

namespace Document

/-- The format of a document, or why it has none. -/
def detectFormat (document : Document) (options : Options) : Except Failure DocumentFormat :=
  match options.pinnedFormat? with
  | some format => .ok format
  | none =>
    match document.extname?.bind options.formatOf? with
    | some format => .ok format
    | none =>
      match document.path with
      | none => .error (.configuration .formatUnknown)
      | some path =>
        .error (.configuration
          (.extensionUnknown document.extname? path options.advertised))

/-- A pinned format holds for every document. -/
theorem detectFormat_of_pinned (document : Document) {options : Options}
    {format : DocumentFormat} (h : options.pinnedFormat? = some format) :
    document.detectFormat options = .ok format := by
  simp [detectFormat, h]

/-- Without a pinned format the extension decides. -/
theorem detectFormat_eq_ok_iff {document : Document} {options : Options}
    {format : DocumentFormat} (h : options.pinnedFormat? = none) :
    document.detectFormat options = .ok format ↔
      document.extname?.bind options.formatOf? = some format := by
  unfold detectFormat
  rw [h]
  dsimp only
  cases document.extname?.bind options.formatOf? with
  | some found => simp
  | none => cases document.path <;> simp

/-- Finding no format is a failure of configuration. -/
theorem detectFormat_cases (document : Document) (options : Options) :
    (∃ format, document.detectFormat options = .ok format) ∨
      ∃ fault, document.detectFormat options = .error (.configuration fault) := by
  unfold detectFormat
  cases options.pinnedFormat? with
  | some format => exact .inl ⟨format, rfl⟩
  | none =>
    dsimp only
    cases document.extname?.bind options.formatOf? with
    | some format => exact .inl ⟨format, rfl⟩
    | none => cases document.path <;> exact .inr ⟨_, rfl⟩

/-- A document together with options that pin its format. -/
structure Resolved where
  document : Document
  options : Options

/-- The document and the options that a caller means, the format pinned. -/
def resolve (input : Input) (options : Options.Input) : Except Failure Resolved := do
  let options ← Options.ofInput options
  let document ← ofInput input
  let format ← document.detectFormat options
  return ⟨document, options.withFormat format⟩

/-- Resolving gives the document that is meant together with options that differ
from those that are meant in the format alone. -/
theorem resolve_eq_ok_iff {input : Input} {options : Options.Input} {resolved : Resolved} :
    resolve input options = .ok resolved ↔
      ∃ base format, Options.ofInput options = .ok base ∧ ofInput input = .ok resolved.document ∧
        resolved.document.detectFormat base = .ok format ∧
        resolved.options = base.withFormat format := by
  obtain ⟨document, pinned⟩ := resolved
  unfold resolve
  cases ho : Options.ofInput options with
  | error failure => simp [bind, Except.bind]
  | ok base =>
    cases hd : ofInput input with
    | error failure => simp [bind, Except.bind]
    | ok found =>
      cases hf : found.detectFormat base with
      | error failure =>
        simp only [bind, Except.bind, hf, reduceCtorEq, false_iff]
        rintro ⟨base', format, hbase, hdocument, hformat, -⟩
        cases hbase
        cases hdocument
        rw [hf] at hformat
        cases hformat
      | ok format =>
        simp only [bind, Except.bind, hf, pure, Except.pure, Except.ok.injEq, Resolved.mk.injEq]
        constructor
        · rintro ⟨rfl, rfl⟩
          exact ⟨base, format, rfl, rfl, hf, rfl⟩
        · rintro ⟨base', format', rfl, rfl, hformat, rfl⟩
          rw [hf] at hformat
          cases hformat
          exact ⟨rfl, rfl⟩

/-- Options that are there already are resolved to themselves, the format pinned. -/
theorem options_of_resolve {input : Input} {options : Options} {resolved : Resolved}
    (h : resolve input (.existing options) = .ok resolved) :
    ∃ format, resolved.document.detectFormat options = .ok format ∧
      resolved.options = options.withFormat format := by
  obtain ⟨base, format, hbase, -, hformat, hoptions⟩ := resolve_eq_ok_iff.1 h
  cases hbase
  exact ⟨format, hformat, hoptions⟩

end Document

end DocPress
