import DocPress.Failure
import DocPress.Value.Printer

/-!
# Documents

A document is its content with an optional path, a mapping of data that
compiling fills, and notes.  Callers may give a text, bytes, a mapping of the
document's fields, or a document.

Main results:

- `ofInput_existing`: a document is taken as it is.
- `text_text`: the text of a text document is its value.
-/

namespace DocPress

/-- A document.  Its content and notes come from the caller and may be anything. -/
structure Document where
  value : Value := .text ""
  path : Option Path := none
  data : Mapping := []
  messages : List Value := []
deriving Inhabited

namespace Document

/-! ## Reading off -/

/-- The extension by which the document is known. -/
def extname? (document : Document) : Option String :=
  document.path.bind Path.extname?

/-- The last name of the path without its suffix. -/
def stem? (document : Document) : Option String :=
  document.path.map fun path => String.ofList path.stem

/-- The content, bytes read as UTF-8. -/
def text (document : Document) : Except Text.DecodeFault Value :=
  match document.value with
  | .bytes b => (Text.decode b).map fun text => .text (String.ofList text)
  | value => .ok value

@[simp] theorem text_text (s : String) (path : Option Path) (data : Mapping)
    (messages : List Value) :
    text ⟨.text s, path, data, messages⟩ = .ok (.text s) := rfl

/-- Attach a note. -/
def note (document : Document) (text : String) : Document :=
  { document with messages := document.messages ++ [.text text] }

/-! ## Building -/

/-- The names of the fields. -/
def fieldNames : List String :=
  ["value", "path", "data", "messages"]

/-- Read a path field. -/
def readPath : Value → Except ValueFault (Option Path)
  | .none => .ok none
  | .text s => .ok (some (Path.ofString s))
  | .bytes _ => .error .pathBytes
  | value => .error (.pathType value.typeName)

/-- A value, or something empty in place of what does not count as true. -/
def orEmpty (value empty : Value) : Value :=
  if value.isTruthy then value else empty

/-- Whether a key names a field. -/
def isFieldKey : Value → Bool
  | .text name => fieldNames.contains name
  | _ => false

/-- Text order by code points. -/
def textLe (a b : String) : Bool :=
  !decide (b < a)

/-- Build a document from a mapping of its fields. -/
def ofMapping (m : Mapping) : Except Failure Document := do
  let unknown := (m.keys.filter fun key => !isFieldKey key).map Value.display
  if unknown ≠ [] then
    throw (.configuration (.documentFields (unknown.mergeSort textLe)))
  let data ← ((orEmpty (m.getText "data") (.map [])).toMapping).mapError Failure.value
  let messages ← ((orEmpty (m.getText "messages") (.list [])).toList).mapError Failure.value
  let path ← (readPath (m.getText "path")).mapError Failure.value
  return ⟨(m.get? (.text "value")).getD (.text ""), path, data, messages⟩

/-- What a caller gives as a document: a document, or a value. -/
inductive Input where
  | existing (document : Document)
  | value (value : Value)

/-- The document that a caller means; nothing means the empty document. -/
def ofInput : Input → Except Failure Document
  | .existing document => .ok document
  | .value .none => .ok {}
  | .value (.text s) => .ok { value := .text s }
  | .value (.bytes b) => .ok { value := .bytes b }
  | .value (.map entries) => ofMapping entries
  | .value value => .error (.configuration (.documentType value.typeName))

@[simp] theorem ofInput_existing (document : Document) :
    ofInput (.existing document) = .ok document := rfl

end Document

end DocPress
