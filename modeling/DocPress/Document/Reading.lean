import DocPress.Disk
import DocPress.Document
import DocPress.Text.Encoding
import DocPress.Text.Lines

/-!
# Documents from a disk

A document is read from a path in an encoding, and its line endings are made line
feeds.

Main results:

- `ofAnswer_error`: what the disk refuses is reported with the path.
-/

namespace DocPress

namespace Document

/-- A text that cannot be read in its encoding, as a failure. -/
def encodingFailure : Text.EncodingFault → Failure
  | .bytes fault => .decoding fault
  | .noByteOrder => .raised ⟨.unicode, "UTF-16 stream does not start with BOM"⟩

/-- The document with some bytes as its content. -/
def ofBytes (path : Path) (encoding : String) (bytes : List UInt8) : Except Failure Document :=
  match Text.Encoding.ofName? encoding with
  | none => .error (.encoding encoding)
  | some encoding =>
    match encoding.decode bytes with
    | .error fault => .error (encodingFailure fault)
    | .ok text =>
      .ok { value := .text (String.ofList (Text.unifyEndings text)), path := some path }

/-- The document that a disk's answer makes. -/
def ofAnswer (path : Path) (encoding : String) :
    Except DiskFault (List UInt8) → Except Failure Document
  | .ok bytes => ofBytes path encoding bytes
  | .error fault => .error (.configuration (.unreadable path fault))

/-- What the disk refuses is reported with the path. -/
@[simp] theorem ofAnswer_error (path : Path) (encoding : String) (fault : DiskFault) :
    ofAnswer path encoding (.error fault) = .error (.configuration (.unreadable path fault)) := rfl

/-- Read a document from a disk. -/
def ofFile {m : Type → Type} [Monad m] (disk : Disk m) (path : Path) (encoding : String) :
    m (Except Failure Document) := do
  if '\x00' ∈ path.text then return .error (.value .pathNul)
  return ofAnswer path encoding (← disk.read path)

end Document

end DocPress
