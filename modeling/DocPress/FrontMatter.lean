import DocPress.Document
import DocPress.Yaml.Content

/-!
# Front matter

A document may open with a block between a line of three dashes and a line of
three dashes or dots.  If the block is a mapping, it is taken off the document
as its metadata; otherwise the document stays whole.

Main results:

- `splitWith_of_no_block`: without a block the source stays whole.
- `splitWith_of_malformed`: a malformed block stays in the source.
-/

namespace DocPress.FrontMatter

/-! ## Blocks -/

/-- The byte order mark. -/
def byteOrderMark : Char :=
  Char.ofNat 0xFEFF

/-- Whether a line opens a block. -/
def isOpener (line : List Char) : Bool :=
  Text.strip line == ['-', '-', '-']

/-- Whether a line closes a block. -/
def isCloser (line : List Char) : Bool :=
  let line := Text.strip line
  line == ['-', '-', '-'] || line == ['.', '.', '.']

/-- A block: its lines, and the lines behind its closer. -/
structure Block where
  inside : List (List Char)
  behind : List (List Char)
deriving DecidableEq, Repr

/-- The lines up to the first closer and those behind it. -/
def Block.untilCloser : List (List Char) → Option Block
  | [] => none
  | line :: lines =>
    if isCloser line then some ⟨[], lines⟩
    else (untilCloser lines).map fun block => { block with inside := line :: block.inside }

/-- The block at the start of some lines. -/
def Block.ofLines? : List (List Char) → Option Block
  | [] => none
  | line :: lines => if isOpener line then untilCloser lines else none

/-- Inside lines do not close the block. -/
theorem Block.not_isCloser_of_mem_inside {lines : List (List Char)} {block : Block}
    (h : untilCloser lines = some block) : ∀ line ∈ block.inside, isCloser line = false := by
  induction lines generalizing block with
  | nil => simp [untilCloser] at h
  | cons first rest ih =>
    rw [untilCloser] at h
    split at h
    · obtain rfl := Option.some.inj h
      simp
    · rename_i hc
      obtain ⟨inner, hi, rfl⟩ := Option.map_eq_some_iff.1 h
      intro line hl
      rcases List.mem_cons.1 hl with rfl | hl
      · simpa using hc
      · exact ih hi line hl

/-- Lines that do not close, a closer, and what follows it. -/
theorem Block.untilCloser_append {inside behind : List (List Char)} {closer : List Char}
    (hi : ∀ line ∈ inside, isCloser line = false) (hc : isCloser closer = true) :
    untilCloser (inside ++ closer :: behind) = some ⟨inside, behind⟩ := by
  induction inside with
  | nil => simp [untilCloser, hc]
  | cons line rest ih =>
    simp [untilCloser, hi line (by simp), ih fun x hx => hi x (by simp [hx])]

/-! ## Splitting -/

/-- Metadata and the rest of a source. -/
structure Split where
  metadata : Mapping
  body : List Char

/-- The mapping that a value is as metadata: nothing and empty values are the
empty mapping, other values than mappings are none. -/
def metadataOf? (value : Value) : Option Mapping :=
  if value.isTruthy then
    match value with
    | .map entries => some entries
    | _ => none
  else some []

/-- The text behind a block, ending in a line feed exactly if the source does. -/
def bodyOf (source : List Char) (behind : List (List Char)) : List Char :=
  let body := Text.joinLines behind
  if source.getLast? = some '\n' then body ++ ['\n'] else body

/-- The byte order marks at the start of a source. -/
def marks (source : List Char) : List Char :=
  source.takeWhile (· == byteOrderMark)

/-- The block at the start of a source, byte order marks passed over. -/
def block? (source : List Char) : Option Block :=
  Block.ofLines? (Text.splitLines (source.dropWhile (· == byteOrderMark)))

/-- Take the front matter off a source, given how blocks are read. -/
def splitWith (load : List Char → Yaml.Reading Value) (source : List Char) :
    Except Yaml.ScalarFault Split :=
  match block? source with
  | none => .ok ⟨[], source⟩
  | some block =>
    match load (Text.joinLines block.inside) with
    | .error .malformed => .ok ⟨[], source⟩
    | .error (.scalar fault) => .error fault
    | .ok value =>
      match metadataOf? value with
      | none => .ok ⟨[], source⟩
      | some metadata => .ok ⟨metadata, marks source ++ bodyOf source block.behind⟩

/-- Take the front matter off a source. -/
def split (source : List Char) : Except Yaml.ScalarFault Split :=
  splitWith Yaml.load source

/-- Without a block the source stays whole. -/
theorem splitWith_of_no_block (load : List Char → Yaml.Reading Value) {source : List Char}
    (h : block? source = none) : splitWith load source = .ok ⟨[], source⟩ := by
  simp [splitWith, h]

/-- A malformed block stays in the source. -/
theorem splitWith_of_malformed {load : List Char → Yaml.Reading Value} {source : List Char}
    {block : Block} (hb : block? source = some block)
    (hl : load (Text.joinLines block.inside) = .error .malformed) :
    splitWith load source = .ok ⟨[], source⟩ := by
  simp [splitWith, hb, hl]

/-- Take the front matter off whatever a document holds; only texts have lines. -/
def ofValue (value : Value) : Except Failure Split :=
  match value with
  | .text s => (split s.toList).mapError Failure.scalar
  | .bytes _ => .error (.value .bytesForText)
  | value => .error (.value (.noTextOperation value.typeName))

end DocPress.FrontMatter
