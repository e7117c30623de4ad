import DocPress.Text.Search
import DocPress.Yaml.Fault

/-!
# Places in a text and tokens

A cursor is the rest of a text together with its line and column.  It moves
over characters, blanks and line breaks, and tokens are what is read on its way.

Main results:

- `take_append_rest`: taking a run of characters loses none.
-/

namespace DocPress.Yaml

/-! ## Classes of characters -/

/-- The characters that break lines. -/
def isLineBreak (c : Char) : Bool :=
  c == '\n' || c == '\r' || c == '\x85' || c == Char.ofNat 0x2028 || c == Char.ofNat 0x2029

/-- Spaces and tabs. -/
def isSpaceOrTab (c : Char) : Bool :=
  c == ' ' || c == '\t'

/-- The end of the text or a line break. -/
def endsLine : Option Char → Bool
  | none => true
  | some c => isLineBreak c

/-- The end of the text, a line break or a space. -/
def endsLineOrSpace : Option Char → Bool
  | none => true
  | some c => isLineBreak c || c == ' '

/-- What may follow an indicator: the end of the text, a line break or a blank. -/
def endsWord : Option Char → Bool
  | none => true
  | some c => isLineBreak c || isSpaceOrTab c

/-- Letters and digits of ASCII. -/
def isAlphanumeric (c : Char) : Bool :=
  ('0' ≤ c && c ≤ '9') || ('a' ≤ c && c ≤ 'z') || ('A' ≤ c && c ≤ 'Z')

/-- The characters of names: letters, digits, dash and low line. -/
def isNameChar (c : Char) : Bool :=
  isAlphanumeric c || c == '-' || c == '_'

/-- The decimal digits of ASCII. -/
def isDigit (c : Char) : Bool :=
  '0' ≤ c && c ≤ '9'

/-- The value of a hexadecimal digit. -/
def hexValue? (c : Char) : Option Nat :=
  if '0' ≤ c && c ≤ '9' then some (c.toNat - 48)
  else if 'a' ≤ c && c ≤ 'f' then some (c.toNat - 87)
  else if 'A' ≤ c && c ≤ 'F' then some (c.toNat - 55)
  else none

/-- Whether a character may stand in a text at all. -/
def isAllowed (c : Char) : Bool :=
  let n := c.toNat
  n == 9 || n == 10 || n == 13 || (32 ≤ n && n ≤ 126) || n == 0x85 || (0xA0 ≤ n && n ≤ 0xD7FF) ||
    (0xE000 ≤ n && n ≤ 0xFFFD) || 0x10000 ≤ n

/-! ## Cursors -/

/-- A place in a text: what follows, and where it is. -/
structure Cursor where
  rest : List Char
  index : Nat
  line : Nat
  column : Nat
deriving DecidableEq, Repr

namespace Cursor

/-- The start of a text. -/
def start (text : List Char) : Cursor :=
  ⟨text, 0, 0, 0⟩

/-- The character at the cursor. -/
def peek (cursor : Cursor) : Option Char :=
  cursor.rest.head?

/-- The character some places further. -/
def peekAt (cursor : Cursor) (n : Nat) : Option Char :=
  cursor.rest[n]?

/-- Whether the character at the cursor is a given one. -/
def isAt (cursor : Cursor) (c : Char) : Bool :=
  cursor.peek == some c

/-- Move over one character; the carriage return before a line feed does not end
the line. -/
def advance (cursor : Cursor) : Cursor :=
  match cursor.rest with
  | [] => cursor
  | c :: rest =>
    if isLineBreak c && !(c == '\r' && rest.head? == some '\n') then
      ⟨rest, cursor.index + 1, cursor.line + 1, 0⟩
    else if c == Char.ofNat 0xFEFF then ⟨rest, cursor.index + 1, cursor.line, cursor.column⟩
    else ⟨rest, cursor.index + 1, cursor.line, cursor.column + 1⟩

/-- Move over some characters. -/
def advanceBy (cursor : Cursor) : Nat → Cursor
  | 0 => cursor
  | n + 1 => cursor.advance.advanceBy n

/-- Take the run of characters of a class. -/
def take (cursor : Cursor) (p : Char → Bool) : List Char × Cursor :=
  let run := cursor.rest.takeWhile p
  (run, cursor.advanceBy run.length)

/-- Move over the run of characters of a class. -/
def skip (cursor : Cursor) (p : Char → Bool) : Cursor :=
  (cursor.take p).2

theorem rest_advance (cursor : Cursor) : cursor.advance.rest = cursor.rest.tail := by
  unfold advance
  split
  · simp_all
  · split
    · simp_all
    · split <;> simp_all

theorem rest_advanceBy (cursor : Cursor) (n : Nat) :
    (cursor.advanceBy n).rest = cursor.rest.drop n := by
  induction n generalizing cursor with
  | zero => simp [advanceBy]
  | succ n ih => simp [advanceBy, ih, rest_advance]

/-- Taking a run of characters loses none. -/
theorem take_append_rest (cursor : Cursor) (p : Char → Bool) :
    (cursor.take p).1 ++ (cursor.take p).2.rest = cursor.rest := by
  have h : cursor.rest.drop (cursor.rest.takeWhile p).length = cursor.rest.dropWhile p := by
    induction cursor.rest with
    | nil => rfl
    | cons c rest ih => by_cases hc : p c = true <;> simp [hc, ih]
  simp [take, rest_advanceBy, h]

/-- Move over a line break, if there is one, and give its normal form. -/
def takeBreak (cursor : Cursor) : List Char × Cursor :=
  match cursor.rest with
  | '\r' :: '\n' :: _ => (['\n'], cursor.advanceBy 2)
  | c :: _ =>
    if c == '\n' || c == '\r' || c == '\x85' then (['\n'], cursor.advance)
    else if isLineBreak c then ([c], cursor.advance)
    else ([], cursor)
  | [] => ([], cursor)

/-- Whether a mark that parts documents stands at the cursor. -/
def atDocumentMark (cursor : Cursor) : Bool :=
  (Text.startsWith cursor.rest ['-', '-', '-'] || Text.startsWith cursor.rest ['.', '.', '.']) &&
    endsWord (cursor.peekAt 3)

/-- Move over spaces and a comment. -/
def skipComment (cursor : Cursor) : Cursor :=
  let cursor := cursor.skip (· == ' ')
  if cursor.isAt '#' then cursor.skip (fun c => !isLineBreak c) else cursor

/-- Move over the rest of a line that may hold only a comment. -/
def skipRestOfLine (cursor : Cursor) : Reading Cursor :=
  let cursor := cursor.skipComment
  if endsLine cursor.peek then .ok cursor.takeBreak.2 else .error .malformed

end Cursor

/-! ## Tokens

The tokens of a text: indicators, the block structure that indentation implies,
and the parts of nodes.  A token that stands for a fault is met only if the
tokens before it do not already make the text malformed. -/

/-- A token. -/
inductive Token where
  | version (major minor : Nat)
  | tagHandle (handle : List Char) (uri : List Char)
  | otherDirective
  | documentStart
  | documentEnd
  | blockSequenceStart
  | blockMappingStart
  | blockEnd
  | flowSequenceStart
  | flowSequenceEnd
  | flowMappingStart
  | flowMappingEnd
  | blockEntry
  | flowEntry
  | key
  | value
  | alias (name : List Char)
  | anchor (name : List Char)
  | tag (handle : Option (List Char)) (suffix : List Char)
  | scalar (text : List Char) (plain : Bool)
  | fault (fault : ScalarFault)
deriving DecidableEq, Repr

end DocPress.Yaml
