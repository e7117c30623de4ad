import DocPress.Yaml.Cursor

/-!
# Block scalars

Literal and folded texts that indentation delimits.  A heading says how the last
line breaks are treated and, if wanted, how deep the text is indented.
-/

namespace DocPress.Yaml

/-! ## Headings -/

/-- What becomes of the line breaks at the end of a block. -/
inductive Chomping where
  | clip
  | strip
  | keep
deriving DecidableEq, Repr

/-- The treatment that a sign asks for. -/
def Chomping.ofSign? (c : Char) : Option Chomping :=
  if c == '+' then some .keep else if c == '-' then some .strip else none

/-- A sign at the cursor. -/
def chompingSign (cursor : Cursor) : Option Chomping × Cursor :=
  match cursor.peek.bind Chomping.ofSign? with
  | some chomping => (some chomping, cursor.advance)
  | none => (none, cursor)

/-- A digit at the cursor; zero is refused. -/
def indentDigit (cursor : Cursor) : Reading (Option Nat × Cursor) :=
  match cursor.peek with
  | some c =>
    if isDigit c then
      if c == '0' then .error .malformed else .ok (some (c.toNat - 48), cursor.advance)
    else .ok (none, cursor)
  | none => .ok (none, cursor)

/-- A heading: a sign and a digit in either order, either of them optional. -/
def blockHeading (cursor : Cursor) : Reading (Chomping × Option Nat × Cursor) := do
  let (first, cursor) := chompingSign cursor
  let (digit, cursor) ← indentDigit cursor
  let (second, cursor) :=
    if first.isNone && digit.isSome then chompingSign cursor else (none, cursor)
  if endsLineOrSpace cursor.peek then
    return ((first.or second).getD .clip, digit, ← cursor.skipRestOfLine)
  else throw .malformed

/-! ## Indentation -/

/-- The line breaks before the first line with ink, the deepest column of a
blank on the way, and the place reached. -/
def leadingBreaks : Nat → Nat → Cursor → List Char × Nat × Cursor
  | 0, deepest, cursor => ([], deepest, cursor)
  | fuel + 1, deepest, cursor =>
    match cursor.peek with
    | some c =>
      if c == ' ' then
        let cursor := cursor.advance
        leadingBreaks fuel (max deepest cursor.column) cursor
      else if isLineBreak c then
        let (lineBreak, cursor) := cursor.takeBreak
        let (breaks, deepest, cursor) := leadingBreaks fuel deepest cursor
        (lineBreak ++ breaks, deepest, cursor)
      else ([], deepest, cursor)
    | none => ([], deepest, cursor)

/-- Move over the spaces up to a column. -/
def skipIndent (indent : Nat) (cursor : Cursor) : Cursor :=
  let spaces := (cursor.rest.takeWhile (· == ' ')).length
  cursor.advanceBy (min (indent - cursor.column) spaces)

/-- The breaks of blank lines, up to the text of the next line. -/
def blankLines (indent : Nat) : Nat → Cursor → List Char × Cursor
  | 0, cursor => ([], cursor)
  | fuel + 1, cursor =>
    let cursor := skipIndent indent cursor
    if (cursor.peek.map isLineBreak).getD false then
      let (lineBreak, cursor) := cursor.takeBreak
      let (breaks, cursor) := blankLines indent fuel cursor
      (lineBreak ++ breaks, cursor)
    else ([], cursor)

/-! ## Lines -/

/-- The lines of a block as they are gathered: the text so far, the last line
break, and the breaks of blank lines after it. -/
structure BlockLines where
  text : List Char
  lastBreak : List Char
  breaks : List Char
  cursor : Cursor

/-- What stands between two lines of a block: when folding, a single break
between lines that start with ink is a space, and more breaks lose one. -/
def betweenLines (folded inkBefore inkAfter : Bool) (lineBreak breaks : List Char) : List Char :=
  if folded && lineBreak == ['\n'] && inkBefore && inkAfter then
    if breaks = [] then [' '] else []
  else lineBreak

/-- Whether the character at the cursor is neither space nor tab. -/
def inkAt (cursor : Cursor) : Bool :=
  (cursor.peek.map fun c => !isSpaceOrTab c).getD true

/-- Gather the lines of a block that is indented to a column. -/
def blockLines (folded : Bool) (indent : Nat) : Nat → BlockLines → BlockLines
  | 0, lines => lines
  | fuel + 1, lines =>
    if lines.cursor.column == indent && lines.cursor.peek.isSome then
      let inkBefore := inkAt lines.cursor
      let (run, cursor) := lines.cursor.take fun c => !isLineBreak c
      let (lineBreak, cursor) := cursor.takeBreak
      let (breaks, cursor) := blankLines indent (fuel + 1) cursor
      let text := lines.text ++ lines.breaks ++ run
      if cursor.column == indent && cursor.peek.isSome then
        blockLines folded indent fuel
          ⟨text ++ betweenLines folded inkBefore (inkAt cursor) lineBreak breaks, lineBreak,
            breaks, cursor⟩
      else ⟨text, lineBreak, breaks, cursor⟩
    else lines

/-- A block scalar behind its indicator, inside a block of a given indentation. -/
def blockText (folded : Bool) (outer : Int) (cursor : Cursor) : Reading (List Char × Cursor) := do
  let fuel := cursor.rest.length + 1
  let (chomping, digit, cursor) ← blockHeading cursor.advance
  let least := (outer + 1).toNat.max 1
  let (indent, breaks, cursor) :=
    match digit with
    | none =>
      let (breaks, deepest, cursor) := leadingBreaks fuel 0 cursor
      (max least deepest, breaks, cursor)
    | some extra =>
      let indent := least + extra - 1
      let (breaks, cursor) := blankLines indent fuel cursor
      (indent, breaks, cursor)
  let lines := blockLines folded indent fuel ⟨[], [], breaks, cursor⟩
  let tail := match chomping with
    | .strip => []
    | .clip => lines.lastBreak
    | .keep => lines.lastBreak ++ lines.breaks
  return (lines.text ++ tail, lines.cursor)

end DocPress.Yaml
