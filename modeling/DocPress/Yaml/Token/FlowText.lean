import DocPress.Yaml.Cursor

/-!
# Quoted and plain scalars

Texts that run over line breaks by folding them: a break between two lines is a
space, and of several breaks one is dropped.
-/

namespace DocPress.Yaml

/-! ## Quoted scalars -/

/-- The character that a letter behind a backslash stands for. -/
def escapeOf? (c : Char) : Option Char :=
  let table : List (Char × Nat) :=
    [('0', 0), ('a', 7), ('b', 8), ('t', 9), ('\t', 9), ('n', 10), ('v', 11), ('f', 12),
      ('r', 13), ('e', 27), (' ', 32), ('"', 34), ('\\', 92), ('/', 47), ('N', 0x85),
      ('_', 0xA0), ('L', 0x2028), ('P', 0x2029)]
  (table.find? fun entry => entry.1 == c).map fun entry => Char.ofNat entry.2

/-- How many hexadecimal digits follow a letter behind a backslash. -/
def escapeWidth? (c : Char) : Option Nat :=
  if c == 'x' then some 2 else if c == 'u' then some 4 else if c == 'U' then some 8 else none

/-- The line breaks of blank lines inside a quoted scalar, blanks dropped. -/
def quotedBreaks : Nat → Cursor → Reading (List Char × Cursor)
  | 0, cursor => .ok ([], cursor)
  | fuel + 1, cursor =>
    if cursor.atDocumentMark then .error .malformed
    else
      let cursor := cursor.skip isSpaceOrTab
      if (cursor.peek.map isLineBreak).getD false then do
        let (lineBreak, cursor) := cursor.takeBreak
        let (breaks, cursor) ← quotedBreaks fuel cursor
        return (lineBreak ++ breaks, cursor)
      else .ok ([], cursor)

/-- Line breaks folded: a single one is a space, of several one is dropped. -/
def folded (lineBreak breaks : List Char) : List Char :=
  if lineBreak != ['\n'] then lineBreak ++ breaks
  else if breaks = [] then [' ']
  else breaks

/-- The character of a number below `0x110000`.  Surrogates have numbers but are no
characters: texts that hold them are left out here, and the replacement character stands
in for one. -/
def characterOf (code : Nat) : Char :=
  if code.isValidChar then Char.ofNat code else '\ufffd'

/-- What follows a backslash in a double-quoted scalar. -/
def quotedEscape (fuel : Nat) (cursor : Cursor) : Reading (List Char × Cursor) :=
  match cursor.peek with
  | none => .error .malformed
  | some c =>
    match escapeOf? c, escapeWidth? c with
    | some d, _ => .ok ([d], cursor.advance)
    | none, some width =>
      let digits := cursor.advance.rest.take width
      if digits.length = width && digits.all (fun d => (hexValue? d).isSome) then
        let code := digits.foldl (fun n d => n * 16 + (hexValue? d).getD 0) 0
        if code < 0x110000 then .ok ([characterOf code], cursor.advanceBy (width + 1))
        else if code < 0x80000000 then .error (.scalar .characterRange)
        else .error (.scalar .characterOverflow)
      else .error .malformed
    | none, none =>
      if isLineBreak c then quotedBreaks fuel cursor.takeBreak.2 else .error .malformed

/-- A quoted scalar behind its first quote, up to and over its last. -/
def quotedText (double : Bool) : Nat → Cursor → Reading (List Char × Cursor)
  | 0, _ => .error .malformed
  | fuel + 1, cursor =>
    let sign := if double then '"' else '\''
    let emit (text : List Char) (cursor : Cursor) : Reading (List Char × Cursor) :=
      (quotedText double fuel cursor).map fun (tail, cursor) => (text ++ tail, cursor)
    match cursor.peek with
    | none => .error .malformed
    | some c =>
      if !double && c == '\'' && cursor.peekAt 1 == some '\'' then emit [c] (cursor.advanceBy 2)
      else if c == sign then .ok ([], cursor.advance)
      else if double && c == '\\' then do
        let (text, cursor) ← quotedEscape (fuel + 1) cursor.advance
        emit text cursor
      else if isSpaceOrTab c || isLineBreak c then do
        let (blanks, cursor) := cursor.take isSpaceOrTab
        match cursor.peek with
        | none => throw .malformed
        | some next =>
          if isLineBreak next then
            let (lineBreak, cursor) := cursor.takeBreak
            let (breaks, cursor) ← quotedBreaks (fuel + 1) cursor
            emit (folded lineBreak breaks) cursor
          else emit blanks cursor
      else emit [c] cursor.advance

/-! ## Plain scalars -/

/-- The characters that end a plain scalar inside brackets. -/
def isFlowIndicator (c : Char) : Bool :=
  c == ',' || c == '[' || c == ']' || c == '\x7b' || c == '\x7d'

/-- The longest run of a plain scalar without blanks. -/
def plainRun (inFlow : Bool) : List Char → List Char
  | [] => []
  | c :: rest =>
    let next := rest.head?
    if isLineBreak c || isSpaceOrTab c ||
        (c == ':' && (endsWord next || (inFlow && (next.map isFlowIndicator).getD false))) ||
        (inFlow && (isFlowIndicator c || c == '?')) then []
    else c :: plainRun inFlow rest

/-- The line breaks of blank lines inside a plain scalar, spaces dropped; nothing
if a mark that parts documents is met. -/
def plainBreaks : Nat → Cursor → Option (List Char) × Cursor
  | 0, cursor => (some [], cursor)
  | fuel + 1, cursor =>
    let cursor := cursor.skip (· == ' ')
    if (cursor.peek.map isLineBreak).getD false then
      let (lineBreak, cursor) := cursor.takeBreak
      if cursor.atDocumentMark then (none, cursor)
      else
        let (breaks, cursor) := plainBreaks fuel cursor
        (breaks.map (lineBreak ++ ·), cursor)
    else (some [], cursor)

/-- What lies between two runs of a plain scalar, and whether it has a line break;
nothing if the scalar ends there. -/
structure PlainGap where
  text : List Char
  broken : Bool
  cursor : Cursor

/-- The gap at the cursor. -/
def plainGap (fuel : Nat) (cursor : Cursor) : PlainGap :=
  let (spaces, cursor) := cursor.take (· == ' ')
  if (cursor.peek.map isLineBreak).getD false then
    let (lineBreak, cursor) := cursor.takeBreak
    if cursor.atDocumentMark then ⟨[], true, cursor⟩
    else
      match plainBreaks fuel cursor with
      | (none, cursor) => ⟨[], true, cursor⟩
      | (some breaks, cursor) => ⟨folded lineBreak breaks, true, cursor⟩
  else ⟨spaces, false, cursor⟩

/-- A plain scalar: its text, whether it ended behind a line break, and the place
reached. -/
structure PlainText where
  text : List Char
  broken : Bool
  cursor : Cursor

/-- A plain scalar at the cursor whose further lines are indented at least to a
column, with the gap before it. -/
def plainText (inFlow : Bool) (indent : Int) : Nat → PlainGap → PlainText
  | 0, gap => ⟨[], gap.broken, gap.cursor⟩
  | fuel + 1, gap =>
    let run := if gap.cursor.isAt '#' then [] else plainRun inFlow gap.cursor.rest
    if run = [] then ⟨[], gap.broken, gap.cursor⟩
    else
      let next := plainGap (fuel + 1) (gap.cursor.advanceBy run.length)
      if next.text = [] || next.cursor.isAt '#' ||
          (!inFlow && (next.cursor.column : Int) < indent) then
        ⟨gap.text ++ run, next.broken, next.cursor⟩
      else
        let tail := plainText inFlow indent fuel next
        ⟨gap.text ++ run ++ tail.text, tail.broken, tail.cursor⟩

end DocPress.Yaml
