import DocPress.Text.Utf8
import DocPress.Yaml.Cursor

/-!
# Properties of nodes and directives

Anchors, tags and directives: the tokens that say something about the nodes
that follow.
-/

namespace DocPress.Yaml

/-! ## Names -/

/-- What may follow a name of an anchor or alias. -/
def endsAnchor : Option Char → Bool
  | none => true
  | some c =>
    isLineBreak c || isSpaceOrTab c || ['?', ':', ',', ']', '\x7d', '%', '@', '\x60'].contains c

/-- The name of an anchor or alias, behind its indicator. -/
def anchorName (cursor : Cursor) : Reading (List Char × Cursor) :=
  let (name, cursor) := cursor.advance.take isNameChar
  if name = [] || !endsAnchor cursor.peek then .error .malformed else .ok (name, cursor)

/-! ## Tags -/

/-- The characters of tags. -/
def isUriChar (c : Char) : Bool :=
  isAlphanumeric c ||
    ['-', ';', '/', '?', ':', '@', '&', '=', '+', '$', ',', '_', '.', '!', '~', '*', '\'', '(',
      ')', '[', ']', '%'].contains c

/-- The bytes that escapes in a row stand for, with what follows them. -/
def uriEscapes : List Char → Option (List UInt8 × List Char)
  | '%' :: a :: b :: rest =>
    match hexValue? a, hexValue? b with
    | some high, some low =>
      (uriEscapes rest).map fun (bytes, rest) => (UInt8.ofNat (high * 16 + low) :: bytes, rest)
    | _, _ => none
  | '%' :: _ => none
  | rest => some ([], rest)

/-- The text of a tag, escapes resolved, with a bound on the number of runs. -/
def uriRuns : Nat → List Char → Reading (List Char)
  | 0, _ => .ok []
  | fuel + 1, text =>
    let run := text.takeWhile (· != '%')
    match text.dropWhile (· != '%') with
    | [] => .ok run
    | rest =>
      match uriEscapes rest with
      | none => .error .malformed
      | some (bytes, rest) =>
        match Text.decode bytes with
        | .error _ => .error .malformed
        | .ok decoded => (uriRuns fuel rest).map fun tail => run ++ decoded ++ tail

/-- A tag's text at the cursor; it must not be empty. -/
def tagUri (cursor : Cursor) : Reading (List Char × Cursor) :=
  let (raw, cursor) := cursor.take isUriChar
  if raw = [] then .error .malformed
  else (uriRuns (raw.length + 1) raw).map fun text => (text, cursor)

/-- A tag handle at the cursor: an exclamation mark, or a name between two. -/
def tagHandle (cursor : Cursor) : Reading (List Char × Cursor) :=
  if !cursor.isAt '!' then .error .malformed
  else
    let cursor := cursor.advance
    if cursor.isAt ' ' then .ok (['!'], cursor)
    else
      let (name, cursor) := cursor.take isNameChar
      if cursor.isAt '!' then .ok ('!' :: name ++ ['!'], cursor.advance) else .error .malformed

/-- Whether a tag at the cursor, behind its first mark, has a second one. -/
def hasSecondMark (cursor : Cursor) : Bool :=
  (cursor.rest.takeWhile fun c => !endsLineOrSpace (some c)).contains '!'

/-- A tag at the cursor. -/
def tagToken (cursor : Cursor) : Reading (Token × Cursor) := do
  let inner := cursor.advance
  let (token, cursor) ←
    if inner.isAt '<' then do
      let (uri, cursor) ← tagUri inner.advance
      if !cursor.isAt '>' then throw .malformed
      pure (Token.tag none uri, cursor.advance)
    else if endsWord inner.peek then pure (Token.tag none ['!'], inner)
    else do
      let (handle, cursor) ←
        if hasSecondMark inner then tagHandle cursor else pure (['!'], inner)
      let (suffix, cursor) ← tagUri cursor
      pure (Token.tag (some handle) suffix, cursor)
  if endsLineOrSpace cursor.peek then return (token, cursor) else throw .malformed

/-! ## Directives -/

/-- A number at the cursor, of at most 4300 digits. -/
def versionNumber (cursor : Cursor) : Reading (Nat × Cursor) :=
  let (digits, cursor) := cursor.take isDigit
  if digits = [] then .error .malformed
  else if 4300 < digits.length then .error (.scalar (.tooManyDigits digits.length))
  else .ok (digits.foldl (fun n c => n * 10 + (c.toNat - 48)) 0, cursor)

/-- The two numbers of a version directive. -/
def versionDirective (cursor : Cursor) : Reading (Token × Cursor) := do
  let (major, cursor) ← versionNumber (cursor.skip (· == ' '))
  if !cursor.isAt '.' then throw .malformed
  let (minor, cursor) ← versionNumber cursor.advance
  if endsLineOrSpace cursor.peek then return (.version major minor, cursor) else throw .malformed

/-- The handle and the text of a tag directive. -/
def handleDirective (cursor : Cursor) : Reading (Token × Cursor) := do
  let (handle, cursor) ← tagHandle (cursor.skip (· == ' '))
  if !cursor.isAt ' ' then throw .malformed
  let (uri, cursor) ← tagUri (cursor.skip (· == ' '))
  if endsLineOrSpace cursor.peek then return (.tagHandle handle uri, cursor) else throw .malformed

/-- A directive at the cursor, to the end of its line. -/
def directive (cursor : Cursor) : Reading (Token × Cursor) := do
  let (name, cursor) := cursor.advance.take isNameChar
  if name = [] || !endsLineOrSpace cursor.peek then throw .malformed
  let (token, cursor) ←
    if name = ['Y', 'A', 'M', 'L'] then versionDirective cursor
    else if name = ['T', 'A', 'G'] then handleDirective cursor
    else pure (Token.otherDirective, cursor.skip fun c => !isLineBreak c)
  let cursor ← cursor.skipRestOfLine
  return (token, cursor)

end DocPress.Yaml
