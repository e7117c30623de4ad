import DocPress.Yaml.Token.BlockText
import DocPress.Yaml.Token.FlowText
import DocPress.Yaml.Token.Property

/-!
# Cutting a text into tokens

Indentation opens and closes blocks.  A token that may turn out to be a key is
remembered until a colon follows it on the same line, not too far away; then the
tokens that mark the key are put in front of it.
-/

namespace DocPress.Yaml

/-! ## State -/

/-- A token that may turn out to be a key: its bracket depth, how many tokens
precede it, its place, and whether the text is malformed if it is no key. -/
structure KeyCandidate where
  depth : Nat
  number : Nat
  required : Bool
  index : Nat
  line : Nat
  column : Nat

/-- The state of cutting.  Tokens are kept latest first; the indentation of the
text as a whole is one less than that of its first column. -/
structure Lexer where
  cursor : Cursor
  depth : Nat := 0
  indent : Int := -1
  outer : List Int := []
  keyAllowed : Bool := true
  candidates : List KeyCandidate := []
  tokens : List Token := []

namespace Lexer

/-- The column as a number that can be compared with indentations. -/
def column (lexer : Lexer) : Int :=
  lexer.cursor.column

/-- Put a token in front of the latest ones, given how many. -/
def putBefore (token : Token) : Nat → List Token → List Token
  | 0, tokens => token :: tokens
  | _ + 1, [] => [token]
  | n + 1, latest :: tokens => latest :: putBefore token n tokens

/-- Add a token. -/
def emit (lexer : Lexer) (token : Token) : Lexer :=
  { lexer with tokens := token :: lexer.tokens }

/-- Move over some characters. -/
def advanceBy (lexer : Lexer) (n : Nat) : Lexer :=
  { lexer with cursor := lexer.cursor.advanceBy n }

/-! ## Indentation -/

/-- Close the blocks that are indented deeper than a column. -/
def closeBlocks (lexer : Lexer) (column : Int) : Lexer :=
  if lexer.depth != 0 then lexer
  else
    let rec go (indent : Int) (outer : List Int) (tokens : List Token) :
        Int × List Int × List Token :=
      match outer with
      | [] => (indent, [], tokens)
      | next :: rest =>
        if column < indent then go next rest (.blockEnd :: tokens) else (indent, outer, tokens)
    let (indent, outer, tokens) := go lexer.indent lexer.outer lexer.tokens
    { lexer with indent, outer, tokens }

/-- Open a block at a column, if it is indented deeper than the current one. -/
def openBlock (lexer : Lexer) (column : Int) : Bool × Lexer :=
  if lexer.indent < column then
    (true, { lexer with indent := column, outer := lexer.indent :: lexer.outer })
  else (false, lexer)

/-! ## Keys -/

/-- The candidate at the current depth. -/
def candidate? (lexer : Lexer) : Option KeyCandidate :=
  lexer.candidates.find? fun candidate => candidate.depth == lexer.depth

/-- Forget the candidate at the current depth. -/
def forget (lexer : Lexer) : Lexer :=
  { lexer with
    candidates := lexer.candidates.filter fun candidate => candidate.depth != lexer.depth }

/-- Give up the candidate at the current depth; a required one is missed. -/
def giveUp (lexer : Lexer) : Reading Lexer :=
  match lexer.candidate? with
  | some candidate => if candidate.required then .error .malformed else .ok lexer.forget
  | none => .ok lexer

/-- Whether a candidate is out of reach: on another line or too far back. -/
def isStale (lexer : Lexer) (candidate : KeyCandidate) : Bool :=
  candidate.line != lexer.cursor.line || 1024 < lexer.cursor.index - candidate.index

/-- Give up the candidates that are out of reach. -/
def giveUpStale (lexer : Lexer) : Reading Lexer :=
  if lexer.candidates.any fun candidate => lexer.isStale candidate && candidate.required then
    .error .malformed
  else
    .ok { lexer with
      candidates := lexer.candidates.filter fun candidate => !lexer.isStale candidate }

/-- Remember the next token as a candidate, where a key may stand. -/
def remember (lexer : Lexer) : Reading Lexer := do
  if !lexer.keyAllowed then return lexer
  let lexer ← lexer.giveUp
  let candidate : KeyCandidate :=
    { depth := lexer.depth
      number := lexer.tokens.length
      required := lexer.depth == 0 && lexer.indent == lexer.column
      index := lexer.cursor.index
      line := lexer.cursor.line
      column := lexer.cursor.column }
  return { lexer with candidates := candidate :: lexer.candidates }

/-! ## Blanks -/

/-- Move to the next token; behind a line break outside brackets a key may stand. -/
def skipBlanks : Nat → Lexer → Lexer
  | 0, lexer => lexer
  | fuel + 1, lexer =>
    let cursor := lexer.cursor.skipComment
    if (cursor.peek.map isLineBreak).getD false then
      skipBlanks fuel
        { lexer with
          cursor := cursor.takeBreak.2
          keyAllowed := lexer.keyAllowed || lexer.depth == 0 }
    else { lexer with cursor }

/-! ## Tokens -/

/-- End all blocks before something that stands outside of them. -/
def leaveBlocks (lexer : Lexer) : Reading Lexer := do
  let lexer ← (lexer.closeBlocks (-1)).giveUp
  return { lexer with keyAllowed := false }

/-- A mark that parts documents. -/
def documentMark (lexer : Lexer) (token : Token) : Reading Lexer := do
  let lexer ← lexer.leaveBlocks
  return (lexer.emit token).advanceBy 3

/-- An opening bracket. -/
def openBracket (lexer : Lexer) (token : Token) : Reading Lexer := do
  let lexer ← lexer.remember
  return { (lexer.emit token).advanceBy 1 with depth := lexer.depth + 1, keyAllowed := true }

/-- A closing bracket. -/
def closeBracket (lexer : Lexer) (token : Token) : Reading Lexer := do
  let lexer ← lexer.giveUp
  if lexer.depth == 0 then throw .malformed
  return { (lexer.emit token).advanceBy 1 with depth := lexer.depth - 1, keyAllowed := false }

/-- A comma between the items in brackets. -/
def comma (lexer : Lexer) : Reading Lexer := do
  let lexer ← lexer.giveUp
  return { (lexer.emit .flowEntry).advanceBy 1 with keyAllowed := true }

/-- Outside brackets, open a block for an indicator that stands where a key may. -/
def blockFor (lexer : Lexer) (opening : Token) : Reading Lexer :=
  if lexer.depth != 0 then .ok lexer
  else if !lexer.keyAllowed then .error .malformed
  else
    let (opened, lexer) := lexer.openBlock lexer.column
    .ok (if opened then lexer.emit opening else lexer)

/-- A dash before an item of a block. -/
def dash (lexer : Lexer) : Reading Lexer := do
  let lexer ← (← lexer.blockFor .blockSequenceStart).giveUp
  return { (lexer.emit .blockEntry).advanceBy 1 with keyAllowed := true }

/-- A question mark before a key. -/
def questionMark (lexer : Lexer) : Reading Lexer := do
  let lexer ← (← lexer.blockFor .blockMappingStart).giveUp
  return { (lexer.emit .key).advanceBy 1 with keyAllowed := lexer.depth == 0 }

/-- Turn a candidate into a key, opening a block for it where there is none. -/
def confirm (lexer : Lexer) (candidate : KeyCandidate) : Lexer :=
  let later := lexer.tokens.length - candidate.number
  let lexer := { lexer.forget with tokens := putBefore .key later lexer.tokens }
  if lexer.depth != 0 then lexer
  else
    let (opened, lexer) := lexer.openBlock candidate.column
    if opened then
      { lexer with tokens := putBefore .blockMappingStart (later + 1) lexer.tokens }
    else lexer

/-- A colon before a value. -/
def colon (lexer : Lexer) : Reading Lexer := do
  match lexer.candidate? with
  | some candidate =>
    let lexer := lexer.confirm candidate
    return { (lexer.emit .value).advanceBy 1 with keyAllowed := false }
  | none =>
    let lexer ← lexer.blockFor .blockMappingStart
    let lexer ← { lexer with keyAllowed := lexer.depth == 0 }.giveUp
    return (lexer.emit .value).advanceBy 1

/-- A token that may be a key and that ends at a cursor. -/
def content (lexer : Lexer) (read : Cursor → Reading (Token × Cursor)) : Reading Lexer := do
  let lexer ← lexer.remember
  let (token, cursor) ← read lexer.cursor
  return { lexer.emit token with cursor, keyAllowed := false }

/-- A quoted scalar. -/
def quotedScalar (double : Bool) (cursor : Cursor) : Reading (Token × Cursor) := do
  let (text, cursor) ← quotedText double (cursor.rest.length + 1) cursor.advance
  return (.scalar text false, cursor)

/-- A name behind an indicator. -/
def named (token : List Char → Token) (cursor : Cursor) : Reading (Token × Cursor) := do
  let (name, cursor) ← anchorName cursor
  return (token name, cursor)

/-- A plain scalar; behind a line break a key may stand. -/
def plainScalar (lexer : Lexer) : Reading Lexer := do
  let lexer ← lexer.remember
  let plain := plainText (lexer.depth != 0) (lexer.indent + 1) (lexer.cursor.rest.length + 1)
    ⟨[], false, lexer.cursor⟩
  return { lexer.emit (.scalar plain.text true) with
    cursor := plain.cursor
    keyAllowed := plain.broken }

/-- A block scalar; a key may follow it. -/
def blockScalar (lexer : Lexer) (folded : Bool) : Reading Lexer := do
  let lexer ← lexer.giveUp
  let (text, cursor) ← blockText folded lexer.indent lexer.cursor
  return { lexer.emit (.scalar text false) with cursor, keyAllowed := true }

/-- Whether a plain scalar may start with a character, given the next one. -/
def startsPlain (inFlow : Bool) (c : Char) (next : Option Char) : Bool :=
  let indicators : List Char :=
    ['-', '?', ':', ',', '[', ']', '\x7b', '\x7d', '#', '&', '*', '!', '|', '>', '\'', '"', '%',
      '@', '\x60']
  (!isLineBreak c && !isSpaceOrTab c && !indicators.contains c) ||
    (!endsWord next && (c == '-' || (!inFlow && (c == '?' || c == ':'))))

/-- The token that starts with a character at the cursor. -/
def token (lexer : Lexer) (c : Char) : Reading Lexer :=
  let next := lexer.cursor.peekAt 1
  let inFlow := lexer.depth != 0
  let atStart := lexer.cursor.column == 0
  if c == '%' && atStart then do
    let lexer ← lexer.leaveBlocks
    let (token, cursor) ← directive lexer.cursor
    return { lexer.emit token with cursor }
  else if atStart && lexer.cursor.atDocumentMark then
    lexer.documentMark (if c == '-' then .documentStart else .documentEnd)
  else if c == '[' then lexer.openBracket .flowSequenceStart
  else if c == '\x7b' then lexer.openBracket .flowMappingStart
  else if c == ']' then lexer.closeBracket .flowSequenceEnd
  else if c == '\x7d' then lexer.closeBracket .flowMappingEnd
  else if c == ',' then lexer.comma
  else if c == '-' && endsWord next then lexer.dash
  else if c == '?' && (inFlow || endsWord next) then lexer.questionMark
  else if c == ':' && (inFlow || endsWord next) then lexer.colon
  else if c == '*' then lexer.content (named .alias)
  else if c == '&' then lexer.content (named .anchor)
  else if c == '!' then lexer.content tagToken
  else if c == '|' && !inFlow then lexer.blockScalar false
  else if c == '>' && !inFlow then lexer.blockScalar true
  else if c == '\'' then lexer.content (quotedScalar false)
  else if c == '"' then lexer.content (quotedScalar true)
  else if startsPlain inFlow c next then lexer.plainScalar
  else .error .malformed

/-- Cut the rest of the text into tokens. -/
def run : Nat → Lexer → Reading (List Token)
  | 0, _ => .error .malformed
  | fuel + 1, lexer => do
    let lexer ← (lexer.skipBlanks (fuel + 1)).giveUpStale
    let lexer := lexer.closeBlocks lexer.column
    match lexer.cursor.peek with
    | none =>
      let lexer ← lexer.leaveBlocks
      return lexer.tokens.reverse
    | some c =>
      match lexer.token c with
      | .ok lexer => run fuel lexer
      | .error .malformed => .error .malformed
      | .error (.scalar fault) => .ok (lexer.emit (.fault fault)).tokens.reverse

end Lexer

/-- The tokens of a text. -/
def tokens (text : List Char) : Reading (List Token) :=
  if text.all isAllowed then
    let cursor := Cursor.start text
    let cursor := if cursor.isAt (Char.ofNat 0xFEFF) then cursor.advance else cursor
    Lexer.run (text.length + 1) { cursor }
  else .error .malformed

end DocPress.Yaml
