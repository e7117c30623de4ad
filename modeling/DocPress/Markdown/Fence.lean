import DocPress.Markdown.AttributeList
import DocPress.Markdown.Printer
import DocPress.Markdown.Source

/-!
# Fenced code

A fence of three or more tildes or grave accents opens a block of code that the
same fence closes, whatever the block stands in: an item, a quotation or an
indented paragraph.  The block becomes raw markup at its indentation.  A fence
that is never closed, or whose block leaves its surroundings, is plain text.
-/

namespace DocPress.Markdown.Fence

/-! ## Opening lines -/

/-- What an opening line says about a block. -/
structure Header where
  title : Option String
  classes : List String
  attributes : List (String × String)

/-- The name of a language, at the end of a word. -/
def language : Pattern :=
  .opt (.is '.') ++
    .group 2 (.plus (.one fun piece => piece.isWord || piece.isIn "#.+-".toList.contains)) ++
    .ahead (.is ' ' <|> .is '\t' <|> .finish) true

/-- A name, with or without a value between quotes. -/
def setting : Pattern :=
  let quoted := fun (quote : Char) =>
    Pattern.is quote ++ .group 5 (.lazyStar .inLine) ++ .is quote
  .group 4 (.letter ++ .star (.one (Piece.isIn fun c => c.isAlphanum || c == '_'))) ++
    .opt (.is '=' ++ (quoted '"' <|> quoted '\''))

/-- White space within a line. -/
def gap : Pattern := .star (.oneOf " \t")

/-- An opening line after its indentation: the fence, and then a list between
braces or a language and settings. -/
def opening : Pattern :=
  .group 1 (.many (.is '~') 3 none true <|> .many (.is '\x60') 3 none true) ++ gap ++
    .opt ((.is '\x7b' ++ .group 3 (.star .inLine) ++ .is '\x7d') <|>
      (.opt language ++
        .group 6 (.star (gap ++ setting ++ .ahead (.is ' ' <|> .is '\t' <|> .finish) true)))) ++
    gap ++ .finish

/-- Whether a setting of a code block is understood. -/
def isKnownSetting (key : String) : Bool :=
  ["hl_lines", "linenums", "title"].contains key

/-- The settings in a text: names with their values. -/
def settings (text : Prose) : List (String × Option String) :=
  (setting.allMatches text).map fun m =>
    (Prose.toString (m.group 4), if m.hasGroup 5 then some (Prose.toString (m.group 5)) else none)

/-- The header of settings, if all of them are understood. -/
def headerOfSettings (found : List (String × Option String)) : Option Header :=
  if found.all fun (key, value) => isKnownSetting key && value.isSome then
    some ⟨(found.lookup "title").join, [], []⟩
  else none

/-- The header of a list between braces.  The first class is the language. -/
def headerOfEntries (found : List AttributeList.Entry) : Header :=
  let classes := found.filterMap fun
    | .classed name => some name
    | .pair .. => none
  let pairs := found.filterMap fun
    | .classed _ => none
    | .pair key value => some (key, value)
  ⟨pairs.lookup "title", classes.drop 1, pairs.filter fun pair => !isKnownSetting pair.1⟩

/-- The header of an opening line. -/
def header? (m : Match) : Option Header :=
  if (m.group 3).isEmpty then headerOfSettings (settings (m.group 6))
  else some (headerOfEntries (AttributeList.entries (m.group 3)).1)

/-! ## Markup -/

/-- Code with its special characters and quotes escaped. -/
def escapeCode (text : List Char) : List Char :=
  (Printer.escapeAll text).flatMap fun c =>
    if c = '"' then "&quot;".toList else if c = '\'' then "&#39;".toList else [c]

/-- The markup of a block of code: its lines without empty ones at either end. -/
def markup (header : Header) (code : List (List Char)) : List Char :=
  let text := Text.joinLines code
  let inner := ((text.dropWhile (· == '\n')).reverse.dropWhile (· == '\n')).reverse
  let classes := String.intercalate " " (header.classes ++ ["highlight"])
  let title := match header.title with
    | none => []
    | some title =>
      "<span class=\"filename\">".toList ++ escapeCode title.toList ++ "</span>".toList
  '<' :: "div".toList ++ Printer.attributes [("class", classes)] ++
    header.attributes.flatMap (fun pair => Printer.attributes [pair]) ++ ['>'] ++ title ++
    "<pre><span></span><code>".toList ++ escapeCode inner ++ '\n' :: "</code></pre></div>".toList

/-! ## Blocks -/

/-- A character that may stand before a fence: a space or the mark of a quotation. -/
def isIndent (c : Char) : Bool :=
  c == '>' || c == ' ' || c == '\t'

/-- A block that is open: what stands before its fence, the fence, the header,
the code so far and the lines so far, both latest first, and whether the code
ends with an empty line. -/
structure Block where
  indent : List Char
  fence : List Char
  header : Header
  code : List (List Char)
  lines : List (List Char)
  afterEmpty : Bool

namespace Block

/-- How many quotations a text enters. -/
def depth (indent : List Char) : Nat :=
  indent.count '>'

/-- A line cut where the indentation of the block ends, or before. -/
def cut (block : Block) (line : List Char) : List Char × List Char :=
  let indent := (line.take block.indent.length).takeWhile isIndent
  (indent, line.drop indent.length)

/-- Whether the rest of a line closes the block. -/
def closes (block : Block) (rest : List Char) : Bool :=
  rest.take block.fence.length = block.fence &&
    (rest.drop block.fence.length).all fun c => c == ' ' || c == '\t'

/-- What a line does to a block. -/
inductive Effect where
  | content (empty : Bool)
  | close
  | abandon

/-- The effect of a line outside quotations. -/
def plainEffect (block : Block) (indent rest : List Char) : Effect :=
  if (indent ++ rest).all Text.isBlank then .content true
  else if indent.length ≠ block.indent.length && !rest.isEmpty then .abandon
  else if block.closes rest then .close
  else .content false

/-- The effect of a line when the block stands in a quotation. -/
def quotedEffect (block : Block) (indent rest : List Char) : Effect :=
  if depth indent > depth block.indent then .abandon
  else if rest.isEmpty then .content true
  else if indent.length < block.indent.length then .abandon
  else if block.afterEmpty && depth indent < depth block.indent then .abandon
  else if block.closes rest then .close
  else .content false

/-- The effect of a line. -/
def effect (block : Block) (indent rest : List Char) : Effect :=
  if depth block.indent > 0 then block.quotedEffect indent rest
  else if depth indent > 0 then .abandon
  else block.plainEffect indent rest

/-- The block as raw markup at its indentation, closed by a line. -/
def closed (block : Block) (line : List Char) : Prose :=
  let code := block.code.reverse.map (List.drop block.indent.length)
  Prose.ofChars block.indent ++
    [.raw (Prose.ofChars (markup block.header code))
      (some ⟨(line :: block.lines).reverse, block.indent.length⟩)]

/-- The lines of a block that is given up. -/
def givenUp (block : Block) : List Prose :=
  block.lines.reverse.map Prose.ofChars

end Block

/-- The block that a line opens. -/
def open? (line : List Char) : Option Block :=
  let indent := line.takeWhile isIndent
  let rest := Prose.ofChars (line.drop indent.length)
  match opening.matchStart rest with
  | none => none
  | some m =>
    (header? m).map fun header => ⟨indent, Prose.chars (m.group 1), header, [], [line], false⟩

/-- Replace the fenced blocks of some lines, perhaps in the middle of one. -/
def scan : Option Block → List (List Char) → List Prose
  | none, [] => []
  | some block, [] => block.givenUp
  | none, line :: rest =>
    match open? line with
    | some block => scan (some block) rest
    | none => Prose.ofChars line :: scan none rest
  | some block, line :: rest =>
    let (indent, inner) := block.cut line
    match block.effect indent inner with
    | .close => block.closed line :: scan none rest
    | .abandon => { block with lines := line :: block.lines }.givenUp ++ scan none rest
    | .content isEmpty =>
      scan (some { block with
        code := line :: block.code, lines := line :: block.lines, afterEmpty := isEmpty }) rest

/-- Replace the fenced blocks of some lines. -/
def replace (lines : List (List Char)) : List Prose :=
  scan none lines

/-! ## Fences inside indented code -/

/-- The lines that a fence stood in, if a line holds nothing but its markup; each
keeps what was deeper than the line. -/
def source? (line : Prose) : Option (List Prose) :=
  let indent := line.takeWhile fun piece => piece.isIn fun c => c == '>' || c == ' '
  match line.drop indent.length with
  | [.raw _ (some fence)] =>
    some (fence.lines.map fun l => Prose.ofChars (l.drop (fence.indent - indent.length)))
  | _ => none

/-- A block with its fences as they were written. -/
def restore (block : Prose) : Prose :=
  Prose.unlines <| (Prose.lines block).flatMap fun line => (source? line).getD [line]

end DocPress.Markdown.Fence
