import DocPress.Markdown.Span.Emphasis
import DocPress.Markdown.Span.Link
import DocPress.Markdown.Span.Markup
import DocPress.Markdown.Span.Rule

/-!
# Spans of a document

Every text of a document is given to the rules of its dialect, in the order in
which the texts stand.  What comes of it stands in the place of the text.
-/

namespace DocPress.Markdown.Span

/-- A rule if a dialect has an extension. -/
def ifHas (d : Dialect) (extension : Extension) (rule : Rule) : List Rule :=
  if d.has extension then [rule] else []

/-- The rules of a dialect, in order. -/
def rules (d : Dialect) : List Rule :=
  [code, escaped] ++ ifHas d .footnotes noteReference ++
    [reference linkStart false makeLink, direct linkStart makeLink, direct imageStart makeImage,
      reference imageStart false makeImage, reference linkStart true makeLink,
      reference imageStart true makeImage, webAddress, mailAddress, lineBreak, markup,
      characterReference, loneMark] ++
    ifHas d .tildes (family '~' tildeForms) ++
    [family '*' asteriskForms, family '_' lowLineForms] ++
    ifHas d .lineBreaks everyLineEnd

/-- A text of a document after all rules. -/
def readText (context : Context) (rules : List Rule) (text : Prose) : Count Prose := do
  let text ← spans context (fuelFor text) rules text
  pure (settle text)

mutual

/-- Give the texts inside of the elements of a content, and behind them, to the
rules.  Texts of verbatim elements stay.  New elements are looked into as well. -/
def walk (context : Context) (rules : List Rule) (verbatim : Bool) :
    (fuel : Nat) → Prose → Count Prose
  | 0, content => pure content
  | _, [] => pure []
  | fuel + 1, .element e :: rest => do
    let hadChildren := e.content.any Piece.isElement
    let text ← if e.verbatim then pure e.leadingText
      else do
        let text ← readText context rules e.leadingText
        walkNew context rules fuel text
    let content := text ++ e.afterText
    let content ← if hadChildren then walk context rules e.verbatim fuel content else pure content
    let tail := rest.takeWhile fun piece => !piece.isElement
    let text ← if verbatim then pure tail else readText context rules tail
    let others ← walk context rules verbatim fuel (text ++ rest.drop tail.length)
    pure (.element { e with content } :: others)
  | fuel + 1, piece :: rest => do
    let rest ← walk context rules verbatim fuel rest
    pure (piece :: rest)

/-- Look into the elements that a text was given. -/
def walkNew (context : Context) (rules : List Rule) : (fuel : Nat) → Prose → Count Prose
  | 0, text => pure text
  | _, [] => pure []
  | fuel + 1, .element e :: rest => do
    let content ← walk context rules e.verbatim fuel e.content
    let rest ← walkNew context rules fuel rest
    pure (.element { e with content } :: rest)
  | fuel + 1, piece :: rest => do
    let rest ← walkNew context rules fuel rest
    pure (piece :: rest)

end

end DocPress.Markdown.Span
