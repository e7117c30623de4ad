import DocPress.Markdown.Definitions
import DocPress.Markdown.Dialect
import DocPress.Markdown.Pattern
import DocPress.Markdown.Printer

/-!
# Rules for spans

A text is given to one rule after another.  A rule looks for its pattern from the
start of the text; where it applies it puts pieces in place of what it found, and
the text is looked through again.  What is inside a new element is given to the
rules behind.

Main results:

- `settle_ofChars`: a plain text is settled.
- `use_count`: every reference to a footnote is counted.
-/

namespace DocPress.Markdown.Span

/-! ## Counting references -/

/-- How footnotes were referred to: the labels in the order of their first
references, and how often each was referred to. -/
structure NoteUses where
  order : List String
  counts : List (String × Nat)

namespace NoteUses

/-- No reference yet. -/
def none : NoteUses := ⟨[], []⟩

/-- How often a footnote was referred to. -/
def count (uses : NoteUses) (label : String) : Nat :=
  (uses.counts.lookup label).getD 0

/-- Refer to a footnote once more. -/
def use (uses : NoteUses) (label : String) : NoteUses where
  order := if uses.order.contains label then uses.order else uses.order ++ [label]
  counts := define label (uses.count label + 1) uses.counts

/-- The number of a footnote, from one on. -/
def number (uses : NoteUses) (label : String) : Nat :=
  uses.order.idxOf label + 1

/-- Every reference to a footnote is counted. -/
theorem use_count (uses : NoteUses) (label : String) :
    (uses.use label).count label = uses.count label + 1 := by
  simp [count, use, lookup_define]

end NoteUses

/-! ## Rules -/

/-- What rules may look up: the dialect, the definitions, and what stands before
the label in the identifier of a footnote. -/
structure Context where
  dialect : Dialect
  definitions : Definitions
  noteStem : String

/-- Reading that counts references to footnotes. -/
abbrev Count := StateM NoteUses

/-- What a rule makes of a match: it lets it be, it goes on behind a place, or it
puts pieces between two places. -/
inductive Effect where
  | pass
  | skip (stop : Place)
  | put (pieces : Prose) (start stop : Place)

/-- A rule: where it is tried and what it does there. -/
structure Rule where
  pattern : Pattern
  act : Context → Match → Count Effect

namespace Rule

/-- A rule that always puts one element in place of its match. -/
def element (pattern : Pattern) (make : Match → Element) : Rule :=
  ⟨pattern, fun _ m => pure (.put [.element (make m)] m.start m.stop)⟩

end Rule

/-- The first place from a place on where a rule puts something. -/
def find (context : Context) (rule : Rule) :
    (fuel : Nat) → Place → Count (Option (Prose × Place × Place))
  | 0, _ => pure none
  | fuel + 1, place =>
    match rule.pattern.searchAt place with
    | none => pure none
    | some m => do
      match ← rule.act context m with
      | .pass => find context rule fuel m.stop
      | .skip stop => find context rule fuel stop
      | .put pieces start stop => pure (some (pieces, start, stop))

/-! ## Settling a text -/

mutual

/-- A piece with nothing set aside. -/
def settlePiece : Piece → Prose
  | .held text => Prose.ofChars text
  | .element e => [.element (settleElement e)]
  | .char c => [.char c]
  | .literal c => [.literal c]
  | .raw markup fence => [.raw markup fence]

/-- A text with nothing set aside. -/
def settle : List Piece → Prose
  | [] => []
  | piece :: rest => settlePiece piece ++ settle rest

/-- An element with nothing set aside. -/
def settleElement : ElementOf Piece → Element
  | ⟨tag, attributes, verbatim, content⟩ => ⟨tag, attributes, verbatim, settle content⟩

end

/-- A plain text is settled. -/
theorem settle_ofChars (text : List Char) : settle (Prose.ofChars text) = Prose.ofChars text := by
  induction text with
  | nil => simp [Prose.ofChars, settle]
  | cons c rest ih =>
    have h : settle (List.map Piece.char rest) = List.map Piece.char rest := ih
    simp [Prose.ofChars, settle, settlePiece, h]

/-! ## Giving a text to the rules -/

mutual

/-- A text after some rules. -/
def spans (context : Context) : (fuel : Nat) → List Rule → Prose → Count Prose
  | 0, _, text => pure text
  | _, [], text => pure text
  | fuel + 1, rule :: later, text => do
    let text ← exhaust context fuel rule later text
    spans context fuel later text

/-- A text after one rule, with what is inside of new elements after those behind. -/
def exhaust (context : Context) : (fuel : Nat) → Rule → List Rule → Prose → Count Prose
  | 0, _, _, text => pure text
  | fuel + 1, rule, later, text => do
    match ← find context rule (text.length + 1) (.start text) with
    | none => pure text
    | some (pieces, start, stop) =>
      let pieces ← inside context fuel rule later pieces
      exhaust context fuel rule later (start.before.reverse ++ pieces ++ stop.after)

/-- New pieces with the insides of their elements after the rules behind. -/
def inside (context : Context) : (fuel : Nat) → Rule → List Rule → Prose → Count Prose
  | 0, _, _, pieces => pure pieces
  | _, _, _, [] => pure []
  | fuel + 1, rule, later, .element e :: rest => do
    let e ← if e.verbatim then pure e
      else do
        let text ← spans context fuel later e.leadingText
        let content ← parts context fuel rule later e.afterText
        pure { e with content := text ++ content }
    let rest ← inside context fuel rule later rest
    pure (.element e :: rest)
  | fuel + 1, rule, later, piece :: rest => do
    let rest ← inside context fuel rule later rest
    pure (piece :: rest)

/-- The elements inside of a new element, each with the text behind it.  Their own
texts are given to the rules behind; a text behind an element is given to the same
rule as well. -/
def parts (context : Context) : (fuel : Nat) → Rule → List Rule → Prose → Count Prose
  | 0, _, _, content => pure content
  | _, _, _, [] => pure []
  | fuel + 1, rule, later, .element e :: rest => do
    let e ← if e.verbatim then pure e
      else do
        let text ← spans context fuel later e.leadingText
        pure { e with content := text ++ e.afterText }
    let tail := rest.takeWhile fun piece => !piece.isElement
    let text ← spans context fuel (rule :: later) tail
    let rest ← parts context fuel rule later (rest.drop tail.length)
    pure (.element e :: text ++ rest)
  | fuel + 1, rule, later, piece :: rest => do
    let rest ← parts context fuel rule later rest
    pure (piece :: rest)

end

/-- A bound for the steps that a text takes. -/
def fuelFor (text : Prose) : Nat :=
  40 * text.length + 64

/-! ## References to footnotes

A caret and a label between brackets refer to a footnote.  Footnotes are numbered
in the order of their first references; each reference has an identifier of its
own, so that the footnote can lead back to it. -/

/-- What the identifier of a reference starts with, for the first, second, … of a
footnote. -/
def referenceStem (nth : Nat) : String :=
  if nth ≤ 1 then "fnref" else "fnref" ++ toString nth

/-- The identifier of a footnote. -/
def noteId (context : Context) (label : String) : String :=
  "fn:" ++ context.noteStem ++ label

/-- The identifier of a reference to a footnote. -/
def referenceId (context : Context) (nth : Nat) (label : String) : String :=
  referenceStem nth ++ ":" ++ context.noteStem ++ label

/-- A label of a footnote between brackets. -/
def notePattern : Pattern :=
  .exactly "[^" ++ .group 1 (.star (.noneOf "]")) ++ .is ']'

/-- A reference to a footnote that is defined. -/
def noteReference : Rule where
  pattern := notePattern
  act context m := do
    let label := Prose.toString (m.group 1)
    if (context.definitions.notes.lookup label).isNone then pure .pass
    else
      modify (·.use label)
      let uses ← get
      let number := Prose.ofString (toString (uses.number label))
      let link : Element := { ((ElementOf.of "a" number).set "href"
        ("#" ++ noteId context label)).set "class" "footnote-ref" with verbatim := true }
      let mark := (ElementOf.of "sup" [.element link]).set "id"
        (referenceId context (uses.count label) label)
      pure (.put [.element mark] m.start m.stop)

end DocPress.Markdown.Span
