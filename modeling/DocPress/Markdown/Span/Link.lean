import DocPress.Markdown.Block.Declaration
import DocPress.Markdown.Span.Rule

/-!
# Links and images

A link is a text between brackets with its target behind it: an address and
perhaps a title between parentheses, or the label of a declared target.  An
image is a link behind an exclamation mark; its text is its alternative.
-/

namespace DocPress.Markdown.Span

/-! ## Texts between brackets -/

/-- The text up to the bracket that closes some open ones, and the place behind
it. -/
def closeBracket : (depth : Nat) → (before after : List Piece) → Option (Prose × Place)
  | _, _, [] => none
  | depth, before, piece :: rest =>
    let depth := if piece.is ']' then depth - 1 else if piece.is '[' then depth + 1 else depth
    if depth = 0 then some ([], ⟨piece :: before, rest⟩)
    else (closeBracket depth (piece :: before) rest).map fun (text, stop) => (piece :: text, stop)

/-- The text of brackets that were just opened. -/
def bracketed (place : Place) : Option (Prose × Place) :=
  closeBracket 1 place.before place.after

/-! ## Targets between parentheses -/

/-- The start of a target, with the whole of it where the address stands between
angle brackets. -/
def targetStart : Pattern :=
  .is '(' ++ .star .blank ++
    .opt (.group 1 (.is '<' ++ .star (.noneOf "<>") ++ .is '>') ++ .star .blank ++
      .opt (.group 2 ((.is '\'' ++ .star (.noneOf "'") ++ .is '\'') <|>
        (.is '"' ++ .star (.noneOf "\"") ++ .is '"')) ++ .star .blank) ++ .is ')')

/-- A quote that may open a title: the character, where the title starts, and
where it last ended. -/
structure Quote where
  mark : Char
  start : Nat
  stop : Option Nat

/-- The search for the parenthesis that closes a target: how many are open, how
many are open if the title is none, the end of the target in that case, the quotes,
the last character but spaces, and how far the search is. -/
structure TargetScan where
  depth : Nat
  spare : Nat
  spareEnd : Nat
  quote : Option Quote
  other : Option Quote
  last : Option Char
  index : Nat

namespace TargetScan

/-- The start of a search. -/
def start : TargetScan := ⟨1, 1, 0, none, none, none, 0⟩

/-- Whether a quote was closed by the last character. -/
def isClosed (s : TargetScan) (quote : Option Quote) : Bool :=
  quote.any fun q => q.stop.isSome && s.last == some q.mark

/-- The end of a quote, if it is open and the mark is its own. -/
def ended (s : TargetScan) (q : Quote) : Quote :=
  { q with stop := some (s.index + 1) }

/-- Pass a quote. -/
def passQuote (s : TargetScan) (mark : Char) : TargetScan :=
  match s.quote, s.other with
  | none, _ =>
    { s with quote := some ⟨mark, s.index + 1, none⟩, spare := s.depth, depth := 1 }
  | some q, none =>
    if mark = q.mark then { s with quote := some (s.ended q) }
    else { s with other := some ⟨mark, s.index + 1, none⟩ }
  | some q, some r =>
    if mark = q.mark then { s with quote := some (s.ended q) }
    else { s with other := some (s.ended r) }

/-- Pass a character. -/
def pass (s : TargetScan) (c : Option Char) : TargetScan :=
  let s' := match c with
    | some '(' =>
      if s.quote.isNone then { s with depth := s.depth + 1 }
      else { s with spare := s.spare - 1 }
    | some ')' =>
      if s.isClosed s.quote || s.isClosed s.other then { s with depth := 0 }
      else if s.quote.isNone then { s with depth := s.depth - 1 }
      else if s.spare = 1 then { s with spare := 0, spareEnd := s.index + 1 }
      else { s with spare := s.spare - 1 }
    | some '\'' => s.passQuote '\''
    | some '"' => s.passQuote '"'
    | _ => s
  { s' with index := s.index + 1, last := if s'.depth = 0 || c == some ' ' then s.last else c }

/-- Pass characters until the target is closed. -/
def run (s : TargetScan) : Prose → TargetScan
  | [] => s
  | piece :: rest =>
    let s := s.pass piece.char?
    if s.depth = 0 then s else run s rest

end TargetScan

/-- A target in a text: the address, the title, and the place behind it. -/
structure FoundTarget where
  address : String
  title : Option String
  stop : Place

/-- A title on one line and without quotes around it. -/
def cleanTitle (text : Prose) : String :=
  let chars := Text.strip (Prose.chars text)
  let quoted := fun (quote : Char) => chars.head? == some quote && chars.getLast? == some quote
  let inner := if quoted '"' || quoted '\'' then (chars.drop 1).dropLast else chars
  String.ofList (inner.map fun c => if Text.isBlank c then ' ' else c)

/-- An address without white space around it. -/
def cleanAddress (text : Prose) : String :=
  String.ofList (Text.strip (Prose.chars text))

/-- The target at a place. -/
def target? (place : Place) : Option FoundTarget :=
  match targetStart.matchAt place with
  | none => none
  | some m =>
    if m.hasGroup 1 then
      let inner := fun (text : Prose) => (text.drop 1).dropLast
      some ⟨cleanAddress (inner (m.group 1)),
        if m.hasGroup 2 then some (cleanTitle (inner (m.group 2))) else none, m.stop⟩
    else
      let text := m.stop.after
      let s := TargetScan.start.run text
      let titled := fun (q : Quote) =>
        let title := (text.drop q.start).take (q.stop.getD 0 - 1 - q.start)
        some ⟨cleanAddress (text.take (q.start - 1)), some (cleanTitle title), m.stop.pass s.index⟩
      if s.depth = 0 then
        match (s.quote.filter fun _ => s.isClosed s.quote) <|>
            (s.other.filter fun _ => s.isClosed s.other) with
        | some q => titled q
        | none => some ⟨cleanAddress (text.take (s.index - 1)), none, m.stop.pass s.index⟩
      else if s.spare = 0 then
        some ⟨cleanAddress (text.take (s.spareEnd - 1)), none, m.stop.pass s.spareEnd⟩
      else none

/-! ## Rules -/

/-- Set an attribute to a text, if there is one. -/
def setSome (e : Element) (name : String) : Option String → Element
  | some value => e.set name value
  | none => e

/-- A link with a text. -/
def makeLink (text : Prose) (target : Target) : Element :=
  setSome ((ElementOf.of "a" text).set "href" target.address) "title" target.title

/-- An image with an alternative text. -/
def makeImage (text : Prose) (target : Target) : Element :=
  (setSome ((ElementOf.bare "img").set "src" target.address) "title" target.title).set "alt"
    (Prose.toString text)

/-- The bracket that opens a link. -/
def linkStart : Pattern := .notAfter '!' ++ .is '['

/-- The exclamation mark and bracket that open an image. -/
def imageStart : Pattern := .exactly "!["

/-- A text with its target between parentheses. -/
def direct (pattern : Pattern) (make : Prose → Target → Element) : Rule where
  pattern
  act _ m := pure <|
    match bracketed m.stop with
    | none => .pass
    | some (text, stop) =>
      match target? stop with
      | none => .pass
      | some found =>
        .put [.element (make text ⟨found.address, found.title⟩)] m.start found.stop

/-- A label between brackets behind a text, perhaps after white space. -/
def labelPattern : Pattern :=
  .opt .blank ++ .is '[' ++ .group 1 (.star (.noneOf "]")) ++ .is ']'

/-- A label on one line, with single spaces for white space. -/
def foldLabel : List Char → List Char
  | [] => []
  | c :: rest =>
    if Text.isBlank c then
      match rest with
      | [] => [' ']
      | d :: _ => if Text.isBlank d then foldLabel rest else ' ' :: foldLabel rest
    else c :: foldLabel rest

/-- The declared target of a label.  A label with anything but plain characters
was not declared. -/
def declared? (context : Context) (label : Prose) : Option Target :=
  (Prose.chars? label).bind fun chars =>
    context.definitions.targets.lookup (String.ofList (foldLabel (Text.lower chars)))

/-- A text with the label of a declared target behind it, or, where the rule is
for short references, with its own text for the label. -/
def reference (pattern : Pattern) (short : Bool) (make : Prose → Target → Element) : Rule where
  pattern
  act context m := pure <|
    match bracketed m.stop with
    | none => .pass
    | some (text, stop) =>
      let use := fun (label : Prose) (stop : Place) =>
        match declared? context label with
        | some target => .put [.element (make text target)] m.start stop
        | none => .skip stop
      if short then use text stop
      else match labelPattern.matchAt stop with
        | none => .pass
        | some l => use (if (l.group 1).isEmpty then text else l.group 1) l.stop

end DocPress.Markdown.Span
