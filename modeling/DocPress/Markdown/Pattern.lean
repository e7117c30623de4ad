import DocPress.Markdown.Element

/-!
# Patterns

A pattern describes stretches of text: one piece of a class, a sequence, a
choice, a repetition that prefers to be long or short, a group that is
remembered.  Matching tries the alternatives in order, the first that lets the
rest of the pattern match wins.  A pattern may look at the piece before it and
at what follows without taking it.
-/

namespace DocPress.Markdown

/-- A description of stretches of text. -/
inductive Pattern where
  | one (accepts : Piece → Bool)
  | nothing
  | both (p q : Pattern)
  | either (p q : Pattern)
  | many (p : Pattern) (least : Nat) (most : Option Nat) (eager : Bool)
  | group (index : Nat) (p : Pattern)
  | again (index : Nat)
  | ahead (p : Pattern) (present : Bool)
  | behind (accepts : Piece → Bool) (atStart : Bool)
  | finish

/-- A place in a text: what precedes it, nearest first, and what follows. -/
structure Place where
  before : List Piece
  after : List Piece

namespace Place

/-- The start of a text. -/
def start (text : Prose) : Place := ⟨[], text⟩

/-- The whole text around a place. -/
def whole (place : Place) : Prose :=
  place.before.reverse ++ place.after

/-- Pass some pieces. -/
def pass (place : Place) : Nat → Place
  | 0 => place
  | n + 1 =>
    match place.after with
    | [] => place
    | piece :: rest => pass ⟨piece :: place.before, rest⟩ n

/-- The pieces between a place and a later one. -/
def upTo (place later : Place) : Prose :=
  place.after.take (later.before.length - place.before.length)

end Place

/-- A place reached by matching, with the groups remembered so far. -/
structure Scan where
  place : Place
  groups : List (Nat × Prose)

namespace Scan

/-- The text of a group, empty if it took no part. -/
def group (scan : Scan) (index : Nat) : Prose :=
  (scan.groups.lookup index).getD []

/-- Whether a group took part. -/
def hasGroup (scan : Scan) (index : Nat) : Bool :=
  (scan.groups.lookup index).isSome

/-- Pass one piece of a class. -/
def one (accepts : Piece → Bool) (scan : Scan) : Option Scan :=
  match scan.place.after with
  | [] => none
  | piece :: rest =>
    if accepts piece then some { scan with place := ⟨piece :: scan.place.before, rest⟩ } else none

/-- Pass the characters of a text again. -/
def retrace : Prose → Scan → Option Scan
  | [], scan => some scan
  | piece :: rest, scan => (scan.one piece.same).bind (retrace rest)

end Scan

namespace Pattern

/-- A way to go on after a match of a part. -/
abbrev Next := Scan → Option Scan

/-- Repeat a step at least `least` times and at most `room` times.  A further
round that passes nothing is not made. -/
def iterate (step : Next → Next) (eager : Bool) : (least room : Nat) → Next → Next
  | 0, 0, next, scan => next scan
  | _ + 1, 0, _, _ => none
  | least + 1, room + 1, next, scan => step (iterate step eager least room next) scan
  | 0, room + 1, next, scan =>
    let further := fun (_ : Unit) =>
      step (fun reached =>
        if reached.place.before.length > scan.place.before.length
        then iterate step eager 0 room next reached else none) scan
    if eager then (further ()).or (next scan)
    else match next scan with
      | some done => some done
      | none => further ()

/-- Match a pattern and go on. -/
def run : Pattern → Next → Next
  | one accepts, next, scan => (scan.one accepts).bind next
  | nothing, next, scan => next scan
  | both p q, next, scan => run p (run q next) scan
  | either p q, next, scan =>
    match run p next scan with
    | some done => some done
    | none => run q next scan
  | many p least most eager, next, scan =>
    let room := least + scan.place.after.length
    iterate (run p) eager least (most.elim room (min room)) next scan
  | group index p, next, scan =>
    run p (fun reached =>
      next { reached with groups := (index, scan.place.upTo reached.place) :: reached.groups }) scan
  | again index, next, scan =>
    match scan.groups.lookup index with
    | none => none
    | some text => (Scan.retrace text scan).bind next
  | ahead p present, next, scan =>
    match run p some scan with
    | some reached => if present then next { scan with groups := reached.groups } else none
    | none => if present then none else next scan
  | behind accepts atStart, next, scan =>
    if (scan.place.before.head?).elim atStart accepts then next scan else none
  | finish, next, scan => if scan.place.after.isEmpty then next scan else none

end Pattern

/-- A match: where it starts, where it ends, and the groups. -/
structure Match where
  start : Place
  stop : Place
  groups : List (Nat × Prose)

namespace Match

/-- The text of a group, empty if it took no part. -/
def group (m : Match) (index : Nat) : Prose :=
  (m.groups.lookup index).getD []

/-- Whether a group took part. -/
def hasGroup (m : Match) (index : Nat) : Bool :=
  (m.groups.lookup index).isSome

/-- What precedes the match. -/
def preceding (m : Match) : Prose := m.start.before.reverse

/-- What follows the match. -/
def rest (m : Match) : Prose := m.stop.after

/-- What was matched. -/
def text (m : Match) : Prose := m.start.upTo m.stop

end Match

namespace Pattern

/-- Match at a place. -/
def matchAt (p : Pattern) (place : Place) : Option Match :=
  (p.run some ⟨place, []⟩).map fun scan => ⟨place, scan.place, scan.groups⟩

/-- Match at the start of a text. -/
def matchStart (p : Pattern) (text : Prose) : Option Match :=
  p.matchAt (.start text)

/-- The first match at a place or after it. -/
def searchFrom (p : Pattern) (before : List Piece) : (after : List Piece) → Option Match
  | [] => p.matchAt ⟨before, []⟩
  | piece :: rest =>
    match p.matchAt ⟨before, piece :: rest⟩ with
    | some m => some m
    | none => searchFrom p (piece :: before) rest

/-- The first match at a place or after it. -/
def searchAt (p : Pattern) (place : Place) : Option Match :=
  p.searchFrom place.before place.after

/-- The first match in a text. -/
def search (p : Pattern) (text : Prose) : Option Match :=
  p.searchFrom [] text

/-- Whether a pattern matches somewhere in a text. -/
def occurs (p : Pattern) (text : Prose) : Bool :=
  (p.search text).isSome

/-- All matches from a place on, none overlapping; after an empty match the
search goes on one piece later. -/
def matchesFrom (p : Pattern) : (fuel : Nat) → Place → List Match
  | 0, _ => []
  | fuel + 1, place =>
    match p.searchAt place with
    | none => []
    | some m =>
      let next := if m.text.isEmpty then m.stop.pass 1 else m.stop
      if m.text.isEmpty && m.stop.after.isEmpty then [m]
      else m :: matchesFrom p fuel next

/-- All matches in a text, none overlapping. -/
def allMatches (p : Pattern) (text : Prose) : List Match :=
  p.matchesFrom (text.length + 1) (.start text)

/-! ## Building patterns -/

instance : Append Pattern := ⟨both⟩

instance : OrElse Pattern := ⟨fun p q => either p (q ())⟩

/-- One plain character. -/
def is (c : Char) : Pattern := .one (Piece.is c)

/-- Some plain characters in a row. -/
def exactly (text : String) : Pattern :=
  text.toList.foldr (fun c p => is c ++ p) nothing

/-- A plain character out of some. -/
def oneOf (set : String) : Pattern :=
  .one (Piece.isIn set.toList.contains)

/-- Any piece but some plain characters. -/
def noneOf (set : String) : Pattern :=
  .one fun piece => !piece.isIn set.toList.contains

/-- Any piece. -/
def any : Pattern := .one fun _ => true

/-- Any piece but a line feed. -/
def inLine : Pattern := .one fun piece => !piece.isFeed

/-- White space. -/
def blank : Pattern := .one Piece.isBlank

/-- Anything but white space. -/
def ink : Pattern := .one fun piece => !piece.isBlank

/-- A decimal digit. -/
def digit : Pattern := .one Piece.isDigit

/-- A plain ASCII letter. -/
def letter : Pattern := .one (Piece.isIn Char.isAlpha)

/-- Any number of times, preferably many. -/
def star (p : Pattern) : Pattern := .many p 0 none true

/-- At least once, preferably often. -/
def plus (p : Pattern) : Pattern := .many p 1 none true

/-- At most once, preferably once. -/
def opt (p : Pattern) : Pattern := .many p 0 (some 1) true

/-- Between two numbers of times, preferably often. -/
def times (p : Pattern) (least most : Nat) : Pattern := .many p least (some most) true

/-- Any number of times, preferably few. -/
def lazyStar (p : Pattern) : Pattern := .many p 0 none false

/-- At least once, preferably not more. -/
def lazyPlus (p : Pattern) : Pattern := .many p 1 none false

/-- Where a pattern does not match. -/
def absent (p : Pattern) : Pattern := .ahead p false

/-- At the start of a line. -/
def lineStart : Pattern := .behind Piece.isFeed true

/-- At the end of a line. -/
def lineEnd : Pattern := .ahead (is '\n' <|> finish) true

/-- At the end of the text or before the line feed that ends it. -/
def textEnd : Pattern := .ahead (opt (is '\n') ++ finish) true

/-- Not after a word character. -/
def notAfterWord : Pattern := .behind (fun piece => !piece.isWord) true

/-- Not before a word character. -/
def notBeforeWord : Pattern := absent (.one Piece.isWord)

/-- Where a word starts or ends. -/
def wordEdge : Pattern :=
  (.behind Piece.isWord false ++ notBeforeWord) <|>
    (notAfterWord ++ .ahead (.one Piece.isWord) true)

/-- Not after white space; the start of a text will do. -/
def notAfterBlank : Pattern := .behind (fun piece => !piece.isBlank) true

/-- Not after a given character. -/
def notAfter (c : Char) : Pattern := .behind (fun piece => !piece.is c) true

/-- Spaces, at most three: how far a block may stand from the margin. -/
def margin : Pattern := times (is ' ') 0 3

end Pattern

end DocPress.Markdown
