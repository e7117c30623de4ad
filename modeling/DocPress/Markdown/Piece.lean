import DocPress.Text.Blank
import DocPress.Text.CharClass

/-!
# Pieces of text

Between source and output a text is a list of pieces: characters that may still
mean something, characters that a backslash took out of the syntax, text set
aside until a paragraph is done, markup that passes through unchanged, and
elements that already stand.  Everything but a plain character is opaque: no
class of characters holds it, and every complement of a class does.

Main results:

- `ofChars_append`: plain text turns into pieces part by part.
- `chars?_ofChars`: plain text is read back from its pieces.
- `Prose.chars_ofChars`: plain text stands for itself.
-/

namespace DocPress.Markdown

/-- An element over some kind of content.  The content of a verbatim element is
final: neither emphasis nor abbreviations are looked for in it. -/
structure ElementOf (π : Type) where
  tag : String
  attributes : List (String × String)
  verbatim : Bool
  content : List π

/-- The lines a fenced block stood in and how far they were indented, for a code
block that turns out to hold the fence. -/
structure FenceSource where
  lines : List (List Char)
  indent : Nat

/-- A piece of text. -/
inductive Piece where
  | char (c : Char)
  | literal (c : Char)
  | held (text : List Char)
  | raw (markup : List Piece) (fence : Option FenceSource)
  | element (e : ElementOf Piece)

/-- A text. -/
abbrev Prose := List Piece

/-- An element of a document. -/
abbrev Element := ElementOf Piece

/-! ## Classes of pieces -/

namespace Piece

/-- The plain character that a piece is. -/
def char? : Piece → Option Char
  | char c => some c
  | _ => none

/-- Whether a piece is a plain character of a class. -/
def isIn (inClass : Char → Bool) (piece : Piece) : Bool :=
  piece.char?.any inClass

/-- Whether a piece is a given plain character. -/
def is (c : Char) (piece : Piece) : Bool :=
  piece.isIn (· == c)

/-- Whether a piece is white space. -/
def isBlank (piece : Piece) : Bool :=
  piece.isIn Text.isBlank

/-- Whether a piece is a character of a word. -/
def isWord (piece : Piece) : Bool :=
  piece.isIn Text.isWordChar

/-- Whether a piece is a decimal digit. -/
def isDigit (piece : Piece) : Bool :=
  piece.isIn fun c => (Text.digitValue? c).isSome

/-- Whether a piece ends a line. -/
def isFeed (piece : Piece) : Bool :=
  piece.is '\n'

/-- The element that a piece is. -/
def element? : Piece → Option Element
  | element e => some e
  | _ => none

/-- Whether a piece is an element. -/
def isElement (piece : Piece) : Bool :=
  piece.element?.isSome

@[simp] theorem isIn_char (inClass : Char → Bool) (c : Char) :
    (char c).isIn inClass = inClass c := rfl

@[simp] theorem isIn_literal (inClass : Char → Bool) (c : Char) :
    (literal c).isIn inClass = false := rfl

/-- Whether two pieces are the same plain character. -/
def same (a b : Piece) : Bool :=
  match a.char?, b.char? with
  | some x, some y => x == y
  | _, _ => false

end Piece

/-! ## Texts -/

namespace Prose

/-- A plain text. -/
def ofChars (text : List Char) : Prose :=
  text.map .char

/-- A plain text. -/
def ofString (text : String) : Prose :=
  ofChars text.toList

@[simp] theorem ofChars_append (a b : List Char) :
    ofChars (a ++ b) = ofChars a ++ ofChars b := by
  simp [ofChars]

/-- The characters of a text that is plain. -/
def chars? : Prose → Option (List Char)
  | [] => some []
  | piece :: rest => do
    let c ← piece.char?
    let cs ← chars? rest
    pure (c :: cs)

/-- Plain text is read back from its pieces. -/
theorem chars?_ofChars (text : List Char) : chars? (ofChars text) = some text := by
  induction text with
  | nil => rfl
  | cons c rest ih =>
    have h : chars? (List.map Piece.char rest) = some rest := ih
    simp [ofChars, chars?, Piece.char?, h]

/-- Whether a text holds nothing but white space. -/
def isBlank (text : Prose) : Bool :=
  text.all Piece.isBlank

/-- Drop pieces of a class at the end. -/
def dropRight (drops : Piece → Bool) (text : Prose) : Prose :=
  (text.reverse.dropWhile drops).reverse

/-- Drop pieces of a class at both ends. -/
def trim (drops : Piece → Bool) (text : Prose) : Prose :=
  dropRight drops (text.dropWhile drops)

/-- Drop white space at the start. -/
def stripLeft (text : Prose) : Prose :=
  text.dropWhile Piece.isBlank

/-- Drop white space at the end. -/
def stripRight (text : Prose) : Prose :=
  dropRight Piece.isBlank text

/-- Drop white space at both ends. -/
def strip (text : Prose) : Prose :=
  trim Piece.isBlank text

/-- Whether a text starts with some plain characters. -/
def startsWith : Prose → List Char → Bool
  | _, [] => true
  | [], _ :: _ => false
  | piece :: rest, c :: cs => piece.is c && startsWith rest cs

/-- Whether a text ends with some plain characters. -/
def endsWith (text : Prose) (tail : List Char) : Bool :=
  startsWith text.reverse tail.reverse

/-- Whether the first `n` pieces are spaces. -/
def isIndented (text : Prose) (n : Nat) : Bool :=
  startsWith text (List.replicate n ' ')

/-! ### Lines -/

/-- The lines between line feeds; there is always at least one. -/
def lines : Prose → List Prose
  | [] => [[]]
  | piece :: rest =>
    if piece.isFeed then [] :: lines rest
    else match lines rest with
      | [] => [[piece]]
      | line :: others => (piece :: line) :: others

/-- Lines joined by line feeds. -/
def unlines : List Prose → Prose
  | [] => []
  | [line] => line
  | line :: rest => line ++ .char '\n' :: unlines rest

@[simp] theorem unlines_singleton (line : Prose) : unlines [line] = line := rfl

@[simp] theorem unlines_cons_cons (line next : Prose) (rest : List Prose) :
    unlines (line :: next :: rest) = line ++ .char '\n' :: unlines (next :: rest) := rfl

/-- A text without line feeds is one line. -/
theorem lines_of_all_not_isFeed {text : Prose} (h : ∀ piece ∈ text, piece.isFeed = false) :
    lines text = [text] := by
  induction text with
  | nil => rfl
  | cons piece rest ih =>
    have hr := ih fun q hq => h q (List.mem_cons_of_mem _ hq)
    simp [lines, h piece (List.mem_cons_self ..), hr]

/-- Drop line feeds at the start. -/
def dropFeeds (text : Prose) : Prose :=
  text.dropWhile Piece.isFeed

/-- Drop line feeds at the end. -/
def dropFeedsRight (text : Prose) : Prose :=
  dropRight Piece.isFeed text

/-- Put a piece in front of the first of some blocks. -/
def consHead (piece : Piece) : List Prose → List Prose
  | [] => [[piece]]
  | block :: rest => (piece :: block) :: rest

/-- The blocks between pairs of line feeds; there is always at least one. -/
def blocks : Prose → List Prose
  | [] => [[]]
  | [piece] => [[piece]]
  | piece :: next :: rest =>
    if piece.isFeed && next.isFeed then [] :: blocks rest
    else consHead piece (blocks (next :: rest))

end Prose

/-! ### Reading a text aloud -/

mutual

/-- The characters that a piece stands for, tags left out. -/
def Piece.chars : Piece → List Char
  | .char c => [c]
  | .literal c => [c]
  | .held text => text
  | .raw markup _ => Prose.chars markup
  | .element e => ElementOf.chars e

/-- The characters that a text stands for, tags left out. -/
def Prose.chars : List Piece → List Char
  | [] => []
  | piece :: rest => Piece.chars piece ++ Prose.chars rest

/-- The characters inside an element, tags left out. -/
def ElementOf.chars : ElementOf Piece → List Char
  | ⟨_, _, _, content⟩ => Prose.chars content

end

@[simp] theorem Prose.chars_nil : Prose.chars [] = [] := by
  simp [Prose.chars]

@[simp] theorem Prose.chars_append (a b : Prose) :
    Prose.chars (a ++ b) = Prose.chars a ++ Prose.chars b := by
  induction a with
  | nil => simp
  | cons piece rest ih =>
    simp only [List.cons_append, Prose.chars]
    rw [ih, List.append_assoc]

/-- A plain text stands for itself. -/
theorem Prose.chars_ofChars (text : List Char) : Prose.chars (Prose.ofChars text) = text := by
  induction text with
  | nil => simp [Prose.ofChars]
  | cons c rest ih =>
    have h : Prose.chars (List.map Piece.char rest) = rest := ih
    simp [Prose.ofChars, Prose.chars, Piece.chars, h]

/-- The string that a text stands for. -/
def Prose.toString (text : Prose) : String :=
  String.ofList (Prose.chars text)

end DocPress.Markdown
