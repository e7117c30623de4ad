/-!
# Looking inside a text

Prefixes, occurrences and cuts of a list of characters.

Main results:

- `dropPrefix?_eq_some_iff`: dropping a prefix succeeds exactly with what follows it.
-/

namespace DocPress.Text

/-- What follows a prefix, if the text starts with it. -/
def dropPrefix? : List Char → List Char → Option (List Char)
  | [], text => some text
  | _ :: _, [] => none
  | p :: ps, c :: rest => if p = c then dropPrefix? ps rest else none

/-- Dropping a prefix succeeds exactly with what follows it. -/
theorem dropPrefix?_eq_some_iff {start text rest : List Char} :
    dropPrefix? start text = some rest ↔ text = start ++ rest := by
  induction start generalizing text with
  | nil => simp [dropPrefix?]
  | cons p ps ih =>
    rcases text with _ | ⟨c, tail⟩
    · simp [dropPrefix?]
    · by_cases h : p = c
      · simp [dropPrefix?, h, ih]
      · simp [dropPrefix?, h, Ne.symm h]

/-- Whether a text starts with another. -/
def startsWith (text start : List Char) : Bool :=
  (dropPrefix? start text).isSome

/-- Whether a text ends with another. -/
def endsWith (text tail : List Char) : Bool :=
  startsWith text.reverse tail.reverse

/-- A text without the line feed at its end, if there is one. -/
def withoutFinalFeed (text : List Char) : List Char :=
  if text.getLast? = some '\n' then text.dropLast else text

/-- Cut a text at the first place where another occurs: what precedes it and
what follows it. -/
def cutAt? (mark : List Char) : List Char → Option (List Char × List Char)
  | [] => if mark.isEmpty then some ([], []) else none
  | c :: rest =>
    match dropPrefix? mark (c :: rest) with
    | some after => some ([], after)
    | none => (cutAt? mark rest).map fun (before, after) => (c :: before, after)

/-- Whether a text occurs in another. -/
def occursIn (mark text : List Char) : Bool :=
  (cutAt? mark text).isSome

/-- The pieces of a text between occurrences of one character. -/
def splitAt (mark : Char) : List Char → List (List Char)
  | [] => [[]]
  | c :: rest =>
    if c = mark then [] :: splitAt mark rest
    else
      match splitAt mark rest with
      | [] => [[c]]
      | piece :: pieces => (c :: piece) :: pieces

/-- Pieces joined with a text between neighbours. -/
def joinWith (between : List Char) : List (List Char) → List Char
  | [] => []
  | [piece] => piece
  | piece :: pieces => piece ++ between ++ joinWith between pieces

end DocPress.Text
