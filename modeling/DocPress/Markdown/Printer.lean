import DocPress.Markdown.Element

/-!
# Writing elements

Elements are written in the XML style: every attribute has a value, attributes
go by their names, and an element without content closes itself.  Angle brackets
are escaped, and so is an ampersand that starts no character reference.  Raw
markup is written as it is, and a paragraph that holds nothing but the markup of
a block gives way to it.

Main results:

- `escape_plain`: text without the three special characters is written as it is.
-/

namespace DocPress.Markdown.Printer

/-! ## Text -/

/-- A decimal digit of ASCII. -/
def isDecimal (c : Char) : Bool :=
  '0' ≤ c && c ≤ '9'

/-- A hexadecimal digit. -/
def isHex (c : Char) : Bool :=
  isDecimal c || ('a' ≤ c && c ≤ 'f') || ('A' ≤ c && c ≤ 'F')

/-- Whether some characters of a class, at least one, lead up to a semicolon. -/
def closesAfter (inClass : Char → Bool) (text : List Char) : Bool :=
  match text.span inClass with
  | (_ :: _, ';' :: _) => true
  | _ => false

/-- Whether what follows an ampersand makes it a character reference. -/
def isReference : List Char → Bool
  | '#' :: c :: rest =>
    if c == 'x' || c == 'X' then closesAfter isHex rest else closesAfter isDecimal (c :: rest)
  | text => closesAfter Char.isAlphanum text

/-- A character as text, before some others. -/
def escapeChar (c : Char) (following : List Char) : List Char :=
  match c with
  | '&' => if isReference following then ['&'] else "&amp;".toList
  | '<' => "&lt;".toList
  | '>' => "&gt;".toList
  | _ => [c]

/-- A text with its special characters escaped. -/
def escape : List Char → List Char
  | [] => []
  | c :: rest => escapeChar c rest ++ escape rest

/-- Text without the three special characters is written as it is. -/
theorem escape_plain {text : List Char} (h : ∀ c ∈ text, c ≠ '&' ∧ c ≠ '<' ∧ c ≠ '>') :
    escape text = text := by
  induction text with
  | nil => rfl
  | cons c rest ih =>
    obtain ⟨h1, h2, h3⟩ := h c (List.mem_cons_self ..)
    rw [escape, ih fun d hd => h d (List.mem_cons_of_mem _ hd)]
    have hc : escapeChar c rest = [c] := by
      unfold escapeChar
      split <;> simp_all
    simp [hc]

/-- The value of an attribute: text, with double quotes escaped as well. -/
def escapeValue (value : String) : List Char :=
  (escape value.toList).flatMap fun c => if c = '"' then "&quot;".toList else [c]

/-- Text whose every special character is escaped, whatever follows it. -/
def escapeAll (text : List Char) : List Char :=
  text.flatMap fun c => escapeChar c []

/-! ## Raw markup -/

/-- Whether raw markup is that of a block: it starts with the tag of one, or with
a declaration, comment or instruction. -/
def isBlockMarkup (markup : List Char) : Bool :=
  match markup with
  | '<' :: rest =>
    let named := match rest with
      | '/' :: after => after
      | _ => rest
    match named.takeWhile fun c => c != ' ' && c != '>' with
    | [] => false
    | c :: cs => ['!', '?', '@', '%'].contains c || TagName.isBlock (String.ofList (c :: cs))
  | _ => false

/-- The markup of a block that is all an element holds. -/
def onlyBlockMarkup? : Prose → Option (List Char)
  | [.raw markup _] =>
    let text := Prose.chars markup
    if isBlockMarkup text then some text else none
  | _ => none

/-! ## Elements -/

/-- The attributes of an element, by name. -/
def attributes (pairs : List (String × String)) : List Char :=
  (pairs.mergeSort fun a b => a.1 ≤ b.1).flatMap fun (key, value) =>
    ' ' :: key.toList ++ ['=', '"'] ++ escapeValue value ++ ['"']

/-- The plain and literal characters at the start of a text. -/
def leadingChars : Prose → List Char
  | .char c :: rest => c :: leadingChars rest
  | .literal c :: rest => c :: leadingChars rest
  | _ => []

mutual

/-- Write a piece that stands before some text; `plain` text is not escaped. -/
def piece (plain : Bool) (following : Prose) : Piece → List Char
  | .char c => if plain then [c] else escapeChar c (leadingChars following)
  | .literal c => if plain then [c] else escapeChar c (leadingChars following)
  | .held text => if plain then text else escape text
  | .raw markup _ => Prose.chars markup
  | .element e => element e

/-- Write a text. -/
def prose (plain : Bool) : List Piece → List Char
  | [] => []
  | p :: rest => piece plain rest p ++ prose plain rest

/-- Write an element. -/
def element : ElementOf Piece → List Char
  | ⟨tag, pairs, _, content⟩ =>
    let name := tag.toList
    match if tag == "p" && pairs.isEmpty then onlyBlockMarkup? content else none with
    | some markup => markup
    | none =>
      if TagName.isVoid tag then '<' :: name ++ attributes pairs ++ [' ', '/', '>']
      else
        let plain := tag == "script" || tag == "style"
        '<' :: name ++ attributes pairs ++ ['>'] ++ prose plain content ++
          ['<', '/'] ++ name ++ ['>']

end

end DocPress.Markdown.Printer
