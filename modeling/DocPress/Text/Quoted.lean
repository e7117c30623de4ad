import DocPress.Text.CharClass

/-!
# Quoted text

A quoted text stands between single quotes, or between double quotes if it
holds a single quote and no double quote.  Inside, the backslash, the quote,
tabs and line ends are escaped by a letter, and every character that is not
printable by its number in hexadecimal.

Main results:

- `quoted_of_plain`: a printable text without quotes and backslashes stands as it is.
-/

namespace DocPress.Text

/-! ## Hexadecimal numbers -/

/-- The lower-case hexadecimal digits of a number, zeros in front up to a width. -/
def hex (width n : Nat) : List Char :=
  let digits := Nat.toDigits 16 n
  List.replicate (width - digits.length) '0' ++ digits

/-! ## Escapes -/

/-- How a character is written between quotes. -/
def escaped (quoteSign c : Char) : List Char :=
  if c = '\\' ∨ c = quoteSign then ['\\', c]
  else if c = '\n' then ['\\', 'n']
  else if c = '\r' then ['\\', 'r']
  else if c = '\t' then ['\\', 't']
  else if isPrintable c then [c]
  else if c.toNat < 0x100 then '\\' :: 'x' :: hex 2 c.toNat
  else if c.toNat < 0x10000 then '\\' :: 'u' :: hex 4 c.toNat
  else '\\' :: 'U' :: hex 8 c.toNat

/-- The quote sign of a text: double quotes only around single ones. -/
def quotesWith (text : List Char) : Char :=
  if '\'' ∈ text ∧ '"' ∉ text then '"' else '\''

/-- A text between quotes. -/
def quoted (text : List Char) : List Char :=
  let sign := quotesWith text
  sign :: text.flatMap (escaped sign) ++ [sign]

/-- A printable text without quotes and backslashes stands as it is. -/
theorem quoted_of_plain {text : List Char}
    (h : ∀ c ∈ text, isPrintable c = true ∧ c ≠ '\\' ∧ c ≠ '\'' ∧ c ≠ '\n' ∧ c ≠ '\r' ∧ c ≠ '\t') :
    quoted text = '\'' :: text ++ ['\''] := by
  have hsign : quotesWith text = '\'' := by
    have : '\'' ∉ text := fun hm => (h _ hm).2.2.1 rfl
    simp [quotesWith, this]
  have hbody : text.flatMap (escaped '\'') = text := by
    clear hsign
    induction text with
    | nil => rfl
    | cons c rest ih =>
      obtain ⟨hp, h1, h2, h3, h4, h5⟩ := h c (by simp)
      rw [List.flatMap_cons, ih fun x hx => h x (by simp [hx])]
      simp [escaped, hp, h1, h2, h3, h4, h5]
  simp [quoted, hsign, hbody]

/-! ## Bytes -/

/-- How a byte is written between quotes: ASCII as itself, others by number. -/
def escapedByte (quoteSign : Char) (b : UInt8) : List Char :=
  let c := Char.ofNat b.toNat
  if c = '\\' ∨ c = quoteSign then ['\\', c]
  else if c = '\n' then ['\\', 'n']
  else if c = '\r' then ['\\', 'r']
  else if c = '\t' then ['\\', 't']
  else if 32 ≤ b.toNat ∧ b.toNat < 127 then [c]
  else '\\' :: 'x' :: hex 2 b.toNat

/-- A byte string between quotes, marked by the letter in front. -/
def quotedBytes (bytes : List UInt8) : List Char :=
  let sign := if (39 : UInt8) ∈ bytes ∧ (34 : UInt8) ∉ bytes then '"' else '\''
  'b' :: sign :: bytes.flatMap (escapedByte sign) ++ [sign]

/-- A text between quotes, as a string. -/
def quotedString (text : String) : String :=
  String.ofList (quoted text.toList)

end DocPress.Text
