/-!
# White space

Text is handled as a list of code points.  This module fixes which code points
count as white space and the three ways of trimming a text.

Main results:

- `strip_eq_nil_iff`: trimming leaves nothing exactly of a text of white space.
- `stripLeft_of_not_isBlank`: a text that starts with ink is not trimmed.
- `head?_strip`: a text that starts with ink starts with it after trimming as well.
- `strip_eq_self`: a text with ink at both ends is not trimmed.
- `not_isBlank_of_getLast?_strip`: what is left by trimming ends with ink.
-/

namespace DocPress.Text

/-! ## The class -/

/-- White space is every separator of Unicode together with the control
characters that move the print position. -/
def isBlank (c : Char) : Bool :=
  let n := c.toNat
  (9 ≤ n && n ≤ 13) || (28 ≤ n && n ≤ 32) || n == 0x85 || n == 0xA0 || n == 0x1680 ||
    (0x2000 ≤ n && n ≤ 0x200A) || n == 0x2028 || n == 0x2029 || n == 0x202F || n == 0x205F ||
    n == 0x3000

/-! ## Trimming -/

/-- Drop leading white space. -/
def stripLeft (text : List Char) : List Char :=
  text.dropWhile isBlank

/-- Drop trailing white space. -/
def stripRight (text : List Char) : List Char :=
  (text.reverse.dropWhile isBlank).reverse

/-- Drop white space at both ends. -/
def strip (text : List Char) : List Char :=
  stripRight (stripLeft text)

@[simp] theorem strip_nil : strip [] = [] := rfl

/-- Trimming drops characters, and adds none. -/
theorem strip_sublist (text : List Char) : (strip text).Sublist text := by
  have hleft : (stripLeft text).Sublist text := List.dropWhile_sublist isBlank
  have hright : (strip text).reverse.Sublist (stripLeft text).reverse := by
    rw [strip, stripRight, List.reverse_reverse]
    exact List.dropWhile_sublist isBlank
  exact (List.reverse_sublist.1 hright).trans hleft

/-- A text that starts with ink keeps its start. -/
theorem stripLeft_of_not_isBlank {c : Char} {rest : List Char} (h : isBlank c = false) :
    stripLeft (c :: rest) = c :: rest := by
  simp [stripLeft, h]

/-- A text that starts with ink starts with it after trimming as well. -/
theorem head?_strip {c : Char} {rest : List Char} (h : isBlank c = false) :
    (strip (c :: rest)).head? = some c := by
  rw [strip, stripLeft_of_not_isBlank h, stripRight, List.reverse_cons, List.dropWhile_append]
  split <;> simp [h]

private theorem dropWhile_eq_nil {p : Char → Bool} {text : List Char} :
    text.dropWhile p = [] ↔ ∀ c ∈ text, p c = true := by
  induction text with
  | nil => simp
  | cons c rest ih => by_cases h : p c = true <;> simp [h, ih]

private theorem head_dropWhile {p : Char → Bool} {text : List Char} {c : Char} {rest : List Char}
    (h : text.dropWhile p = c :: rest) : p c = false := by
  induction text with
  | nil => simp at h
  | cons d tail ih =>
    by_cases hd : p d = true
    · exact ih (by simpa [hd] using h)
    · obtain ⟨rfl, -⟩ : d = c ∧ tail = rest := by simpa [hd] using h
      simpa using hd

/-- Trimming leaves nothing exactly of a text of white space. -/
theorem strip_eq_nil_iff {text : List Char} : strip text = [] ↔ ∀ c ∈ text, isBlank c = true := by
  constructor
  · intro h
    rcases hl : stripLeft text with _ | ⟨c, rest⟩
    · exact dropWhile_eq_nil.1 hl
    · have hc := head_dropWhile hl
      have h' : ((c :: rest).reverse.dropWhile isBlank) = [] := by
        simpa [strip, hl, stripRight] using h
      exact absurd (dropWhile_eq_nil.1 h' c (by simp)) (by simp [hc])
  · intro h
    have : stripLeft text = [] := dropWhile_eq_nil.2 h
    simp [strip, this, stripRight]

private theorem dropWhile_eq_self {p : Char → Bool} {text : List Char}
    (h : ∀ c ∈ text.head?, p c = false) : text.dropWhile p = text := by
  cases text with
  | nil => rfl
  | cons c rest => simp [h c rfl]

/-- A text with ink at both ends is not trimmed. -/
theorem strip_eq_self {text : List Char} (hfirst : ∀ c ∈ text.head?, isBlank c = false)
    (hlast : ∀ c ∈ text.getLast?, isBlank c = false) : strip text = text := by
  rw [← List.head?_reverse] at hlast
  rw [strip, stripLeft, dropWhile_eq_self hfirst, stripRight, dropWhile_eq_self hlast,
    List.reverse_reverse]

/-- What is left by trimming ends with ink. -/
theorem not_isBlank_of_getLast?_strip {text : List Char} {c : Char}
    (h : (strip text).getLast? = some c) : isBlank c = false := by
  rw [strip, stripRight, List.getLast?_reverse] at h
  obtain ⟨rest, hrest⟩ := List.head?_eq_some_iff.1 h
  exact head_dropWhile hrest

end DocPress.Text
