import DocPress.Text.Blank
import DocPress.Text.Lines
import Mathlib.Data.List.TakeWhile

/-!
# Headlines

The headline of a text is its first line with ink in it, trimmed.  It can be read off the
trimmed text as well, of which it is the first line: every line boundary is white space, so
trimming drops whole lines in front, and behind the headline nothing but white space can be
missing from its line.

Main results:

- `headD_splitLines`: the first line ends at the first boundary.
- `headline?_eq_none_iff`: a text without a headline is white space.
- `headline?_eq_ite`: the headline is the first line of the trimmed text.
-/

namespace DocPress.Text

/-- The headline of a text: its first line that is not white space, trimmed. -/
def headline? (text : List Char) : Option (List Char) :=
  ((splitLines text).find? fun line => !line.all isBlank).map strip

/-- The characters of a text up to its first boundary. -/
def beforeBreak (text : List Char) : List Char :=
  text.takeWhile fun c => !isBreak c

/-! ## Boundaries and white space -/

/-- Boundaries are white space. -/
theorem isBlank_of_isBreak {c : Char} (h : isBreak c = true) : isBlank c = true := by
  simp only [isBreak, isBlank, Bool.or_eq_true, Bool.and_eq_true, decide_eq_true_eq,
    beq_iff_eq] at h ⊢
  omega

/-- White space in front of a text is trimmed with it. -/
theorem strip_blank_cons {c : Char} (h : isBlank c = true) (rest : List Char) :
    strip (c :: rest) = strip rest := by
  simp only [strip, stripLeft, List.dropWhile_cons_of_pos h]

/-- White space behind a text is trimmed with it. -/
theorem strip_append_of_isBlank (text : List Char) {rest : List Char}
    (h : ∀ c ∈ rest, isBlank c = true) : strip (text ++ rest) = strip text := by
  have hrest : rest.dropWhile isBlank = [] := List.dropWhile_eq_nil_iff.2 h
  have hback : rest.reverse.dropWhile isBlank = [] :=
    List.dropWhile_eq_nil_iff.2 fun c hc => h c (List.mem_reverse.1 hc)
  rw [strip, strip, stripLeft, stripLeft, List.dropWhile_append, hrest]
  split
  case isTrue hfront => rw [List.isEmpty_iff.1 hfront]
  case isFalse =>
    rw [stripRight, stripRight, List.reverse_append, List.dropWhile_append, hback]
    rfl

/-- What is trimmed off the end of a text is white space. -/
theorem exists_stripRight_append (text : List Char) :
    ∃ rest, text = stripRight text ++ rest ∧ ∀ c ∈ rest, isBlank c = true := by
  refine ⟨(text.reverse.takeWhile isBlank).reverse, ?_, fun c hc => ?_⟩
  · rw [stripRight, ← List.reverse_append, List.takeWhile_append_dropWhile, List.reverse_reverse]
  · exact List.all_eq_true.1 List.all_takeWhile c (List.mem_reverse.1 hc)

/-! ## First lines -/

/-- The first line of a text ends at its first boundary. -/
theorem headD_splitLines (text : List Char) : (splitLines text).headD [] = beforeBreak text := by
  have hreturn : isBreak '\r' = true := by decide
  induction text using splitLines.induct with
  | case1 => rfl
  | case2 rest ih => simp [beforeBreak, hreturn]
  | case3 c rest hr hc ih => simp [splitLines_break_cons hc hr, beforeBreak, hc]
  | case4 c rest hr hc ih =>
    have hink : isBreak c = false := by simpa using hc
    have hfirst : (splitLines (c :: rest)).headD [] = c :: (splitLines rest).headD [] := by
      rw [splitLines_ink_cons rest hink]
      cases splitLines rest <;> rfl
    rw [hfirst, ih, beforeBreak, beforeBreak, List.takeWhile_cons_of_pos (by simp [hink])]

/-- A text that starts with ink has a first line, which starts with it. -/
theorem exists_splitLines_ink_cons {c : Char} (hc : isBlank c = false) (rest : List Char) :
    ∃ lines, splitLines (c :: rest) = beforeBreak (c :: rest) :: lines ∧
      beforeBreak (c :: rest) = c :: beforeBreak rest := by
  have hink : isBreak c = false := by
    rw [← Bool.not_eq_true]
    intro hbreak
    rw [isBlank_of_isBreak hbreak] at hc
    cases hc
  have hfirst := headD_splitLines (c :: rest)
  rcases hlines : splitLines (c :: rest) with _ | ⟨line, lines⟩
  · exact absurd hlines (splitLines_ne_nil (List.cons_ne_nil _ _))
  · rw [hlines, List.headD_cons] at hfirst
    rw [hfirst]
    exact ⟨lines, rfl, List.takeWhile_cons_of_pos (by simp [hink])⟩

/-- White space at the end of a text makes no difference to its first line, once this is
trimmed. -/
theorem strip_beforeBreak_stripRight (text : List Char) :
    strip (beforeBreak (stripRight text)) = strip (beforeBreak text) := by
  obtain ⟨rest, htext, hrest⟩ := exists_stripRight_append text
  generalize stripRight text = front at htext ⊢
  subst htext
  rw [beforeBreak, beforeBreak, List.takeWhile_append]
  split
  case isTrue hall =>
    have hfront : front.takeWhile (fun c => !isBreak c) = front :=
      (List.takeWhile_prefix _).eq_of_length hall
    rw [hfront, strip_append_of_isBlank]
    exact fun c hc => hrest c ((List.takeWhile_prefix _).subset hc)
  case isFalse => rfl

/-! ## The headline -/

/-- White space in front of a text makes no difference to its headline. -/
theorem headline?_blank_cons {c : Char} (hc : isBlank c = true) (rest : List Char) :
    headline? (c :: rest) = headline? rest := by
  have hempty (lines : List (List Char)) :
      (([] : List Char) :: lines).find? (fun line => !line.all isBlank) =
        lines.find? fun line => !line.all isBlank := rfl
  rw [headline?, headline?]
  by_cases hpair : ∃ tail, c = '\r' ∧ rest = '\n' :: tail
  · obtain ⟨tail, rfl, rfl⟩ := hpair
    rw [splitLines_pair_cons, splitLines_feed_cons]
  · have hsingle : ∀ tail, c = '\r' → rest ≠ '\n' :: tail := fun tail hr ht =>
      hpair ⟨tail, hr, ht⟩
    rw [splitLines_cons hsingle]
    split
    case isTrue => rw [hempty]
    case isFalse =>
      cases splitLines rest with
      | nil => simp [consHead, hc]
      | cons line lines =>
        by_cases hline : line.all isBlank = true
        · simp [consHead, hc, hline]
        · simp [consHead, hc, hline, strip_blank_cons hc]

/-- A text that starts with ink has its first line, trimmed, as its headline. -/
theorem headline?_ink_cons {c : Char} (hc : isBlank c = false) (rest : List Char) :
    headline? (c :: rest) = some (strip (beforeBreak (c :: rest))) := by
  obtain ⟨lines, hlines, hfirst⟩ := exists_splitLines_ink_cons hc rest
  rw [headline?, hlines, List.find?_cons_of_pos (by simp [hfirst, hc]), Option.map_some]

/-- The headline is the first line of the trimmed text, trimmed, if there is one. -/
theorem headline?_eq_ite (text : List Char) :
    headline? text =
      if strip text = [] then none else some (strip (beforeBreak (strip text))) := by
  induction text with
  | nil => rfl
  | cons c rest ih =>
    by_cases hc : isBlank c = true
    · rw [headline?_blank_cons hc, strip_blank_cons hc, ih]
    · have hink : isBlank c = false := Bool.not_eq_true _ ▸ hc
      have hne : strip (c :: rest) ≠ [] := by
        intro hempty
        have hhead : (strip (c :: rest)).head? = some c := head?_strip hink
        rw [hempty] at hhead
        cases hhead
      have hstrip : strip (c :: rest) = stripRight (c :: rest) := by
        rw [strip, stripLeft_of_not_isBlank hink]
      rw [if_neg hne, headline?_ink_cons hink, hstrip, strip_beforeBreak_stripRight]

/-- A text without a headline is white space. -/
theorem headline?_eq_none_iff {text : List Char} :
    headline? text = none ↔ ∀ c ∈ text, isBlank c = true := by
  rw [headline?_eq_ite, ← strip_eq_nil_iff]
  split
  case isTrue hempty => simp [hempty]
  case isFalse hne => simp [hne]

section Lines

variable {text line : List Char}

/-- A headline has ink in it. -/
theorem ne_nil_of_headline? (h : headline? text = some line) : line ≠ [] := by
  obtain ⟨first, hfirst, rfl⟩ := Option.map_eq_some_iff.1 h
  have hink : first.all isBlank = false := by simpa using List.find?_some hfirst
  rw [Ne, strip_eq_nil_iff, ← List.all_eq_true, hink]
  exact Bool.false_ne_true

/-- A headline has no boundaries in it. -/
theorem isBreak_of_mem_headline? (h : headline? text = some line) {c : Char} (hc : c ∈ line) :
    isBreak c = false := by
  obtain ⟨first, hfirst, rfl⟩ := Option.map_eq_some_iff.1 h
  exact isBreak_of_mem_splitLines first (List.mem_of_find?_eq_some hfirst) c
    ((strip_sublist first).subset hc)

end Lines

end DocPress.Text
