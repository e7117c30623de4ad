/-!
# Lines

A text is cut into lines at every line boundary, and put together again with
line feeds.  Line boundaries are the vertical control characters, the
information separators and the line and paragraph separators; a carriage return
followed by a line feed is one boundary.

Main results:

- `splitLines_singleLine`: a text without boundaries is one line.
- `splitLines_line_append`: a line with its line feed is the first of the lines.
- `isBreak_of_mem_splitLines`: lines hold no boundaries.
- `unifyEndings_append`: a text without carriage returns in front is left alone.
-/

namespace DocPress.Text

/-! ## Cutting -/

/-- The code points that end a line. -/
def isBreak (c : Char) : Bool :=
  let n := c.toNat
  (10 ≤ n && n ≤ 13) || (28 ≤ n && n ≤ 30) || n == 0x85 || n == 0x2028 || n == 0x2029

/-- Put a character in front of the first of some lines. -/
def consHead (c : Char) : List (List Char) → List (List Char)
  | [] => [[c]]
  | line :: lines => (c :: line) :: lines

/-- The lines of a text, without their boundaries; a final boundary starts no
further line. -/
def splitLines : List Char → List (List Char)
  | [] => []
  | '\r' :: '\n' :: rest => [] :: splitLines rest
  | c :: rest => if isBreak c then [] :: splitLines rest else consHead c (splitLines rest)

/-- Lines joined by line feeds. -/
def joinLines : List (List Char) → List Char
  | [] => []
  | [line] => line
  | line :: lines => line ++ '\n' :: joinLines lines

/-- The pieces of a text between line feeds; there is always one more piece
than there are line feeds. -/
def splitFeeds : List Char → List (List Char)
  | [] => [[]]
  | c :: rest => if c = '\n' then [] :: splitFeeds rest else consHead c (splitFeeds rest)

/-- A character that bounds no line is none of those that do. -/
theorem ne_of_isBreak {c d : Char} (hc : isBreak c = false) (hd : isBreak d = true) : c ≠ d := by
  rintro rfl
  rw [hc] at hd
  cases hd

@[simp] theorem splitLines_nil : splitLines [] = [] := rfl

@[simp] theorem splitLines_pair_cons (rest : List Char) :
    splitLines ('\r' :: '\n' :: rest) = [] :: splitLines rest := rfl

/-- What starts no pair is looked at alone. -/
theorem splitLines_cons {c : Char} {rest : List Char} (h : ∀ r, c = '\r' → rest ≠ '\n' :: r) :
    splitLines (c :: rest) =
      if isBreak c then [] :: splitLines rest else consHead c (splitLines rest) := by
  rw [splitLines]
  exact fun r hc hrest => h r hc hrest

/-- A boundary that starts no pair ends an empty line. -/
theorem splitLines_break_cons {c : Char} {rest : List Char} (hc : isBreak c = true)
    (h : ∀ r, c = '\r' → rest ≠ '\n' :: r) :
    splitLines (c :: rest) = [] :: splitLines rest := by
  rw [splitLines_cons h, if_pos hc]

@[simp] theorem splitLines_feed_cons (rest : List Char) :
    splitLines ('\n' :: rest) = [] :: splitLines rest :=
  splitLines_break_cons (by decide) fun _ hc => absurd hc (by decide)

/-- A character that bounds no line belongs to the first line. -/
theorem splitLines_ink_cons {c : Char} (rest : List Char) (hc : isBreak c = false) :
    splitLines (c :: rest) = consHead c (splitLines rest) := by
  have hreturn : c ≠ '\r' := ne_of_isBreak hc (by decide)
  rw [splitLines_cons fun r h => absurd h hreturn, hc, if_neg Bool.false_ne_true]

/-- A non-empty text without boundaries is one line. -/
theorem splitLines_singleLine {text : List Char} (h : ∀ c ∈ text, isBreak c = false)
    (hne : text ≠ []) : splitLines text = [text] := by
  induction text with
  | nil => exact absurd rfl hne
  | cons c rest ih =>
    rw [splitLines_ink_cons rest (h c (by simp))]
    rcases rest with _ | ⟨d, tail⟩
    · simp [consHead]
    · rw [ih (fun x hx => h x (by simp [hx])) (by simp)]
      rfl

/-- A line and its line feed come first, whatever follows. -/
theorem splitLines_line_append {line : List Char} (h : ∀ c ∈ line, isBreak c = false)
    (rest : List Char) : splitLines (line ++ '\n' :: rest) = line :: splitLines rest := by
  induction line with
  | nil => simp
  | cons c tail ih =>
    rw [List.cons_append, splitLines_ink_cons _ (h c (by simp)),
      ih (fun x hx => h x (by simp [hx]))]
    rfl

/-- Lines with a line feed behind each come first, whatever follows. -/
theorem splitLines_lines_append {lines : List (List Char)}
    (h : ∀ line ∈ lines, ∀ c ∈ line, isBreak c = false) (rest : List Char) :
    splitLines (lines.flatMap (· ++ ['\n']) ++ rest) = lines ++ splitLines rest := by
  induction lines with
  | nil => rfl
  | cons line lines ih =>
    rw [List.flatMap_cons, List.append_assoc, List.append_assoc, List.singleton_append,
      splitLines_line_append (h line (by simp)), ih fun l hl => h l (by simp [hl])]
    rfl

/-- Lines hold no boundaries. -/
theorem isBreak_of_mem_splitLines {text : List Char} :
    ∀ line ∈ splitLines text, ∀ c ∈ line, isBreak c = false := by
  induction text using splitLines.induct with
  | case1 => simp
  | case2 rest ih => simpa using ih
  | case3 c rest hr hc ih => simpa [splitLines_break_cons hc hr] using ih
  | case4 c rest hr hc ih =>
    have hink : isBreak c = false := by simpa using hc
    rw [splitLines_ink_cons rest hink]
    cases hlines : splitLines rest with
    | nil => simpa [consHead] using hink
    | cons line lines =>
      rw [hlines] at ih
      simpa [consHead, hink] using ih

/-! ## Joining -/

@[simp] theorem joinLines_nil : joinLines [] = [] := rfl

@[simp] theorem joinLines_singleton (line : List Char) : joinLines [line] = line := rfl

@[simp] theorem joinLines_cons_cons (line next : List Char) (lines : List (List Char)) :
    joinLines (line :: next :: lines) = line ++ '\n' :: joinLines (next :: lines) := rfl

/-- Joining after a character was put in front puts it in front of the join. -/
theorem joinLines_consHead (c : Char) {lines : List (List Char)} (h : lines ≠ []) :
    joinLines (consHead c lines) = c :: joinLines lines := by
  rcases lines with _ | ⟨line, _ | ⟨next, tail⟩⟩
  · exact absurd rfl h
  · rfl
  · rfl

/-- An empty line in front puts a line feed in front of the join. -/
theorem joinLines_nil_cons {lines : List (List Char)} (h : lines ≠ []) :
    joinLines ([] :: lines) = '\n' :: joinLines lines := by
  rcases lines with _ | ⟨line, tail⟩
  · exact absurd rfl h
  · rfl

/-- What is in a join is in a line, or is a line feed. -/
theorem mem_joinLines {lines : List (List Char)} {c : Char} (h : c ∈ joinLines lines) :
    c = '\n' ∨ ∃ line ∈ lines, c ∈ line := by
  induction lines with
  | nil => cases h
  | cons line lines ih =>
    rcases lines with _ | ⟨next, tail⟩
    · exact .inr ⟨line, List.mem_cons_self .., h⟩
    · rw [joinLines_cons_cons, List.mem_append, List.mem_cons] at h
      rcases h with hline | rfl | htail
      · exact .inr ⟨line, List.mem_cons_self .., hline⟩
      · exact .inl rfl
      · rcases ih htail with rfl | ⟨other, hmem, hc⟩
        · exact .inl rfl
        · exact .inr ⟨other, List.mem_cons_of_mem _ hmem, hc⟩

/-- A line in front of others adds its length and a line feed. -/
theorem length_joinLines_cons (line : List Char) {lines : List (List Char)} (h : lines ≠ []) :
    (joinLines (line :: lines)).length = line.length + 1 + (joinLines lines).length := by
  rcases lines with _ | ⟨next, tail⟩
  · exact absurd rfl h
  · rw [joinLines_cons_cons, List.length_append, List.length_cons]
    omega

/-- A line in front adds at least its length. -/
theorem length_le_joinLines_cons (line : List Char) (lines : List (List Char)) :
    line.length + (joinLines lines).length ≤ (joinLines (line :: lines)).length := by
  rcases lines with _ | ⟨next, tail⟩
  · simp
  · simp

/-- Lines in front do not make the join shorter. -/
theorem length_joinLines_le_append (front lines : List (List Char)) :
    (joinLines lines).length ≤ (joinLines (front ++ lines)).length := by
  induction front with
  | nil => exact Nat.le_refl _
  | cons line front ih =>
    have hline := length_le_joinLines_cons line (front ++ lines)
    rw [List.cons_append]
    omega

/-- A boundary in front makes room for the line feed of an empty line in front. -/
theorem length_joinLines_nil_cons (lines : List (List Char)) :
    (joinLines ([] :: lines)).length ≤ (joinLines lines).length + 1 := by
  rcases lines with _ | ⟨next, tail⟩ <;> simp

/-- There is a line if there is a character. -/
theorem splitLines_ne_nil {text : List Char} (h : text ≠ []) : splitLines text ≠ [] := by
  induction text using splitLines.induct with
  | case1 => exact absurd rfl h
  | case2 rest ih => simp
  | case3 c rest hr hc ih => simp [splitLines_break_cons hc hr]
  | case4 c rest hr hc ih =>
    rw [splitLines_ink_cons rest (by simpa using hc)]
    cases splitLines rest <;> simp [consHead]

/-- Joined with line feeds, and with one more at the end of a text that ends in one,
the lines of a text are not longer than the text. -/
theorem length_joinLines_splitLines (text : List Char) :
    (joinLines (splitLines text)).length + (if text.getLast? = some '\n' then 1 else 0) ≤
      text.length := by
  induction text using splitLines.induct with
  | case1 => simp
  | case2 rest ih =>
    have hfirst := length_joinLines_nil_cons (splitLines rest)
    rw [splitLines_pair_cons]
    rcases rest with _ | ⟨c, tail⟩
    · simp
    · simp only [List.getLast?_cons_cons, List.length_cons] at ih ⊢
      omega
  | case3 c rest hr hc ih =>
    have hfirst := length_joinLines_nil_cons (splitLines rest)
    rw [splitLines_break_cons hc hr]
    rcases rest with _ | ⟨d, tail⟩
    · simp
      split <;> omega
    · simp only [List.getLast?_cons_cons, List.length_cons] at ih ⊢
      omega
  | case4 c rest hr hc ih =>
    have hink : isBreak c = false := by simpa using hc
    rw [splitLines_ink_cons rest hink]
    rcases rest with _ | ⟨d, tail⟩
    · have hfeed : c ≠ '\n' := ne_of_isBreak hink (by decide)
      simp [consHead, hfeed]
    · rw [joinLines_consHead c (splitLines_ne_nil (by simp))]
      simp only [List.getLast?_cons_cons, List.length_cons] at ih ⊢
      omega

/-! ## Line endings -/

/-- Every carriage return, alone or with its line feed, becomes a line feed. -/
def unifyEndings : List Char → List Char
  | [] => []
  | '\r' :: '\n' :: rest => '\n' :: unifyEndings rest
  | c :: rest => (if c = '\r' then '\n' else c) :: unifyEndings rest

@[simp] theorem unifyEndings_nil : unifyEndings [] = [] := rfl

@[simp] theorem unifyEndings_pair_cons (rest : List Char) :
    unifyEndings ('\r' :: '\n' :: rest) = '\n' :: unifyEndings rest := rfl

/-- What starts no pair is looked at alone. -/
theorem unifyEndings_single_cons {c : Char} {rest : List Char}
    (h : ∀ r, c = '\r' → rest ≠ '\n' :: r) :
    unifyEndings (c :: rest) = (if c = '\r' then '\n' else c) :: unifyEndings rest := by
  rw [unifyEndings]
  exact fun r hc hrest => h r hc hrest

/-- What is no carriage return stays. -/
theorem unifyEndings_cons {c : Char} (h : c ≠ '\r') (rest : List Char) :
    unifyEndings (c :: rest) = c :: unifyEndings rest := by
  rw [unifyEndings_single_cons fun r hc => absurd hc h, if_neg h]

/-- A carriage return without its line feed becomes one. -/
theorem unifyEndings_return_cons {rest : List Char} (h : ∀ r, rest ≠ '\n' :: r) :
    unifyEndings ('\r' :: rest) = '\n' :: unifyEndings rest := by
  rw [unifyEndings_single_cons fun r _ => h r, if_pos rfl]

/-- Uniform endings bring in line feeds alone. -/
theorem mem_unifyEndings {text : List Char} {c : Char} (h : c ∈ unifyEndings text) :
    c = '\n' ∨ c ∈ text := by
  induction text using unifyEndings.induct with
  | case1 => cases h
  | case2 rest ih =>
    rw [unifyEndings_pair_cons, List.mem_cons] at h
    rcases h with rfl | hrest
    · exact .inl rfl
    · exact (ih hrest).imp_right fun hmem => by simp [hmem]
  | case3 d rest hr ih =>
    by_cases hd : d = '\r'
    · subst hd
      rw [unifyEndings_return_cons fun r hrest => hr r rfl hrest, List.mem_cons] at h
      rcases h with rfl | hrest
      · exact .inl rfl
      · exact (ih hrest).imp_right (List.mem_cons_of_mem _)
    · rw [unifyEndings_cons hd, List.mem_cons] at h
      rcases h with rfl | hrest
      · exact .inr (List.mem_cons_self ..)
      · exact (ih hrest).imp_right (List.mem_cons_of_mem _)

/-- A text without carriage returns in front is left alone. -/
theorem unifyEndings_append {front : List Char} (h : '\r' ∉ front) (rest : List Char) :
    unifyEndings (front ++ rest) = front ++ unifyEndings rest := by
  induction front with
  | nil => rfl
  | cons c tail ih =>
    have hc : c ≠ '\r' := fun e => h (e ▸ List.mem_cons_self ..)
    have ht : '\r' ∉ tail := fun e => h (List.mem_cons_of_mem _ e)
    rw [List.cons_append, unifyEndings_cons hc, ih ht, List.cons_append]

/-- A text without carriage returns is left alone. -/
theorem unifyEndings_of_no_return {text : List Char} (h : '\r' ∉ text) :
    unifyEndings text = text := by
  simpa using unifyEndings_append h []

end DocPress.Text
