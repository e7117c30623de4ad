import DocPress.Text.Blank
import DocPress.Text.LowerCase

/-!
# What lower-casing leaves behind

Lower-casing leaves small letters behind: a text in lower case is its own lower case.
It makes neither marks of ASCII nor white space, and takes none away.

Main results:

- `caseRuns_avoid`: the small letters of the table are no capitals of it.
- `lower_lower`: the lower case of a text is its own lower case.
- `count_mark_lowerAfter`: lower-casing keeps the number of any mark of ASCII.
- `count_dot_lower`: so it keeps the number of dots.
- `strip_lower`: a trimmed text that starts with a dot is trimmed in lower case as well.
-/

namespace DocPress.Text

/-! ## Runs of capitals -/

namespace CaseRun

/-- A code point is a capital of a run. -/
def Covers (run : CaseRun) (n : Nat) : Prop :=
  run.first ≤ n ∧ n ≤ run.last ∧ (n - run.first) % run.step = 0

/-- The code point of the small letter of the first capital. -/
def firstSmall (run : CaseRun) : Nat :=
  (run.first + run.shift).toNat

/-- The code point of the small letter of the last capital. -/
def lastSmall (run : CaseRun) : Nat :=
  (run.last + run.shift).toNat

/-- The small letters of a run lie outside of a range. -/
def isOutside (run : CaseRun) (first last : Nat) : Bool :=
  Nat.blt run.lastSmall first || Nat.blt last run.firstSmall

/-- The small letters of a run are no capitals of another: they lie outside of it, or
between its capitals. -/
def avoids (run other : CaseRun) : Bool :=
  run.isOutside other.first other.last ||
    (Nat.beq other.step 2 && (Nat.beq run.step 2 || Nat.beq run.first run.last) &&
      Nat.beq ((run.firstSmall + other.first) % 2) 1)

/-- The small letters of a run are characters other than capitals of ASCII, white space and
the dotted capital I. -/
def isTame (run : CaseRun) : Bool :=
  Nat.blt 90 run.firstSmall && run.isOutside 0xD800 0xDFFF && Nat.blt run.lastSmall 0x110000 &&
    ([(0x85, 0x85), (0xA0, 0xA0), (0x130, 0x130), (0x1680, 0x1680), (0x2000, 0x200A),
      (0x2028, 0x2029), (0x202F, 0x202F), (0x205F, 0x205F), (0x3000, 0x3000)].all fun range =>
        run.isOutside range.1 range.2)

end CaseRun

/-- The small letters of the table are no capitals of it. -/
theorem caseRuns_avoid : (caseRuns.all fun run => caseRuns.all run.avoids) = true := by
  decide +kernel

theorem caseRuns_isTame : caseRuns.all CaseRun.isTame = true := by
  decide +kernel

section Runs

variable {run other : CaseRun} {n : Nat}

/-- The small letter of a capital lies between those of the first and the last one. -/
theorem CaseRun.small_bounds (hn : run.Covers n) (hs : 0 < run.firstSmall) :
    run.firstSmall ≤ (n + run.shift).toNat ∧ (n + run.shift).toNat ≤ run.lastSmall := by
  obtain ⟨hfirst, hlast, -⟩ := hn
  rw [firstSmall] at hs ⊢
  rw [lastSmall]
  omega

/-- The small letter of a capital of a run is no capital of another that the run avoids. -/
theorem CaseRun.not_covers_of_avoids (h : run.avoids other = true) (hs : 0 < run.firstSmall)
    (hn : run.Covers n) : ¬ other.Covers (n + run.shift).toNat := by
  rintro ⟨hfirst, hlast, hstep⟩
  obtain ⟨hlow, hhigh⟩ := small_bounds hn hs
  obtain ⟨hn1, hn2, hn3⟩ := hn
  simp only [avoids, isOutside, Bool.or_eq_true, Bool.and_eq_true, Nat.blt_eq, Nat.beq_eq] at h
  rcases h with (h | h) | ⟨⟨htwo, hsparse⟩, hodd⟩
  · omega
  · omega
  · -- both distances are even, and so would be the sum of the two first code points
    rw [htwo] at hstep
    have heven : (n - run.first) % 2 = 0 := by
      rcases hsparse with hstep' | hsingle
      · rwa [hstep'] at hn3
      · omega
    rw [firstSmall] at hodd hs
    omega

/-- A code point that is no capital of the table has itself as its small letter. -/
theorem shiftedBy_eq_self {runs : List CaseRun} (h : ∀ run ∈ runs, ¬ run.Covers n) :
    shiftedBy runs n = n := by
  induction runs with
  | nil => rfl
  | cons run runs ih =>
    rw [shiftedBy]
    split
    case isTrue => rfl
    case isFalse hfirst =>
      have hrun : ¬ (n ≤ run.last && (n - run.first) % run.step == 0) = true := by
        intro hcovered
        rw [Bool.and_eq_true, decide_eq_true_eq, beq_iff_eq] at hcovered
        exact h run (List.mem_cons_self ..) ⟨by omega, hcovered.1, hcovered.2⟩
      rw [if_neg hrun]
      exact ih fun other hother => h other (List.mem_cons_of_mem _ hother)

/-- The small letter of a code point is itself, or comes from a run that covers it. -/
theorem shiftedBy_cases (runs : List CaseRun) (n : Nat) :
    shiftedBy runs n = n ∨
      ∃ run ∈ runs, run.Covers n ∧ shiftedBy runs n = (n + run.shift).toNat := by
  induction runs with
  | nil => exact .inl rfl
  | cons run runs ih =>
    rw [shiftedBy]
    split
    case isTrue => exact .inl rfl
    case isFalse hfirst =>
      split
      case isTrue hcovered =>
        rw [Bool.and_eq_true, decide_eq_true_eq, beq_iff_eq] at hcovered
        exact .inr ⟨run, List.mem_cons_self .., ⟨by omega, hcovered.1, hcovered.2⟩, rfl⟩
      case isFalse =>
        rcases ih with hsame | ⟨other, hother, hrest⟩
        · exact .inl hsame
        · exact .inr ⟨other, List.mem_cons_of_mem _ hother, hrest⟩

end Runs

/-! ## Small letters -/

/-- A character that lower-casing leaves alone in every word. -/
def IsSmall (c : Char) : Prop :=
  lowerChar c = c ∧ c ≠ 'İ'

instance (c : Char) : Decidable (IsSmall c) :=
  inferInstanceAs (Decidable (_ ∧ _))

/-- What becomes of the characters of ASCII. -/
theorem lowerChar_ascii :
    ∀ n < 128, IsSmall (lowerChar (Char.ofNat n)) ∧
      (isBlank (lowerChar (Char.ofNat n)) = true → isBlank (Char.ofNat n) = true) ∧
      ((lowerChar (Char.ofNat n)).toNat < 65 → lowerChar (Char.ofNat n) = Char.ofNat n) := by
  decide +kernel

/-- A character in lower case: it is of ASCII, or it stays, or it becomes the tame small
letter of a run. -/
theorem lowerChar_cases (c : Char) :
    c.toNat < 128 ∨ lowerChar c = c ∨
      ∃ run ∈ caseRuns, run.Covers c.toNat ∧ (lowerChar c).toNat = (c.toNat + run.shift).toNat := by
  by_cases hascii : c.toNat < 128
  · exact .inl hascii
  refine .inr ?_
  rw [lowerChar, if_neg hascii]
  rcases shiftedBy_cases caseRuns c.toNat with hsame | ⟨run, hrun, hcovers, hshift⟩
  · rw [hsame, Char.ofNat_toNat]
    exact .inl rfl
  · refine .inr ⟨run, hrun, hcovers, ?_⟩
    have htame := List.all_eq_true.1 caseRuns_isTame run hrun
    simp only [CaseRun.isTame, CaseRun.isOutside, Bool.and_eq_true, Bool.or_eq_true, Nat.blt_eq]
      at htame
    obtain ⟨⟨⟨hsmall, hsurrogate⟩, hbound⟩, -⟩ := htame
    obtain ⟨hlow, hhigh⟩ := CaseRun.small_bounds hcovers (by omega)
    have hvalid : (c.toNat + run.shift).toNat.isValidChar := by
      rw [Nat.isValidChar]
      omega
    rw [hshift, Char.ofNat, dif_pos hvalid]
    rfl

section Characters

variable {c : Char}

/-- What comes from a run in the table is small, and neither white space nor a mark of ASCII. -/
theorem isSmall_of_covers {run : CaseRun} (hrun : run ∈ caseRuns) (hcovers : run.Covers c.toNat)
    {d : Char} (hd : d.toNat = (c.toNat + run.shift).toNat) :
    IsSmall d ∧ isBlank d = false ∧ 65 ≤ d.toNat := by
  have htame := List.all_eq_true.1 caseRuns_isTame run hrun
  simp only [CaseRun.isTame, CaseRun.isOutside, List.all_cons, List.all_nil, Bool.and_true,
    Bool.and_eq_true, Bool.or_eq_true, Nat.blt_eq] at htame
  obtain ⟨⟨⟨hsmall, -⟩, -⟩, hranges⟩ := htame
  obtain ⟨hlow, hhigh⟩ := CaseRun.small_bounds hcovers (by omega)
  rw [← hd] at hlow hhigh
  have hne (e : Char) (he : e.toNat ≤ 90 ∨ e.toNat = 0x130) : d ≠ e := by
    rintro rfl
    omega
  have hself : lowerChar d = d := by
    rw [lowerChar]
    split
    case isTrue =>
      rw [if_neg]
      rw [Bool.and_eq_true, decide_eq_true_eq, decide_eq_true_eq]
      omega
    case isFalse =>
      rw [shiftedBy_eq_self, Char.ofNat_toNat]
      intro other hother
      rw [hd]
      have havoid := List.all_eq_true.1 (List.all_eq_true.1 caseRuns_avoid run hrun) other hother
      exact CaseRun.not_covers_of_avoids havoid (by omega) hcovers
  refine ⟨⟨hself, hne 'İ' (.inr rfl)⟩, ?_, by omega⟩
  simp only [isBlank, Bool.or_eq_false_iff, Bool.and_eq_false_iff, decide_eq_false_iff_not,
    beq_eq_false_iff_ne]
  omega

/-- Lower-casing a character leaves a small one; the dotted capital has a rule of its own. -/
theorem isSmall_lowerChar (h : c ≠ 'İ') : IsSmall (lowerChar c) := by
  rcases lowerChar_cases c with hascii | hsame | ⟨run, hrun, hcovers, hd⟩
  · rw [← Char.ofNat_toNat c]
    exact (lowerChar_ascii c.toNat hascii).1
  · rw [hsame]
    exact ⟨hsame, h⟩
  · exact (isSmall_of_covers hrun hcovers hd).1

/-- Lower-casing a character makes no white space. -/
theorem isBlank_of_isBlank_lowerChar (h : isBlank (lowerChar c) = true) : isBlank c = true := by
  rcases lowerChar_cases c with hascii | hsame | ⟨run, hrun, hcovers, hd⟩
  · have hc := (lowerChar_ascii c.toNat hascii).2.1
    rw [Char.ofNat_toNat] at hc
    exact hc h
  · rwa [hsame] at h
  · rw [(isSmall_of_covers hrun hcovers hd).2.1] at h
    cases h

/-- A mark of ASCII, below all letters, is its own lower case. -/
theorem lowerChar_of_mark (h : c.toNat < 65) : lowerChar c = c := by
  rw [lowerChar, if_pos (by omega), if_neg]
  rw [Bool.and_eq_true, decide_eq_true_eq, decide_eq_true_eq]
  omega

/-- Lower-casing a character makes no mark of ASCII, and takes none away. -/
theorem lowerChar_eq_mark_iff {mark : Char} (hm : mark.toNat < 65) :
    lowerChar c = mark ↔ c = mark := by
  constructor
  · intro h
    rcases lowerChar_cases c with hascii | hsame | ⟨run, hrun, hcovers, hd⟩
    · have hc := (lowerChar_ascii c.toNat hascii).2.2
      rw [Char.ofNat_toNat, h] at hc
      exact (hc hm).symm
    · rwa [hsame] at h
    · have hlarge := (isSmall_of_covers hrun hcovers hd).2.2
      rw [h] at hlarge
      omega
  · rintro rfl
    exact lowerChar_of_mark hm

end Characters

/-! ## Words -/

/-- The characters that the rules for words put in the place of a capital. -/
def wordForms : List Char :=
  ['ς', 'σ', 'i', Char.ofNat 0x307]

theorem isSmall_of_mem_wordForms :
    ∀ d ∈ wordForms, IsSmall d ∧ isBlank d = false ∧ 65 ≤ d.toNat := by
  intro d hd
  simp only [wordForms, List.mem_cons, List.not_mem_nil, or_false] at hd
  rcases hd with rfl | rfl | rfl | rfl <;> decide +kernel

section Words

variable {passed text : List Char}

/-- What a character becomes in a word. -/
def formsIn (passed rest : List Char) (c : Char) : List Char :=
  if c = 'Σ' then [if casedNext passed && !casedNext rest then 'ς' else 'σ']
  else if c = 'İ' then ['i', Char.ofNat 0x307]
  else [lowerChar c]

theorem lowerAfter_cons (passed rest : List Char) (c : Char) :
    lowerAfter passed (c :: rest) = formsIn passed rest c ++ lowerAfter (c :: passed) rest := rfl

/-- What a character becomes in a word is a form that the rules for words give, or its own
small letter. -/
theorem mem_formsIn {rest : List Char} {c d : Char} (h : d ∈ formsIn passed rest c) :
    d ∈ wordForms ∨ c ≠ 'İ' ∧ d = lowerChar c := by
  rw [formsIn] at h
  split at h
  case isTrue =>
    obtain rfl := List.mem_singleton.1 h
    refine .inl ?_
    split <;> simp [wordForms]
  case isFalse =>
    split at h
    case isTrue =>
      exact .inl (List.mem_append_right ['ς', 'σ'] h)
    case isFalse hdotted => exact .inr ⟨hdotted, List.mem_singleton.1 h⟩

theorem formsIn_ne_nil (passed rest : List Char) (c : Char) : formsIn passed rest c ≠ [] := by
  rw [formsIn]
  split
  · simp
  · split <;> simp

/-- A small character stays in every word. -/
theorem formsIn_of_isSmall {c : Char} (h : IsSmall c) (passed rest : List Char) :
    formsIn passed rest c = [c] := by
  have hsigma : c ≠ 'Σ' := by
    rintro rfl
    exact absurd h (by decide)
  rw [formsIn, if_neg hsigma, if_neg h.2, h.1]

/-- Every character of a text in lower case is small. -/
theorem isSmall_of_mem_lowerAfter {d : Char} (h : d ∈ lowerAfter passed text) : IsSmall d := by
  induction text generalizing passed with
  | nil => cases h
  | cons c rest ih =>
    rw [lowerAfter_cons] at h
    rcases List.mem_append.1 h with hform | hrest
    · rcases mem_formsIn hform with hword | ⟨hdotted, rfl⟩
      · exact (isSmall_of_mem_wordForms d hword).1
      · exact isSmall_lowerChar hdotted
    · exact ih hrest

/-- A text of small characters is its own lower case. -/
theorem lowerAfter_of_isSmall (passed : List Char) (h : ∀ c ∈ text, IsSmall c) :
    lowerAfter passed text = text := by
  induction text generalizing passed with
  | nil => rfl
  | cons c rest ih =>
    rw [lowerAfter_cons, formsIn_of_isSmall (h c (List.mem_cons_self ..)),
      ih _ fun d hd => h d (List.mem_cons_of_mem _ hd), List.singleton_append]

/-- The lower case of a text is its own lower case. -/
theorem lower_lower (text : List Char) : lower (lower text) = lower text :=
  lowerAfter_of_isSmall [] fun _ => isSmall_of_mem_lowerAfter

/-- A mark of ASCII is small. -/
theorem isSmall_of_mark {mark : Char} (hm : mark.toNat < 65) : IsSmall mark := by
  refine ⟨lowerChar_of_mark hm, ?_⟩
  rintro rfl
  exact absurd hm (by decide)

/-- A character becomes a mark of ASCII exactly if it is that mark. -/
theorem count_mark_formsIn {mark : Char} (hm : mark.toNat < 65) (passed rest : List Char)
    (c : Char) : (formsIn passed rest c).count mark = [c].count mark := by
  by_cases hmark : c = mark
  · rw [hmark, formsIn_of_isSmall (isSmall_of_mark hm)]
  · rw [List.count_singleton, if_neg (by simpa using hmark), List.count_eq_zero]
    intro hmem
    rcases mem_formsIn hmem with hword | ⟨-, hlower⟩
    · have hlarge := (isSmall_of_mem_wordForms mark hword).2.2
      omega
    · exact hmark ((lowerChar_eq_mark_iff hm).1 hlower.symm)

/-- Lower-casing keeps the number of any mark of ASCII. -/
theorem count_mark_lowerAfter {mark : Char} (hm : mark.toNat < 65) (passed text : List Char) :
    (lowerAfter passed text).count mark = text.count mark := by
  induction text generalizing passed with
  | nil => rfl
  | cons c rest ih =>
    rw [lowerAfter_cons, List.count_append, count_mark_formsIn hm, ih, ← List.count_append,
      List.singleton_append]

/-- A mark of ASCII stands in a text exactly if it stands in its lower case. -/
theorem mem_lower_mark_iff {mark : Char} (hm : mark.toNat < 65) {text : List Char} :
    mark ∈ lower text ↔ mark ∈ text := by
  rw [← List.one_le_count_iff, ← List.one_le_count_iff, lower, count_mark_lowerAfter hm]

theorem count_dot_lowerAfter (passed text : List Char) :
    (lowerAfter passed text).count '.' = text.count '.' :=
  count_mark_lowerAfter (by decide) passed text

/-- Lower-casing keeps the number of dots. -/
theorem count_dot_lower (text : List Char) : (lower text).count '.' = text.count '.' :=
  count_dot_lowerAfter [] text

/-- No character is lost by lower-casing. -/
theorem length_le_lowerAfter (passed text : List Char) :
    text.length ≤ (lowerAfter passed text).length := by
  induction text generalizing passed with
  | nil => exact Nat.le_refl 0
  | cons c rest ih =>
    have hform := List.length_pos_iff.2 (formsIn_ne_nil passed rest c)
    have hrest := ih (c :: passed)
    rw [lowerAfter_cons, List.length_append, List.length_cons]
    omega

/-- A text that ends with ink does so in lower case. -/
theorem not_isBlank_of_getLast?_lowerAfter (h : ∀ c ∈ text.getLast?, isBlank c = false) {d : Char}
    (hd : (lowerAfter passed text).getLast? = some d) : isBlank d = false := by
  induction text generalizing passed with
  | nil => cases hd
  | cons c rest ih =>
    rw [lowerAfter_cons, List.getLast?_append] at hd
    by_cases hrest : rest = []
    · subst hrest
      have hmem : d ∈ formsIn passed [] c := List.mem_of_getLast? (by simpa [lowerAfter] using hd)
      rcases mem_formsIn hmem with hword | ⟨-, rfl⟩
      · exact (isSmall_of_mem_wordForms d hword).2.1
      · have hc := h c rfl
        exact Bool.eq_false_iff.2 fun hblank =>
          absurd (isBlank_of_isBlank_lowerChar hblank) (by simp [hc])
    · have hlong : lowerAfter (c :: passed) rest ≠ [] := by
        have hlength := length_le_lowerAfter (c :: passed) rest
        have hpos := List.length_pos_iff.2 hrest
        exact List.ne_nil_of_length_pos (by omega)
      rw [List.getLast?_eq_some_getLast hlong, Option.some_or] at hd
      refine ih (fun e he => h e ?_) (List.getLast?_eq_some_getLast hlong ▸ hd)
      rwa [List.getLast?_cons_of_ne_nil hrest]

end Words

/-- A text that starts with a dot does so in lower case. -/
theorem lower_dot_cons (rest : List Char) : lower ('.' :: rest) = '.' :: lowerAfter ['.'] rest := rfl

/-- A trimmed text that starts with a dot is trimmed in lower case as well. -/
theorem strip_lower {rest : List Char} (h : ∀ c ∈ ('.' :: rest).getLast?, isBlank c = false) :
    strip (lower ('.' :: rest)) = lower ('.' :: rest) := by
  refine strip_eq_self ?_ fun d hd => not_isBlank_of_getLast?_lowerAfter h hd
  rw [lower_dot_cons]
  intro c hc
  obtain rfl := Option.some.inj hc
  decide

end DocPress.Text
