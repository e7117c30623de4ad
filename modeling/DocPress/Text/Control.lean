/-!
# Control sequences

A terminal takes an escape character and a bracket, then parameters, then a letter as a
command.  An output that is no terminal leaves such sequences out.

Main results:

- `controlLength?_isSome_iff`: when a text starts with a control sequence.
- `withoutControls_eq_self_iff`: a text is kept as it is exactly if no control sequence is in it.
-/

namespace DocPress.Text

/-! ## One sequence -/

/-- The character that starts a control sequence. -/
def escapeCharacter : Char :=
  Char.ofNat 27

/-- Whether a character can stand among the parameters of a control sequence: a digit, a
semicolon or a question mark. -/
def isParameter (c : Char) : Bool :=
  (48 ≤ c.toNat && c.toNat ≤ 57) || c.toNat == 59 || c.toNat == 63

/-- Whether a character can end a control sequence: a letter without marks. -/
def isCommand (c : Char) : Bool :=
  (65 ≤ c.toNat && c.toNat ≤ 90) || (97 ≤ c.toNat && c.toNat ≤ 122)

/-- How many characters the parameters and the letter at the start of a text have. -/
def commandLength? : List Char → Option Nat
  | [] => none
  | c :: rest =>
    if isParameter c then (commandLength? rest).map (· + 1)
    else if isCommand c then some 1
    else none

/-- How many characters the control sequence at the start of a text has. -/
def controlLength? : List Char → Option Nat
  | first :: second :: rest =>
    if first = escapeCharacter ∧ second = '[' then (commandLength? rest).map (· + 2) else none
  | _ => none

/-- A text that starts with a control sequence. -/
def StartsControl (text : List Char) : Prop :=
  ∃ parameters letter rest, text = escapeCharacter :: '[' :: parameters ++ letter :: rest ∧
    (∀ c ∈ parameters, isParameter c = true) ∧ isCommand letter = true

/-- A letter is no parameter. -/
theorem not_isParameter_of_isCommand {c : Char} (h : isCommand c = true) :
    isParameter c = false := by
  simp only [isCommand, Bool.or_eq_true, Bool.and_eq_true, decide_eq_true_eq] at h
  simp only [isParameter, Bool.or_eq_false_iff, Bool.and_eq_false_iff, decide_eq_false_iff_not,
    beq_eq_false_iff_ne]
  omega

theorem commandLength?_isSome_iff {text : List Char} :
    (commandLength? text).isSome = true ↔ ∃ parameters letter rest,
      text = parameters ++ letter :: rest ∧ (∀ c ∈ parameters, isParameter c = true) ∧
        isCommand letter = true := by
  induction text with
  | nil => simp [commandLength?]
  | cons c rest ih =>
    rw [commandLength?]
    by_cases hp : isParameter c = true
    · rw [if_pos hp, Option.isSome_map, ih]
      constructor
      · rintro ⟨parameters, letter, behind, rfl, hall, hletter⟩
        exact ⟨c :: parameters, letter, behind, rfl, by simpa [hp] using hall, hletter⟩
      · rintro ⟨_ | ⟨first, parameters⟩, letter, behind, htext, hall, hletter⟩
        · obtain ⟨rfl, rfl⟩ := List.cons.inj htext
          rw [not_isParameter_of_isCommand hletter] at hp
          cases hp
        · obtain ⟨rfl, rfl⟩ := List.cons.inj htext
          exact ⟨parameters, letter, behind, rfl, fun x hx => hall x (by simp [hx]), hletter⟩
    · rw [if_neg hp]
      constructor
      · intro h
        cases hletter : isCommand c with
        | true => exact ⟨[], c, rest, rfl, by simp, hletter⟩
        | false => simp [hletter] at h
      · rintro ⟨_ | ⟨first, parameters⟩, letter, behind, htext, hall, hletter⟩
        · obtain ⟨rfl, rfl⟩ := List.cons.inj htext
          simp [hletter]
        · obtain ⟨rfl, rfl⟩ := List.cons.inj htext
          exact absurd (hall c List.mem_cons_self) hp

/-- When a text starts with a control sequence. -/
theorem controlLength?_isSome_iff {text : List Char} :
    (controlLength? text).isSome = true ↔ StartsControl text := by
  rcases text with _ | ⟨first, _ | ⟨second, rest⟩⟩
  · simp [controlLength?, StartsControl]
  · simp [controlLength?, StartsControl]
  · by_cases h : first = escapeCharacter ∧ second = '['
    · obtain ⟨rfl, rfl⟩ := h
      simp only [controlLength?, and_self, if_true, Option.isSome_map, commandLength?_isSome_iff,
        StartsControl, List.cons_append, List.cons.injEq, true_and]
    · rw [controlLength?, if_neg h]
      simp only [Option.isSome_none, Bool.false_eq_true, StartsControl, List.cons_append,
        List.cons.injEq, false_iff]
      rintro ⟨parameters, letter, behind, ⟨rfl, rfl, -⟩, -⟩
      exact h ⟨rfl, rfl⟩

/-! ## Leaving sequences out -/

/-- Drop some characters; of the others keep those that belong to no control sequence. -/
def withoutControlsFrom : Nat → List Char → List Char
  | _, [] => []
  | skipped + 1, _ :: rest => withoutControlsFrom skipped rest
  | 0, c :: rest =>
    match controlLength? (c :: rest) with
    | some length => withoutControlsFrom (length - 1) rest
    | none => c :: withoutControlsFrom 0 rest

/-- A text without its control sequences. -/
def withoutControls (text : List Char) : List Char :=
  withoutControlsFrom 0 text

/-- A text with a control sequence in it. -/
def HasControl (text : List Char) : Prop :=
  ∃ before after, text = before ++ after ∧ StartsControl after

theorem length_withoutControlsFrom_le (skipped : Nat) (text : List Char) :
    (withoutControlsFrom skipped text).length ≤ text.length := by
  induction text generalizing skipped with
  | nil => simp [withoutControlsFrom]
  | cons c rest ih =>
    cases skipped with
    | succ skipped =>
      have hrest := ih skipped
      simp only [withoutControlsFrom, List.length_cons]
      omega
    | zero =>
      rw [withoutControlsFrom]
      cases controlLength? (c :: rest) with
      | some length =>
        have hrest := ih (length - 1)
        simp only [List.length_cons]
        omega
      | none =>
        have hrest := ih 0
        simp only [List.length_cons]
        omega

theorem hasControl_cons_iff {c : Char} {rest : List Char} :
    HasControl (c :: rest) ↔ StartsControl (c :: rest) ∨ HasControl rest := by
  constructor
  · rintro ⟨_ | ⟨first, before⟩, after, htext, hstarts⟩
    · exact .inl (by rwa [htext])
    · exact .inr ⟨before, after, (List.cons.inj htext).2, hstarts⟩
  · rintro (hstarts | ⟨before, after, rfl, hstarts⟩)
    · exact ⟨[], c :: rest, rfl, hstarts⟩
    · exact ⟨c :: before, after, rfl, hstarts⟩

/-- A text is kept as it is exactly if no control sequence is in it. -/
theorem withoutControls_eq_self_iff {text : List Char} : withoutControls text = text ↔ ¬ HasControl text := by
  induction text with
  | nil => simp [withoutControls, withoutControlsFrom, HasControl, StartsControl]
  | cons c rest ih =>
    rw [hasControl_cons_iff, ← controlLength?_isSome_iff, withoutControls, withoutControlsFrom]
    cases h : controlLength? (c :: rest) with
    | some length =>
      -- What is left out makes the text shorter.
      have hshorter := length_withoutControlsFrom_le (length - 1) rest
      simp only [Option.isSome_some, true_or, not_true_eq_false, iff_false]
      intro heq
      rw [heq, List.length_cons] at hshorter
      omega
    | none => simpa [withoutControls] using ih

end DocPress.Text
