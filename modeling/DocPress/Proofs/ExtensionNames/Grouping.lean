import DocPress.Proofs.Options.FieldByField
import Mathlib.Data.List.Induction

/-!
# Names and the texts that hold them

Names of engine extensions may come one to a text or many to a text.  Only the names
count: those of all texts are read from left to right as maximal runs without separators,
and of the names that agree in lower case the first one is stored.  So joining texts with
separators, or taking a text to pieces, changes nothing of what is stored.

Main results:

- `runs_iff`: the names of a text are its maximal runs.
- `firsts_iff`: the names that are kept are the first ones of their lower case.
- `grouping_law`: what options store for texts, and that the grouping has no say in it.
-/

namespace DocPress.ExtensionNames

/-! ## Maximal runs -/

/-- A text of separators only. -/
def IsGap (text : List Char) : Prop :=
  ∀ c ∈ text, isSeparator c = true

/-- A text that is not empty and has no separators. -/
def IsRun (text : List Char) : Prop :=
  text ≠ [] ∧ ∀ c ∈ text, isSeparator c = false

/-- The maximal runs of a text, from left to right: everything in front of the first run,
between two runs and behind the last run is separators. -/
inductive Runs : List Char → List (List Char) → Prop where
  | none {gap : List Char} (hgap : IsGap gap) : Runs gap []
  | last {gap run : List Char} (hgap : IsGap gap) (hrun : IsRun run) : Runs (gap ++ run) [run]
  | cons {gap run rest : List Char} {c : Char} {runs : List (List Char)} (hgap : IsGap gap)
      (hrun : IsRun run) (hc : isSeparator c = true) (hrest : Runs rest runs) :
      Runs (gap ++ run ++ c :: rest) (run :: runs)

/-- A separator in front of a text is in none of its runs. -/
theorem Runs.separator_cons {c : Char} (hc : isSeparator c = true) {text : List Char}
    {runs : List (List Char)} (h : Runs text runs) : Runs (c :: text) runs := by
  have hlonger {gap : List Char} (hgap : IsGap gap) : IsGap (c :: gap) :=
    List.forall_mem_cons.2 ⟨hc, hgap⟩
  cases h with
  | none hgap => exact .none (hlonger hgap)
  | last hgap hrun => exact .last (hlonger hgap) hrun
  | cons hgap hrun hd hrest => exact .cons (hlonger hgap) hrun hd hrest

/-- Splitting gives the maximal runs, the first of which may be under way. -/
theorem runs_splitNamesFrom {run : List Char} (hrun : run = [] ∨ IsRun run) (text : List Char) :
    Runs (run ++ text) (splitNamesFrom run text) := by
  have hnogap : IsGap [] := by simp [IsGap]
  -- The run under way is the accumulator: it grows by one character or ends at a separator.
  induction text generalizing run with
  | nil =>
    rcases hrun with rfl | hrun
    · exact .none hnogap
    · rw [splitNamesFrom, if_neg hrun.1, List.append_nil]
      exact .last hnogap hrun
  | cons c text ih =>
    by_cases hc : isSeparator c = true
    · have hrest : Runs text (splitNamesFrom [] text) := ih (.inl rfl)
      rcases hrun with rfl | hrun
      · rw [splitNamesFrom, if_pos hc, if_pos rfl]
        exact hrest.separator_cons hc
      · rw [splitNamesFrom, if_pos hc, if_neg hrun.1]
        exact .cons hnogap hrun hc hrest
    · have hlonger : IsRun (run ++ [c]) := by
        refine ⟨by simp, fun d hd => ?_⟩
        rcases List.mem_append.1 hd with hd | hd
        · rcases hrun with rfl | hrun
          · cases hd
          · exact hrun.2 d hd
        · obtain rfl := List.mem_singleton.1 hd
          simpa using hc
      have hrest := ih (.inr hlonger)
      rw [splitNamesFrom, if_neg hc]
      simpa using hrest

/-- The names of a text are its maximal runs. -/
theorem runs_iff {text : List Char} {runs : List (List Char)} :
    Runs text runs ↔ splitNames text = runs := by
  constructor
  · intro h
    induction h with
    | @none gap hgap =>
      have hsplit := splitNames_separators_append hgap []
      rw [List.append_nil] at hsplit
      exact hsplit
    | last hgap hrun =>
      rw [splitNames_separators_append hgap, splitNames_of_no_separator hrun.2 hrun.1]
    | cons hgap hrun hc hrest ih =>
      rw [splitNames, splitNamesFrom_append_separator hc, ih, ← splitNames,
        splitNames_separators_append hgap, splitNames_of_no_separator hrun.2 hrun.1]
      rfl
  · rintro rfl
    exact runs_splitNamesFrom (.inl rfl) text

/-- The names that some texts spell, read from left to right. -/
inductive Spells : List String → List String → Prop where
  | nil : Spells [] []
  | cons {text : String} {texts names : List String} {runs : List (List Char)}
      (hruns : Runs text.toList runs) (hrest : Spells texts names) :
      Spells (text :: texts) (runs.map String.ofList ++ names)

theorem spells_iff {texts names : List String} : Spells texts names ↔ split texts = names := by
  constructor
  · intro h
    induction h with
    | nil => rfl
    | cons hruns hrest ih => rw [split_cons, runs_iff.1 hruns, ih]
  · rintro rfl
    induction texts with
    | nil => exact .nil
    | cons text texts ih => exact .cons (runs_iff.2 rfl) ih

/-! ## First names -/

/-- The first of each group of names that agree in lower case: a name is kept, as it is
spelled, if no name in front of it agrees with it. -/
inductive Firsts : List String → List String → Prop where
  | nil : Firsts [] []
  | keep {earlier kept : List String} {name : String} (h : Firsts earlier kept)
      (hnew : ∀ other ∈ earlier, key other ≠ key name) : Firsts (earlier ++ [name]) (kept ++ [name])
  | drop {earlier kept : List String} {name : String} (h : Firsts earlier kept)
      (hold : ∃ other ∈ earlier, key other = key name) : Firsts (earlier ++ [name]) kept

/-- One more name is kept if no name in front of it agrees with it. -/
theorem dedupe_concat (earlier : List String) (name : String) :
    dedupe (earlier ++ [name]) =
      if key name ∈ earlier.map key then dedupe earlier else dedupe earlier ++ [name] := by
  rw [dedupe, dedupeFrom_append, List.append_nil, dedupeFrom, ← dedupe]
  split
  · rw [dedupeFrom, List.append_nil]
  · rw [dedupeFrom]

/-- The names that are kept are the first ones of their lower case. -/
theorem firsts_iff {names kept : List String} : Firsts names kept ↔ dedupe names = kept := by
  constructor
  · intro h
    induction h with
    | nil => rfl
    | @keep earlier kept name h hnew ih =>
      have hkey : key name ∉ earlier.map key := by
        intro hmem
        obtain ⟨other, hother, heq⟩ := List.mem_map.1 hmem
        exact hnew other hother heq
      rw [dedupe_concat, if_neg hkey, ih]
    | drop h hold ih =>
      rw [dedupe_concat, if_pos (List.mem_map.2 hold), ih]
  · rintro rfl
    -- From the end: whether a name is kept depends on those in front of it.
    induction names using List.reverseRecOn with
    | nil => exact .nil
    | append_singleton earlier name ih =>
      rw [dedupe_concat]
      split
      case isTrue hkey => exact .drop ih (List.mem_map.1 hkey)
      case isFalse hkey =>
        exact .keep ih fun other hother heq => hkey (List.mem_map.2 ⟨other, hother, heq⟩)

/-! ## What options store -/

/-- Options store some names for texts that are given as engine extensions: the texts alone
are accepted, with these names. -/
def Stores (texts names : List String) : Prop :=
  Options.ofInput (.value (.map [(.text "markdown_extensions", .list (texts.map .text))])) =
    .ok { markdownExtensions := names }

theorem readExtensionNames_list (texts : List String) :
    Options.readExtensionNames (.list (texts.map .text)) = .ok (dedupe (split texts)) :=
  Options.readExtensionNames_texts texts (.inl rfl)

/-- What is stored are the first names among those of the texts. -/
theorem stores_iff {texts names : List String} :
    Stores texts names ↔ dedupe (split texts) = names := by
  have hof : Options.Readings.of [(.text "markdown_extensions", .list (texts.map .text))] =
      { Options.Readings.of [] with markdownExtensions := .ok (dedupe (split texts)) } := by
    simp [Options.Readings.of, Options.readField, Mapping.get?, readExtensionNames_list,
      Options.unknownIssue?, Options.fieldNames]
  have hread : Options.ofInput
      (.value (.map [(.text "markdown_extensions", .list (texts.map .text))])) =
        .ok { markdownExtensions := dedupe (split texts) } := by
    rw [Options.ofInput_map, hof]
    rfl
  rw [Stores, hread]
  simp

/-- Options with other entries store the same names. -/
theorem markdownExtensions_eq {m : Mapping} (hm : m.keys.Nodup) {texts : List String}
    (hmem : (.text "markdown_extensions", .list (texts.map .text)) ∈ m) {options : Options}
    (h : Options.ofInput (.value (.map m)) = .ok options) :
    options.markdownExtensions = dedupe (split texts) := by
  have hissues : (Options.Readings.of m).issues = [] :=
    Options.exists_ofInput_map_iff.1 ⟨options, h⟩
  have hfield : (Options.Readings.of m).markdownExtensions = .ok (dedupe (split texts)) := by
    rw [Options.Readings.of, Options.readField_of_mem hm hmem, readExtensionNames_list]
  rw [Options.ofInput_map, if_pos hissues] at h
  cases h
  rw [Options.Readings.options, hfield, FieldReading.valueOr_ok]

/-! ## The law -/

/-- What the names stored for some texts are, and what does not change them. -/
structure Grouping (texts stored : List String) : Prop where
  /-- They are stored if the texts are the only entry. -/
  alone : Stores texts stored
  /-- They are stored whatever other entries there are. -/
  everywhere : ∀ (m : Mapping) (options : Options), m.keys.Nodup →
    (.text "markdown_extensions", .list (texts.map .text)) ∈ m →
      Options.ofInput (.value (.map m)) = .ok options → options.markdownExtensions = stored
  /-- They are the first of each group of names that agree in lower case, among the maximal
  runs of all texts from left to right. -/
  obtained_iff : ∀ names,
    (∃ spelled, Spells texts spelled ∧ Firsts spelled names) ↔ names = stored
  /-- Two neighbours may be joined with separators between them. -/
  joined : ∀ before first gap second after, texts = before ++ first :: second :: after →
    IsGap gap.toList → gap ≠ "" → Stores (before ++ (first ++ gap ++ second) :: after) stored
  /-- A text may be replaced by its names. -/
  parted : ∀ before text pieces after, texts = before ++ text :: after → Spells [text] pieces →
    Stores (before ++ pieces ++ after) stored
  /-- Each is a name: not empty, and without separators. -/
  isName : ∀ name ∈ stored, IsName name
  /-- No two of them agree in lower case. -/
  distinct : (stored.map key).Nodup
  /-- Every name of the texts agrees with one of them in lower case. -/
  covered : ∀ spelled, Spells texts spelled → ∀ name ∈ spelled,
    ∃ kept ∈ stored, key kept = key name

/-- The names in two texts are those in the texts joined with separators between them. -/
theorem split_joined {gap : String} (hgap : IsGap gap.toList) (hne : gap ≠ "")
    (first second : String) : split [first ++ gap ++ second] = split [first, second] := by
  have hlist : gap.toList ≠ [] := by simpa using hne
  simp only [split_cons, split_nil, List.append_nil, String.toList_append,
    splitNames_append_separators hgap hlist, List.map_append]

/-- The names of a text are split into themselves. -/
theorem split_pieces {text : String} {pieces : List String} (h : Spells [text] pieces) :
    split pieces = split [text] := by
  rw [spells_iff] at h
  subst h
  exact split_eq_self fun name hname => isName_of_mem_split hname

/-- Whatever texts are given as engine extensions, options store the first of each group of
names that agree in lower case, and how the texts group the names has no say in it. -/
theorem grouping_law (texts : List String) : ∃ stored, Grouping texts stored := by
  have hregroup {others : List String} (h : split others = split texts) :
      Stores others (dedupe (split texts)) := stores_iff.2 (by rw [h])
  refine ⟨dedupe (split texts), ?_⟩
  exact {
    alone := hregroup rfl
    everywhere := fun m options hm hmem h => markdownExtensions_eq hm hmem h
    obtained_iff := by
      intro names
      simp only [spells_iff, firsts_iff, exists_eq_left']
      exact eq_comm
    joined := by
      rintro before first gap second after rfl hgap hne
      apply hregroup
      have hpair := split_joined hgap hne first second
      calc split (before ++ (first ++ gap ++ second) :: after)
          = split before ++ (split [first ++ gap ++ second] ++ split after) := by
            rw [split_append, ← split_append [_], List.singleton_append]
        _ = split (before ++ first :: second :: after) := by
            rw [hpair, split_append, ← split_append [_, _]]
            rfl
    parted := by
      rintro before text pieces after rfl hpieces
      apply hregroup
      rw [split_append, split_append, split_pieces hpieces, split_append, List.append_assoc,
        ← split_append [text], List.singleton_append]
    isName := fun name hname => isName_of_mem_split (mem_of_mem_dedupeFrom hname)
    distinct := dedupe_key_nodup _
    covered := by
      intro spelled hspelled name hname
      rw [spells_iff] at hspelled
      subst hspelled
      rcases exists_mem_dedupeFrom [] hname with hseen | hkept
      · cases hseen
      · exact hkept }

end DocPress.ExtensionNames
