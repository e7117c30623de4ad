import DocPress.Text.Blank
import DocPress.Text.LowerCase
import DocPress.Value.Convert

/-!
# Names of engine extensions

Extension names come as texts in which commas, white space and null characters
separate names.  Names are kept in order, and of names that differ only in
letter case the first one stays.

Main results:

- `splitNames_of_no_separator`: a text without separators is one name.
- `isName_of_mem_split`: what splitting gives are names.
- `splitNames_append_separators`: texts with separators between them are split one by one.
- `split_eq_self`: names are not split.
- `dedupe_key_nodup`: no two names kept agree in lower case.
- `dedupeFrom_append`: names behind others are kept if they were not seen among these.
- `dedupe_eq_self`: names that are all different in lower case are kept.
-/

namespace DocPress.ExtensionNames

/-! ## Splitting -/

/-- The characters between names. -/
def isSeparator (c : Char) : Bool :=
  c == ',' || c == '\x00' || Text.isBlank c

/-- The maximal runs of characters that separate no names, with a run that is
under way. -/
def splitNamesFrom (run : List Char) : List Char → List (List Char)
  | [] => if run = [] then [] else [run]
  | c :: rest =>
    if isSeparator c then
      if run = [] then splitNamesFrom [] rest else run :: splitNamesFrom [] rest
    else splitNamesFrom (run ++ [c]) rest

/-- The names in a text. -/
def splitNames (text : List Char) : List (List Char) :=
  splitNamesFrom [] text

/-- Characters without separators extend the run under way. -/
theorem splitNamesFrom_of_no_separator (run : List Char) {text : List Char}
    (h : ∀ c ∈ text, isSeparator c = false) :
    splitNamesFrom run text = if run ++ text = [] then [] else [run ++ text] := by
  induction text generalizing run with
  | nil => simp [splitNamesFrom]
  | cons c rest ih =>
    have hc := h c (by simp)
    rw [splitNamesFrom, if_neg (by simp [hc]), ih (run ++ [c]) fun x hx => h x (by simp [hx])]
    simp

/-- A text without separators is one name, unless it is empty. -/
theorem splitNames_of_no_separator {text : List Char}
    (h : ∀ c ∈ text, isSeparator c = false) (hne : text ≠ []) : splitNames text = [text] := by
  simp [splitNames, splitNamesFrom_of_no_separator [] h, hne]

/-- A separator ends the run under way, and what stands behind it is split by itself. -/
theorem splitNamesFrom_append_separator {c : Char} (hc : isSeparator c = true)
    (run text rest : List Char) :
    splitNamesFrom run (text ++ c :: rest) = splitNamesFrom run text ++ splitNames rest := by
  induction text generalizing run with
  | nil =>
    simp only [List.nil_append, splitNamesFrom, hc, if_true]
    split <;> rfl
  | cons d text ih =>
    rw [List.cons_append, splitNamesFrom, splitNamesFrom]
    split
    · split
      · exact ih []
      · rw [ih [], List.cons_append]
    · exact ih (run ++ [d])

/-- Separators in front of a text belong to no name. -/
theorem splitNames_separators_append {gap : List Char} (h : ∀ c ∈ gap, isSeparator c = true)
    (rest : List Char) : splitNames (gap ++ rest) = splitNames rest := by
  induction gap with
  | nil => rfl
  | cons c gap ih =>
    have hfirst := splitNamesFrom_append_separator (h c (by simp)) [] [] (gap ++ rest)
    have hrest := ih fun d hd => h d (by simp [hd])
    rw [List.nil_append] at hfirst
    rw [List.cons_append, splitNames, hfirst, splitNamesFrom, if_pos rfl, List.nil_append, hrest]

/-- Texts with separators between them are split one by one. -/
theorem splitNames_append_separators {gap : List Char} (h : ∀ c ∈ gap, isSeparator c = true)
    (hne : gap ≠ []) (text rest : List Char) :
    splitNames (text ++ gap ++ rest) = splitNames text ++ splitNames rest := by
  obtain ⟨c, gap, rfl⟩ := List.exists_cons_of_ne_nil hne
  have hgap : ∀ d ∈ gap, isSeparator d = true := fun d hd => h d (by simp [hd])
  have hrest := splitNames_separators_append hgap rest
  rw [List.append_assoc, List.cons_append, splitNames,
    splitNamesFrom_append_separator (h c (by simp)), hrest]
  rfl

/-- The names in some texts, read from left to right. -/
def split (texts : List String) : List String :=
  texts.flatMap fun s => (splitNames s.toList).map String.ofList

@[simp] theorem split_nil : split [] = [] := rfl

@[simp] theorem split_cons (text : String) (texts : List String) :
    split (text :: texts) = (splitNames text.toList).map String.ofList ++ split texts := rfl

@[simp] theorem split_append (texts others : List String) :
    split (texts ++ others) = split texts ++ split others :=
  List.flatMap_append

/-- A name: a text that is not empty and has no separators. -/
def IsName (name : String) : Prop :=
  name.toList ≠ [] ∧ ∀ c ∈ name.toList, isSeparator c = false

/-- A run that ends is not empty and has no separators. -/
theorem of_mem_splitNamesFrom {run text name : List Char}
    (hrun : ∀ c ∈ run, isSeparator c = false) (h : name ∈ splitNamesFrom run text) :
    name ≠ [] ∧ ∀ c ∈ name, isSeparator c = false := by
  induction text generalizing run with
  | nil =>
    rw [splitNamesFrom] at h
    split at h
    · cases h
    · rename_i hne
      obtain rfl := List.mem_singleton.1 h
      exact ⟨hne, hrun⟩
  | cons c rest ih =>
    rw [splitNamesFrom] at h
    split at h
    · split at h
      · exact ih (by simp) h
      · rename_i hne
        rcases List.mem_cons.1 h with rfl | h
        · exact ⟨hne, hrun⟩
        · exact ih (by simp) h
    · rename_i hc
      refine ih (fun d hd => ?_) h
      rcases List.mem_append.1 hd with hd | hd
      · exact hrun d hd
      · obtain rfl := List.mem_singleton.1 hd
        simpa using hc

/-- What splitting gives are names. -/
theorem isName_of_mem_split {texts : List String} {name : String} (h : name ∈ split texts) :
    IsName name := by
  obtain ⟨s, -, hs⟩ := List.mem_flatMap.1 h
  obtain ⟨run, hrun, rfl⟩ := List.mem_map.1 hs
  rw [IsName, String.toList_ofList]
  exact of_mem_splitNamesFrom (by simp) hrun

/-- Names are not split. -/
theorem split_eq_self {names : List String} (h : ∀ name ∈ names, IsName name) :
    split names = names := by
  induction names with
  | nil => rfl
  | cons name names ih =>
    obtain ⟨hne, hinside⟩ := h name (by simp)
    rw [split_cons, ih fun n hn => h n (by simp [hn]), splitNames_of_no_separator hinside hne]
    simp

/-- The names in a value: in a text, in the texts among its elements, or none. -/
def ofValue : Value → Except ValueFault (List String)
  | .none => .ok []
  | .text s => .ok (split [s])
  | value => do
    let items ← value.toList
    return split (items.filterMap Value.text?)

/-! ## Dropping repetitions -/

/-- The form of a name under which it is compared. -/
def key (name : String) : List Char :=
  Text.lower name.toList

/-- The names whose keys are neither in a list nor those of earlier names. -/
def dedupeFrom (seen : List (List Char)) : List String → List String
  | [] => []
  | name :: names =>
    if key name ∈ seen then dedupeFrom seen names
    else name :: dedupeFrom (key name :: seen) names

/-- The first of each group of names that agree in lower case. -/
def dedupe (names : List String) : List String :=
  dedupeFrom [] names

/-- Names kept have keys that were not seen. -/
theorem key_not_mem_of_mem_dedupeFrom {seen : List (List Char)} {names : List String}
    {name : String} (h : name ∈ dedupeFrom seen names) : key name ∉ seen := by
  induction names generalizing seen with
  | nil => simp [dedupeFrom] at h
  | cons n rest ih =>
    rw [dedupeFrom] at h
    split at h
    · exact ih h
    · rename_i hn
      rcases List.mem_cons.1 h with rfl | h
      · exact hn
      · exact fun hs => ih h (by simp [hs])

/-- No two names kept agree in lower case. -/
theorem dedupeFrom_key_nodup (seen : List (List Char)) (names : List String) :
    ((dedupeFrom seen names).map key).Nodup := by
  induction names generalizing seen with
  | nil => simp [dedupeFrom]
  | cons n rest ih =>
    rw [dedupeFrom]
    split
    · exact ih seen
    · rw [List.map_cons, List.nodup_cons]
      refine ⟨fun hm => ?_, ih _⟩
      obtain ⟨m, hm, he⟩ := List.mem_map.1 hm
      exact key_not_mem_of_mem_dedupeFrom hm (by simp [he])

/-- No two names kept agree in lower case. -/
theorem dedupe_key_nodup (names : List String) : ((dedupe names).map key).Nodup :=
  dedupeFrom_key_nodup [] names

/-- Names that are kept were there. -/
theorem mem_of_mem_dedupeFrom {seen : List (List Char)} {names : List String} {name : String}
    (h : name ∈ dedupeFrom seen names) : name ∈ names := by
  induction names generalizing seen with
  | nil => exact h
  | cons n rest ih =>
    rw [dedupeFrom] at h
    split at h
    · exact List.mem_cons_of_mem n (ih h)
    · rcases List.mem_cons.1 h with rfl | h
      · simp
      · exact List.mem_cons_of_mem n (ih h)

/-- Every name was seen, or a name with its key is kept. -/
theorem exists_mem_dedupeFrom (seen : List (List Char)) {names : List String} {name : String}
    (h : name ∈ names) : key name ∈ seen ∨ ∃ kept ∈ dedupeFrom seen names, key kept = key name := by
  induction names generalizing seen with
  | nil => cases h
  | cons n rest ih =>
    rw [dedupeFrom]
    rcases List.mem_cons.1 h with rfl | h
    · by_cases hn : key name ∈ seen
      · exact .inl hn
      · exact .inr ⟨name, by simp [hn], rfl⟩
    · split
      · exact ih seen h
      · rcases ih (key n :: seen) h with hseen | ⟨kept, hkept, hkey⟩
        · rcases List.mem_cons.1 hseen with heq | hseen
          · exact .inr ⟨n, by simp, heq.symm⟩
          · exact .inl hseen
        · exact .inr ⟨kept, List.mem_cons_of_mem n hkept, hkey⟩

/-- Which names are kept depends on what was seen, not on its order. -/
theorem dedupeFrom_congr {seen other : List (List Char)} (h : ∀ k, k ∈ seen ↔ k ∈ other)
    (names : List String) : dedupeFrom seen names = dedupeFrom other names := by
  induction names generalizing seen other with
  | nil => rfl
  | cons n rest ih =>
    have hcons (k : List Char) : k ∈ key n :: seen ↔ k ∈ key n :: other := by
      rw [List.mem_cons, List.mem_cons, h]
    simp only [dedupeFrom, h, ih h, ih hcons]

/-- Names behind others are kept if they were not seen among these. -/
theorem dedupeFrom_append (seen : List (List Char)) (names others : List String) :
    dedupeFrom seen (names ++ others) =
      dedupeFrom seen names ++ dedupeFrom (names.map key ++ seen) others := by
  induction names generalizing seen with
  | nil => rfl
  | cons n rest ih =>
    rw [List.cons_append, dedupeFrom, dedupeFrom]
    split
    · rename_i hn
      rw [ih]
      refine congrArg _ (dedupeFrom_congr (fun k => ?_) others)
      simp only [List.map_cons, List.cons_append, List.mem_cons, List.mem_append]
      constructor
      · exact .inr
      · rintro (rfl | hk)
        · exact .inr hn
        · exact hk
    · rw [ih, List.cons_append]
      refine congrArg _ (congrArg _ (dedupeFrom_congr (fun k => ?_) others))
      simp only [List.map_cons, List.cons_append, List.mem_cons, List.mem_append]
      exact or_left_comm

/-- Names that are all different in lower case are kept if they were not seen. -/
theorem dedupeFrom_eq_filter (seen : List (List Char)) {names : List String}
    (h : (names.map key).Nodup) :
    dedupeFrom seen names = names.filter fun name => key name ∉ seen := by
  induction names generalizing seen with
  | nil => rfl
  | cons n rest ih =>
    obtain ⟨hfirst, hrest⟩ := List.nodup_cons.1 (List.map_cons ▸ h)
    -- The first name is seen by none of the others.
    have hothers : (rest.filter fun name => key name ∉ key n :: seen) =
        rest.filter fun name => key name ∉ seen := by
      refine List.filter_congr fun m hm => ?_
      have hne : key m ≠ key n := fun heq => hfirst (heq ▸ List.mem_map_of_mem hm)
      simp [hne]
    by_cases hn : key n ∈ seen
    · rw [dedupeFrom, if_pos hn, ih seen hrest, List.filter_cons_of_neg (by simpa using hn)]
    · rw [dedupeFrom, if_neg hn, ih _ hrest, hothers,
        List.filter_cons_of_pos (by simpa using hn)]

/-- Names that are all different in lower case are kept. -/
theorem dedupe_eq_self {names : List String} (h : (names.map key).Nodup) :
    dedupe names = names := by
  rw [dedupe, dedupeFrom_eq_filter [] h]
  exact List.filter_eq_self.2 (by simp)

/-- The texts among the elements of a value, without repetitions. -/
def dedupeValue (value : Value) : Except ValueFault (List String) := do
  let items ← value.toList
  return dedupe (items.filterMap Value.text?)

end DocPress.ExtensionNames
