import DocPress.Options.Validation
import DocPress.Proofs.Value.Naming
import Mathlib.Data.List.Basic

/-!
# Checking options field by field

A mapping of options is checked entry by entry: what one entry is read as, and what is
wrong with it, depends on no other entry; that is how the checks of fields are put together
here, and it is taken over, not explained.  So the mapping is accepted exactly if each of
its entries is accepted alone, and if it is refused then with the problems of all entries,
those of fields in the order of declaration and then those of other keys in the order of
the mapping.

Main results:

- `issues_eq`: the problems of a mapping are the problems of its entries.
- `options_eq_gather`: every field is read from its own entry.
- `field_by_field`: what follows for accepting, refusing and reordering a mapping.
-/

namespace DocPress

namespace Options

/-! ## Reading single fields -/

section Fields

variable {α : Type} {m : Mapping} {name : String} {default : α} {read : Value → FieldReading α}

/-- A field that is not taken away is read as it was. -/
theorem readField_without {names : List String} (h : name ∉ names) (m : Mapping) (default : α)
    (read : Value → FieldReading α) :
    readField (m.without names) name default read = readField m name default read := by
  rw [readField, readField, Mapping.get?_without h]

/-- A field that is not there is read as its default. -/
theorem readField_of_not_mem (h : .text name ∉ m.keys) :
    readField m name default read = .ok default := by
  rw [readField, Mapping.get?_text_eq_none_iff.2 h]

/-- A field that is there is read from its value. -/
theorem readField_of_mem (hm : m.keys.Nodup) {value : Value} (h : (.text name, value) ∈ m) :
    readField m name default read = read value := by
  rw [readField, (Mapping.get?_text_eq_some_iff hm).2 h]

end Fields

/-- Taking fields away leaves the problems of the keys that name no field, in order. -/
theorem unknown_without {names : List String} (h : ∀ name ∈ names, name ∈ fieldNames)
    (m : Mapping) :
    (m.without names).filterMap (fun entry => unknownIssue? entry.1) =
      m.filterMap fun entry => unknownIssue? entry.1 := by
  rw [Mapping.without, List.filterMap_filter]
  refine congrArg (m.filterMap ·) (funext fun entry => ?_)
  cases hkey : entry.1.isNamed names with
  | false => rfl
  | true =>
    obtain ⟨key, value⟩ := entry
    cases key with
    | text name =>
      have hname : name ∈ fieldNames := h name (Value.isNamed_text.1 hkey)
      simp [unknownIssue?, hname]
    | _ => cases hkey

/-! ## The problems of single fields -/

/-- The problems of a field among some readings. -/
def Readings.problemsOf (readings : Readings) : String → List OptionIssue
  | "format" => issuesAt "format" readings.format
  | "md_extensions" => issuesAt "md_extensions" readings.mdExtensions
  | "mdx_extensions" => issuesAt "mdx_extensions" readings.mdxExtensions
  | "markdown_extensions" => issuesAt "markdown_extensions" readings.markdownExtensions
  | "development" => issuesAt "development" readings.development
  | "output_format" => issuesAt "output_format" readings.outputShape
  | "provider_import_source" => issuesAt "provider_import_source" readings.providerImportSource
  | "plugins" => issuesAt "plugins" readings.plugins
  | _ => []

/-- The problems of some readings are those of the fields and then those of unknown keys. -/
theorem Readings.issues_eq_flatMap (readings : Readings) :
    readings.issues = fieldNames.flatMap readings.problemsOf ++ readings.unknown := by
  simp only [Readings.issues, fieldNames, List.flatMap_cons, List.flatMap_nil,
    Readings.problemsOf, List.append_assoc, List.append_nil]

/-- The problems of a field depend on what the mapping has for its name. -/
theorem problemsOf_congr {m other : Mapping} {name : String}
    (h : m.get? (.text name) = other.get? (.text name)) :
    (Readings.of m).problemsOf name = (Readings.of other).problemsOf name := by
  unfold Readings.problemsOf
  split <;> simp only [Readings.of, readField, h]

/-- A field that a mapping does not have has no problems. -/
theorem problemsOf_of_not_mem {m : Mapping} {name : String} (h : .text name ∉ m.keys) :
    (Readings.of m).problemsOf name = [] := by
  have hnil : m.get? (.text name) = Mapping.get? [] (.text name) := by
    rw [Mapping.get?_text_eq_none_iff.2 h, Mapping.get?]
  rw [problemsOf_congr hnil]
  unfold Readings.problemsOf
  split <;> rfl

/-- A function that is empty on all of a list but one member gives what it gives there. -/
theorem flatMap_eq_of_mem {α β : Type} {f : α → List β} {xs : List α} (hxs : xs.Nodup) {x : α}
    (hx : x ∈ xs) (hf : ∀ y ∈ xs, y ≠ x → f y = []) : xs.flatMap f = f x := by
  obtain ⟨before, after, rfl⟩ := List.append_of_mem hx
  obtain ⟨-, hafter, hbefore⟩ := List.nodup_append.1 hxs
  have hleft : before.flatMap f = [] := List.flatMap_eq_nil_iff.2 fun y hy =>
    hf y (List.mem_append_left _ hy) (hbefore y hy x (List.mem_cons_self ..))
  have hright : after.flatMap f = [] := List.flatMap_eq_nil_iff.2 fun y hy =>
    hf y (by simp [hy]) fun hyx => (List.nodup_cons.1 hafter).1 (hyx ▸ hy)
  rw [List.flatMap_append, List.flatMap_cons, hleft, hright, List.nil_append, List.append_nil]

/-- The problems of an entry of a field are those of the field. -/
theorem issues_entry_of_mem {name : String} (h : name ∈ fieldNames) (value : Value) :
    (Readings.of [(.text name, value)]).issues =
      (Readings.of [(.text name, value)]).problemsOf name := by
  have hunknown : (Readings.of [(.text name, value)]).unknown = [] := by
    simp [Readings.of, unknownIssue?, h]
  have hfields : fieldNames.flatMap (Readings.of [(.text name, value)]).problemsOf =
      (Readings.of [(.text name, value)]).problemsOf name :=
    flatMap_eq_of_mem (by decide) h fun other _ hne =>
      problemsOf_of_not_mem (by simpa [Mapping.keys] using hne)
  rw [Readings.issues_eq_flatMap, hunknown, hfields, List.append_nil]

/-- The problems of an entry that names no field are that of its key. -/
theorem issues_entry_of_not_isNamed {entry : Value × Value}
    (h : entry.1.isNamed fieldNames = false) :
    (Readings.of [entry]).issues = (unknownIssue? entry.1).toList := by
  have hfields : fieldNames.flatMap (Readings.of [entry]).problemsOf = [] := by
    refine List.flatMap_eq_nil_iff.2 fun name hname => problemsOf_of_not_mem fun hmem => ?_
    have hkey : entry.1 = .text name := by simpa [Mapping.keys, eq_comm] using hmem
    rw [hkey, Value.isNamed_text.2 hname] at h
    cases h
  have hunknown : (Readings.of [entry]).unknown = (unknownIssue? entry.1).toList := by
    simp only [Readings.of, List.filterMap_eq_flatMap_toList, List.flatMap_singleton]
  rw [Readings.issues_eq_flatMap, hfields, hunknown, List.nil_append]

/-! ## The problems of a mapping -/

/-- The entries of a mapping in the order in which their problems are listed: those of
fields in the order of declaration, then the others in the order of the mapping. -/
def inOrder (m : Mapping) : Mapping :=
  fieldNames.flatMap (fun name => m.only name) ++ m.without fieldNames

/-- That order has the entries of the mapping. -/
theorem mem_inOrder_iff {m : Mapping} {entry : Value × Value} :
    entry ∈ inOrder m ↔ entry ∈ m := by
  constructor
  · intro h
    rcases List.mem_append.1 h with h | h
    · obtain ⟨name, -, h⟩ := List.mem_flatMap.1 h
      exact (List.mem_filter.1 h).1
    · exact (List.mem_filter.1 h).1
  · intro h
    cases hkey : entry.1.isNamed fieldNames with
    | false => exact List.mem_append_right _ (List.mem_filter.2 ⟨h, by rw [hkey]; rfl⟩)
    | true =>
      obtain ⟨key, value⟩ := entry
      cases key with
      | text name =>
        refine List.mem_append_left _
          (List.mem_flatMap.2 ⟨name, Value.isNamed_text.1 hkey, ?_⟩)
        exact List.mem_filter.2 ⟨h, Value.isNamed_singleton.2 rfl⟩
      | _ => cases hkey

/-- The problems of a field are those of its entry, if it has one. -/
theorem problemsOf_eq_flatMap {m : Mapping} (hm : m.keys.Nodup) {name : String}
    (h : name ∈ fieldNames) :
    (Readings.of m).problemsOf name =
      (m.only name).flatMap fun entry => (Readings.of [entry]).issues := by
  by_cases hmem : .text name ∈ m.keys
  · obtain ⟨⟨key, value⟩, hentry, hkey⟩ := List.mem_map.1 hmem
    obtain rfl : key = .text name := hkey
    have honly := Mapping.only_of_mem hm hentry
    calc (Readings.of m).problemsOf name
        = (Readings.of (m.only name)).problemsOf name :=
          problemsOf_congr (Mapping.get?_only m name).symm
      _ = (Readings.of [(.text name, value)]).issues := by rw [honly, issues_entry_of_mem h]
      _ = (m.only name).flatMap fun entry => (Readings.of [entry]).issues := by
          rw [honly, List.flatMap_singleton]
  · rw [problemsOf_of_not_mem hmem, Mapping.only_of_not_mem hmem, List.flatMap_nil]

/-- The problems of a mapping are the problems of its entries, in order. -/
theorem issues_eq {m : Mapping} (hm : m.keys.Nodup) :
    (Readings.of m).issues = (inOrder m).flatMap fun entry => (Readings.of [entry]).issues := by
  have hfields : fieldNames.flatMap (Readings.of m).problemsOf =
      (fieldNames.flatMap fun name => m.only name).flatMap fun entry =>
        (Readings.of [entry]).issues := by
    rw [List.flatMap_assoc]
    exact List.flatMap_congr fun name hname => problemsOf_eq_flatMap hm hname
  have hunknown : (Readings.of m).unknown =
      (m.without fieldNames).flatMap fun entry => (Readings.of [entry]).issues := by
    calc (Readings.of m).unknown
        = (m.without fieldNames).filterMap fun entry => unknownIssue? entry.1 :=
          (unknown_without (fun _ hname => hname) m).symm
      _ = (m.without fieldNames).flatMap fun entry => (Readings.of [entry]).issues := by
          rw [List.filterMap_eq_flatMap_toList]
          refine List.flatMap_congr fun entry hentry => ?_
          have hkey := (List.mem_filter.1 hentry).2
          rw [issues_entry_of_not_isNamed (by simpa using hkey)]
  rw [Readings.issues_eq_flatMap, hfields, hunknown, inOrder, List.flatMap_append]

/-! ## Accepted mappings -/

/-- The problems that are listed when a mapping is refused as options. -/
def listed (m : Mapping) : List OptionIssue :=
  match ofInput (.value (.map m)) with
  | .error (.configuration (.options issues)) => issues
  | _ => []

theorem listed_eq_issues (m : Mapping) : listed m = (Readings.of m).issues := by
  by_cases h : (Readings.of m).issues = []
  · simp only [listed, ofInput_map, h, if_true]
  · simp only [listed, ofInput_map, if_neg h]

/-- Options that take each field from options of their own. -/
def gather (source : String → Options) : Options where
  format := (source "format").format
  mdExtensions := (source "md_extensions").mdExtensions
  mdxExtensions := (source "mdx_extensions").mdxExtensions
  markdownExtensions := (source "markdown_extensions").markdownExtensions
  development := (source "development").development
  outputShape := (source "output_format").outputShape
  providerImportSource := (source "provider_import_source").providerImportSource
  plugins := (source "plugins").plugins

/-- What a mapping has for one field alone: the options that its entry is accepted as, or
the defaults if there is no such entry. -/
inductive Alone (m : Mapping) (name : String) : Options → Prop where
  | entry {value : Value} {options : Options} (h : (.text name, value) ∈ m)
      (accepted : ofInput (.value (.map [(.text name, value)])) = .ok options) :
      Alone m name options
  | absent (h : .text name ∉ m.keys) : Alone m name {}

/-- Every field is read from its own entry. -/
theorem options_eq_gather (m : Mapping) :
    (Readings.of m).options = gather fun name => (Readings.of (m.only name)).options := by
  have hfield {α : Type} (name : String) (default : α) (read : Value → FieldReading α) :
      readField (m.only name) name default read = readField m name default read := by
    rw [readField, readField, Mapping.get?_only]
  simp only [gather, Readings.options, Readings.of, hfield]

/-- Each field of a mapping without problems has options of its own. -/
theorem alone_only {m : Mapping} (hm : m.keys.Nodup) (h : (Readings.of m).issues = [])
    (name : String) : Alone m name (Readings.of (m.only name)).options := by
  by_cases hmem : .text name ∈ m.keys
  · obtain ⟨⟨key, value⟩, hentry, hkey⟩ := List.mem_map.1 hmem
    obtain rfl : key = .text name := hkey
    have hissues : (Readings.of [(.text name, value)]).issues = [] := by
      rw [issues_eq hm, List.flatMap_eq_nil_iff] at h
      exact h _ (mem_inOrder_iff.2 hentry)
    rw [Mapping.only_of_mem hm hentry]
    exact .entry hentry (by rw [ofInput_map, if_pos hissues])
  · rw [Mapping.only_of_not_mem hmem]
    exact .absent hmem

/-! ## The law -/

/-- How a mapping is checked as options, compared with each of its entries alone. -/
structure FieldWise (m : Mapping) : Prop where
  /-- It is accepted exactly if each entry is accepted alone. -/
  accepted_iff : (∃ options, ofInput (.value (.map m)) = .ok options) ↔
    ∀ entry ∈ m, ∃ options, ofInput (.value (.map [entry])) = .ok options
  /-- Each field is then the one of its own entry, or the default without one. -/
  fields : ∀ options, ofInput (.value (.map m)) = .ok options →
    ∃ source : String → Options, (∀ name ∈ fieldNames, Alone m name (source name)) ∧
      options = gather source
  /-- It is refused with the problems of its entries alone, those of fields in the order of
  declaration and then those of other keys in the order of the mapping. -/
  refused : ∀ failure, ofInput (.value (.map m)) = .error failure →
    failure = .configuration (.options ((inOrder m).flatMap fun entry => listed [entry])) ∧
      failure.message = "Invalid compile options: " ++ "; ".intercalate
        (((inOrder m).flatMap fun entry => listed [entry]).map OptionIssue.message)
  /-- No problem of an entry is hidden by another entry. -/
  unhidden : ∀ entry ∈ m, ∀ issue ∈ listed [entry], issue ∈ listed m
  /-- The order of the fields has no say in any of this. -/
  reordered : ∀ other : Mapping, other.Perm m →
    other.without fieldNames = m.without fieldNames →
      ofInput (.value (.map other)) = ofInput (.value (.map m))

/-- A mapping is read the same whatever the order of its fields. -/
theorem of_reordered {m other : Mapping} (hm : m.keys.Nodup) (hperm : other.Perm m)
    (hunknown : other.without fieldNames = m.without fieldNames) :
    Readings.of other = Readings.of m := by
  have hfield {α : Type} (name : String) (default : α) (read : Value → FieldReading α) :
      readField other name default read = readField m name default read := by
    rw [readField, readField, Mapping.get?_text_of_perm hm hperm]
  have hrest : (other.filterMap fun entry => unknownIssue? entry.1) =
      m.filterMap fun entry => unknownIssue? entry.1 := by
    rw [← unknown_without (fun _ hname => hname) other, hunknown,
      unknown_without fun _ hname => hname]
  simp only [Readings.of, hfield, hrest]

/-- A mapping with one entry to a key is checked entry by entry. -/
theorem field_by_field {m : Mapping} (hm : m.keys.Nodup) : FieldWise m := by
  have hlisted : listed m = (inOrder m).flatMap fun entry => listed [entry] := by
    simp only [listed_eq_issues, issues_eq hm]
  have hnil : (Readings.of m).issues = [] ↔
      ∀ entry ∈ m, (Readings.of [entry]).issues = [] := by
    simp only [issues_eq hm, List.flatMap_eq_nil_iff, mem_inOrder_iff]
  exact {
    accepted_iff := by
      simp only [exists_ofInput_map_iff, hnil]
    fields := by
      intro options h
      have hissues : (Readings.of m).issues = [] := exists_ofInput_map_iff.1 ⟨options, h⟩
      rw [ofInput_map, if_pos hissues] at h
      cases h
      exact ⟨_, fun name _ => alone_only hm hissues name, options_eq_gather m⟩
    refused := by
      intro failure h
      have hissues : (Readings.of m).issues ≠ [] := by
        intro hissues
        rw [ofInput_map, if_pos hissues] at h
        cases h
      rw [ofInput_map, if_neg hissues, ← listed_eq_issues, hlisted] at h
      cases h
      exact ⟨rfl, rfl⟩
    unhidden := by
      intro entry hentry issue hissue
      rw [hlisted]
      exact List.mem_flatMap.2 ⟨entry, mem_inOrder_iff.2 hentry, hissue⟩
    reordered := by
      intro other hperm hunknown
      rw [ofInput_map, ofInput_map, of_reordered hm hperm hunknown] }

/-- Options out of order with problems in three fields, two of them in one list, and two
keys that name no field. -/
def cluttered : Mapping :=
  [(.text "colour", .text "red"),
    (.text "plugins", .list [.int 1, .callable ⟨"wrap", "function"⟩, .none]),
    (.text "format", .text "html"), (.text "", .none), (.text "development", .text "yes"),
    (.text "md_extensions", .list [.text "md"])]

example : listed cluttered =
    [⟨"format", "Input should be 'detect', 'md' or 'mdx'"⟩,
      ⟨"md_extensions", "Value error, invalid extension 'md', expected a suffix like '.md'"⟩,
      ⟨"plugins.0", "Input should be callable"⟩, ⟨"plugins.2", "Input should be callable"⟩,
      ⟨"colour", "Extra inputs are not permitted"⟩, ⟨"", "Extra inputs are not permitted"⟩] := by
  decide +kernel

end Options

end DocPress
