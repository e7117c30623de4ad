import DocPress.Evaluation
import DocPress.Proofs.Value.Naming

/-!
# Parting the options of evaluating

The options of evaluating are one mapping, of which the run-time fields go to one half
and everything else to the other, with three fields that evaluating decides.  This
module says which mappings are refused and for which field, and that in parting a
mapping nothing is lost, nothing is doubled and nothing moves.

Main results:

- `error_iff_misses`: a mapping is refused exactly for the first field that its mode
  needs and that it does not supply.
- `parted_of_ok`: every entry of a mapping that is parted goes to one place.
- `partition_law`: both, and that nothing else in a mapping has a say in its refusal.
-/

namespace DocPress

namespace Evaluation

/-! ## What a mapping says -/

/-- A mapping supplies a field: it has the name, with a value other than nothing. -/
def Supplies (m : Mapping) (name : String) : Prop :=
  ∃ value, (.text name, value) ∈ m ∧ value ≠ .none

/-- A mapping asks for development. -/
def Develops (m : Mapping) : Prop :=
  ∃ value, (.text "development", value) ∈ m ∧ value.isTruthy = true

/-- The value of a field, nothing if the mapping does not have it. -/
def Reads (m : Mapping) (name : String) (value : Value) : Prop :=
  (.text name, value) ∈ m ∨ (.text name ∉ m.keys ∧ value = .none)

/-- The field for which a mapping is refused: the first that its mode needs and that it
does not supply. -/
inductive Misses (m : Mapping) : String → Prop where
  | fragment (missing : ¬ Supplies m "fragment") : Misses m "fragment"
  | jsxDev (fragment : Supplies m "fragment") (mode : Develops m)
      (missing : ¬ Supplies m "jsx_dev") : Misses m "jsx_dev"
  | jsx (fragment : Supplies m "fragment") (mode : ¬ Develops m)
      (missing : ¬ Supplies m "jsx") : Misses m "jsx"
  | jsxs (fragment : Supplies m "fragment") (mode : ¬ Develops m) (jsx : Supplies m "jsx")
      (missing : ¬ Supplies m "jsxs") : Misses m "jsxs"

section Reading

variable {m : Mapping} (hm : m.keys.Nodup)
include hm

theorem reads_iff {name : String} {value : Value} :
    Reads m name value ↔ m.getText name = value :=
  (Mapping.getText_eq_iff hm).symm

theorem supplies_iff {name : String} :
    Supplies m name ↔ (m.getText name).isNone = false := by
  constructor
  · rintro ⟨value, hmem, hvalue⟩
    rw [(Mapping.getText_eq_iff hm).2 (.inl hmem)]
    cases value <;> first | rfl | exact absurd rfl hvalue
  · intro h
    rcases (Mapping.getText_eq_iff hm).1 rfl with hmem | ⟨-, hnone⟩
    · refine ⟨_, hmem, fun hnone => ?_⟩
      rw [hnone] at h
      cases h
    · rw [hnone] at h
      cases h

theorem not_supplies_iff {name : String} :
    ¬ Supplies m name ↔ (m.getText name).isNone = true := by
  rw [supplies_iff hm, Bool.not_eq_false]

theorem develops_iff : Develops m ↔ (m.getText "development").isTruthy = true := by
  constructor
  · rintro ⟨value, hmem, hvalue⟩
    rwa [(Mapping.getText_eq_iff hm).2 (.inl hmem)]
  · intro h
    rcases (Mapping.getText_eq_iff hm).1 rfl with hmem | ⟨-, hnone⟩
    · exact ⟨_, hmem, h⟩
    · rw [hnone] at h
      cases h

/-! ## Refusals -/

/-- The field that is found missing is the one that the mapping misses. -/
theorem missingField?_eq_some_iff {field : String} :
    (RunOptions.ofMapping m).missingField? (m.getText "development").isTruthy = some field ↔
      Misses m field := by
  constructor
  · intro h
    rw [RunOptions.missingField?] at h
    split at h
    case isTrue hfragment =>
      cases h
      exact .fragment ((not_supplies_iff hm).2 hfragment)
    case isFalse hfragment =>
      have hf : Supplies m "fragment" := (supplies_iff hm).2 (Bool.eq_false_iff.2 hfragment)
      split at h
      case isTrue hmode =>
        split at h
        case isTrue hjsxDev =>
          cases h
          exact .jsxDev hf ((develops_iff hm).2 hmode) ((not_supplies_iff hm).2 hjsxDev)
        case isFalse => cases h
      case isFalse hmode =>
        have hd : ¬ Develops m := mt (develops_iff hm).1 hmode
        split at h
        case isTrue hjsx =>
          cases h
          exact .jsx hf hd ((not_supplies_iff hm).2 hjsx)
        case isFalse hjsx =>
          have hj : Supplies m "jsx" := (supplies_iff hm).2 (Bool.eq_false_iff.2 hjsx)
          split at h
          case isTrue hjsxs =>
            cases h
            exact .jsxs hf hd hj ((not_supplies_iff hm).2 hjsxs)
          case isFalse => cases h
  · rintro (hmissing | ⟨hf, hd, hmissing⟩ | ⟨hf, hd, hmissing⟩ | ⟨hf, hd, hj, hmissing⟩)
    all_goals
      simp_all only [supplies_iff, develops_iff, RunOptions.missingField?, RunOptions.ofMapping,
        Bool.not_eq_false, Bool.false_eq_true, if_true, if_false]

end Reading

/-- A mapping is parted as it is, also if it is empty. -/
theorem ofValue_map (m : Mapping) : ofValue (.map m) = ofMapping m := by
  cases m <;> rfl

/-- A mapping is refused exactly for the field that it misses. -/
theorem error_iff_misses {m : Mapping} (hm : m.keys.Nodup) {failure : Failure} :
    ofValue (.map m) = .error failure ↔
      ∃ field, Misses m field ∧ failure = .configuration (.runtimeField field) := by
  simp only [ofValue_map, ofMapping, ← missingField?_eq_some_iff hm]
  cases (RunOptions.ofMapping m).missingField? (m.getText "development").isTruthy with
  | none => simp
  | some field => simp [eq_comm]

/-- Some field is missed exactly if the mode of the mapping needs one that the mapping
does not supply. -/
theorem exists_misses_iff {m : Mapping} :
    (∃ field, Misses m field) ↔
      ¬ Supplies m "fragment" ∨ (Develops m ∧ ¬ Supplies m "jsx_dev") ∨
        (¬ Develops m ∧ (¬ Supplies m "jsx" ∨ ¬ Supplies m "jsxs")) := by
  constructor
  · rintro ⟨field, hmissing | ⟨-, hd, hmissing⟩ | ⟨-, hd, hmissing⟩ | ⟨-, hd, -, hmissing⟩⟩
    · exact .inl hmissing
    · exact .inr (.inl ⟨hd, hmissing⟩)
    · exact .inr (.inr ⟨hd, .inl hmissing⟩)
    · exact .inr (.inr ⟨hd, .inr hmissing⟩)
  · intro h
    by_cases hf : Supplies m "fragment"
    · rcases h.resolve_left (not_not_intro hf) with ⟨hd, hmissing⟩ | ⟨hd, hmissing⟩
      · exact ⟨_, .jsxDev hf hd hmissing⟩
      · by_cases hj : Supplies m "jsx"
        · exact ⟨_, .jsxs hf hd hj (hmissing.resolve_left (not_not_intro hj))⟩
        · exact ⟨_, .jsx hf hd hj⟩
    · exact ⟨_, .fragment hf⟩

/-- Two mappings are alike if they ask for the same mode and supply the same of the
fields that a mode can need. -/
structure Alike (m other : Mapping) : Prop where
  develops : Develops m ↔ Develops other
  supplies : ∀ name ∈ ["fragment", "jsx", "jsx_dev", "jsxs"],
    Supplies m name ↔ Supplies other name

theorem Alike.symm {m other : Mapping} (h : Alike m other) : Alike other m :=
  ⟨h.develops.symm, fun name hname => (h.supplies name hname).symm⟩

/-- Mappings that are alike miss the same field. -/
theorem Alike.misses {m other : Mapping} (h : Alike m other) {field : String}
    (hmisses : Misses m field) : Misses other field := by
  have hfragment := h.supplies "fragment" (by simp)
  have hjsx := h.supplies "jsx" (by simp)
  have hjsxDev := h.supplies "jsx_dev" (by simp)
  have hjsxs := h.supplies "jsxs" (by simp)
  cases hmisses with
  | fragment missing => exact .fragment (mt hfragment.2 missing)
  | jsxDev fragment mode missing =>
    exact .jsxDev (hfragment.1 fragment) (h.develops.1 mode) (mt hjsxDev.2 missing)
  | jsx fragment mode missing =>
    exact .jsx (hfragment.1 fragment) (mt h.develops.2 mode) (mt hjsx.2 missing)
  | jsxs fragment mode jsx missing =>
    exact .jsxs (hfragment.1 fragment) (mt h.develops.2 mode) (hjsx.1 jsx) (mt hjsxs.2 missing)

/-! ## Halves -/

/-- The fields that evaluating decides, whatever a mapping has for them. -/
def forcedFieldNames : List String :=
  ["development", "output_format", "provider_import_source"]

/-- Evaluating decides no run-time field. -/
theorem not_forced_of_runtime : ∀ name ∈ runtimeFieldNames, name ∉ forcedFieldNames := by
  decide

section Halves

variable {m rest : Mapping} {development : Bool} {run : RunOptions}

/-- What is left without the run-time fields and the mode. -/
theorem withoutRuntime_eq (hm : m.keys.Nodup) :
    withoutRuntime m = m.without (runtimeFieldNames ++ ["development"]) :=
  Mapping.foldl_erase_text hm _

/-- The options of compiling have what is left, but for the fields that evaluating
decides. -/
theorem without_compileHalf :
    (compileHalf rest development run).without forcedFieldNames =
      rest.without forcedFieldNames := by
  rw [compileHalf, Mapping.without_insert_text (by simp [forcedFieldNames]),
    Mapping.without_insert_text (by simp [forcedFieldNames]),
    Mapping.without_insert_text (by simp [forcedFieldNames])]

theorem nodup_keys_compileHalf (hr : rest.keys.Nodup) :
    (compileHalf rest development run).keys.Nodup :=
  Mapping.nodup_keys_insert_text
    (Mapping.nodup_keys_insert_text (Mapping.nodup_keys_insert_text hr _ _) _ _) _ _

/-- The mode is among the options of compiling. -/
theorem development_mem_compileHalf :
    (.text "development", .bool development) ∈ compileHalf rest development run :=
  Mapping.mem_insert_text_of_mem _
    (Mapping.mem_insert_text_of_mem _ (Mapping.mem_insert_text_self _ _ _) (by simp)) (by simp)

/-- The shape of the output is among the options of compiling. -/
theorem outputFormat_mem_compileHalf :
    (.text "output_format", .text "function-body") ∈ compileHalf rest development run :=
  Mapping.mem_insert_text_of_mem _ (Mapping.mem_insert_text_self _ _ _) (by simp)

/-- The mark for the provider is among the options of compiling. -/
theorem provider_mem_compileHalf :
    (.text "provider_import_source",
        if run.useComponents.isNone then .none else .text providerMark) ∈
      compileHalf rest development run :=
  Mapping.mem_insert_text_self _ _ _

/-- The run-time fields of a mapping are what the mapping has for their names. -/
theorem mem_toMapping_ofMapping_iff (hm : m.keys.Nodup) {name : String} {value : Value} :
    (.text name, value) ∈ (RunOptions.ofMapping m).toMapping ↔
      name ∈ runtimeFieldNames ∧ Reads m name value := by
  rw [reads_iff hm]
  simp only [RunOptions.toMapping, RunOptions.ofMapping, runtimeFieldNames, List.mem_cons,
    Prod.mk.injEq, Value.text.injEq, List.not_mem_nil, or_false, or_and_right]
  constructor
  · rintro (⟨rfl, rfl⟩ | ⟨rfl, rfl⟩ | ⟨rfl, rfl⟩ | ⟨rfl, rfl⟩ | ⟨rfl, rfl⟩) <;> simp
  · rintro (⟨rfl, rfl⟩ | ⟨rfl, rfl⟩ | ⟨rfl, rfl⟩ | ⟨rfl, rfl⟩ | ⟨rfl, rfl⟩) <;> simp

end Halves

/-- A mapping is parted without loss and without doubling. -/
structure Parted (m : Mapping) (evaluation : Evaluation) : Prop where
  /-- No run-time field is among the options of compiling. -/
  runtime_absent : ∀ name ∈ runtimeFieldNames, .text name ∉ evaluation.compiletime.keys
  /-- The run-time fields are what the mapping has for their names. -/
  runtime_iff : ∀ name value, (.text name, value) ∈ evaluation.runtime.toMapping ↔
    name ∈ runtimeFieldNames ∧ Reads m name value
  /-- Every other entry that evaluating does not decide is among the options of compiling,
  in the order of the mapping, and no further one. -/
  kept : evaluation.compiletime.without forcedFieldNames =
    m.without (runtimeFieldNames ++ forcedFieldNames)
  /-- There is one entry to a key. -/
  nodup : evaluation.compiletime.keys.Nodup
  /-- The mode is what the mapping asks for. -/
  development : ∃ development, (.text "development", .bool development) ∈ evaluation.compiletime ∧
    (development = true ↔ Develops m)
  /-- The output is a function body. -/
  outputFormat : (.text "output_format", .text "function-body") ∈ evaluation.compiletime
  /-- Components come from a provider exactly if there is one. -/
  provider : ∃ provider, (.text "provider_import_source", provider) ∈ evaluation.compiletime ∧
    (provider = .text "#" ↔ Supplies m "use_mdx_components") ∧
    (provider = .none ↔ ¬ Supplies m "use_mdx_components")

/-- A mapping that is not refused is parted without loss and without doubling. -/
theorem parted_of_ok {m : Mapping} (hm : m.keys.Nodup) {evaluation : Evaluation}
    (h : ofValue (.map m) = .ok evaluation) : Parted m evaluation := by
  rw [ofValue_map, ofMapping] at h
  cases hf : (RunOptions.ofMapping m).missingField? (m.getText "development").isTruthy with
  | some field =>
    rw [hf] at h
    cases h
  | none =>
    simp only [hf, Except.ok.injEq] at h
    subst h
    have hrest : (withoutRuntime m).keys.Nodup := by
      rw [withoutRuntime_eq hm]
      exact Mapping.nodup_keys_without hm _
    have hkept : (compileHalf (withoutRuntime m) (m.getText "development").isTruthy
        (RunOptions.ofMapping m)).without forcedFieldNames =
          m.without (runtimeFieldNames ++ forcedFieldNames) := by
      rw [without_compileHalf, withoutRuntime_eq hm, ← Mapping.without_append]
      refine List.filter_congr fun entry _ => ?_
      cases entry.1 <;> simp [Value.isNamed, forcedFieldNames]
    exact {
      runtime_absent := by
        intro name hname hmem
        have hleft := Mapping.text_mem_keys_without_iff.2 ⟨hmem, not_forced_of_runtime name hname⟩
        rw [hkept, Mapping.text_mem_keys_without_iff] at hleft
        exact hleft.2 (List.mem_append_left _ hname)
      runtime_iff := fun name value => mem_toMapping_ofMapping_iff hm
      kept := hkept
      nodup := nodup_keys_compileHalf hrest
      development := ⟨_, development_mem_compileHalf, (develops_iff hm).symm⟩
      outputFormat := outputFormat_mem_compileHalf
      provider := by
        refine ⟨_, provider_mem_compileHalf, ?_⟩
        rw [supplies_iff hm]
        cases h : (RunOptions.ofMapping m).useComponents.isNone <;>
          simp_all [RunOptions.ofMapping, providerMark] }

/-! ## The law -/

/-- How a mapping of options of evaluating is parted, or refused. -/
structure Lawful (m : Mapping) : Prop where
  /-- It is refused exactly if its mode needs a field that it does not supply. -/
  fails_iff : (∃ failure, ofValue (.map m) = .error failure) ↔
    ¬ Supplies m "fragment" ∨ (Develops m ∧ ¬ Supplies m "jsx_dev") ∨
      (¬ Develops m ∧ (¬ Supplies m "jsx" ∨ ¬ Supplies m "jsxs"))
  /-- It is refused for the first such field. -/
  error_iff : ∀ failure, ofValue (.map m) = .error failure ↔
    ∃ field, Misses m field ∧ failure = .configuration (.runtimeField field)
  /-- Nothing else in it, and no order, has a say in that. -/
  error_congr : ∀ other : Mapping, other.keys.Nodup → Alike m other → ∀ failure,
    ofValue (.map m) = .error failure ↔ ofValue (.map other) = .error failure
  /-- It is parted without loss and without doubling if it is not refused. -/
  parted : ∀ evaluation, ofValue (.map m) = .ok evaluation → Parted m evaluation

/-- A mapping with one entry to a key is parted without loss and without doubling, or
refused for the first field that its mode needs and that it does not supply. -/
theorem partition_law {m : Mapping} (hm : m.keys.Nodup) : Lawful m where
  fails_iff := by
    rw [← exists_misses_iff]
    simp only [error_iff_misses hm]
    exact ⟨fun ⟨_, field, hmisses, _⟩ => ⟨field, hmisses⟩,
      fun ⟨field, hmisses⟩ => ⟨_, field, hmisses, rfl⟩⟩
  error_iff failure := error_iff_misses hm
  error_congr other ho h failure := by
    rw [error_iff_misses hm, error_iff_misses ho]
    constructor
    · rintro ⟨field, hmisses, hfailure⟩
      exact ⟨field, h.misses hmisses, hfailure⟩
    · rintro ⟨field, hmisses, hfailure⟩
      exact ⟨field, h.symm.misses hmisses, hfailure⟩
  parted evaluation h := parted_of_ok hm h

/-- Options of evaluating out of order, with a shape of the output that gives way, a mode
that does not count as true, a run-time field that is there but nothing, and one that is
not needed. -/
def mixedOptions : Mapping :=
  [(.text "jsxs", .callable ⟨"jsxs", "function"⟩), (.text "output_format", .text "program"),
    (.text "format", .text "mdx"), (.text "use_mdx_components", .none),
    (.text "fragment", .text "Fragment"), (.text "development", .int 0),
    (.text "plugins", .list []), (.text "jsx", .callable ⟨"jsx", "function"⟩),
    (.text "jsx_dev", .callable ⟨"jsx_dev", "function"⟩)]

theorem partition_law_mixedOptions :
    mixedOptions.keys.Nodup ∧ Lawful mixedOptions ∧
      ∃ evaluation, ofValue (.map mixedOptions) = .ok evaluation ∧
        Parted mixedOptions evaluation := by
  have hm : mixedOptions.keys.Nodup := by
    simp [mixedOptions, Mapping.keys]
  exact ⟨hm, partition_law hm, _, rfl, (partition_law hm).parted _ rfl⟩

end Evaluation

end DocPress
