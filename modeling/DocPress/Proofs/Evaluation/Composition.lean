import DocPress.Proofs.Evaluation.Partition
import DocPress.Proofs.Options.FieldByField

/-!
# Checking the options of compiling

The half of the options of evaluating that is meant for compiling is checked like any
other options.  What a caller gave for the fields that evaluating takes out or decides
has no say in that: the half is accepted or refused like the rest of the mapping.

Main results:

- `of_compiletime`: the half is read like the rest, but for the three fields that
  evaluating decides.
- `ofInput_compiletime`: so the half is checked like the rest.
- `checking_composes`: what follows for the options, for the failures, and for two mappings
  that have the same rest.
-/

namespace DocPress

namespace Options

/-! ## What evaluating decides -/

/-- Some readings with the fields that evaluating decides. -/
def Readings.decided (readings : Readings) (development : Bool) (provider : Option String) :
    Readings :=
  { readings with
    development := .ok development
    outputShape := .ok .functionBody
    providerImportSource := .ok provider }

/-- Some options with the fields that evaluating decides. -/
def decided (options : Options) (development : Bool) (provider : Option String) : Options :=
  { options with
    development := development
    outputShape := .functionBody
    providerImportSource := provider }

end Options

namespace Evaluation

/-! ## The rest of a mapping -/

/-- What a mapping says to compiling alone: its entries without the run-time fields and the
fields that evaluating decides. -/
def rest (m : Mapping) : Mapping :=
  m.without (runtimeFieldNames ++ forcedFieldNames)

/-- The rest of a mapping has none of the fields that evaluating decides. -/
theorem not_mem_keys_rest {m : Mapping} {name : String} (h : name ∈ forcedFieldNames) :
    .text name ∉ (rest m).keys :=
  fun hmem => (Mapping.text_mem_keys_without_iff.1 hmem).2 (List.mem_append_right _ h)

/-- What evaluating decides for a mapping: the mode is what the mapping asks for, and
components come from a provider exactly if there is one. -/
structure Decides (m : Mapping) (development : Bool) (provider : Option String) : Prop where
  development_iff : development = true ↔ Develops m
  provider_some_iff : provider = some "#" ↔ Supplies m "use_mdx_components"
  provider_none_iff : provider = none ↔ ¬ Supplies m "use_mdx_components"

variable {m : Mapping} {evaluation : Evaluation}

/-- What evaluating decides is written among the options of compiling. -/
theorem exists_decides (h : Parted m evaluation) :
    ∃ development provider, Decides m development provider ∧
      (.text "development", .bool development) ∈ evaluation.compiletime ∧
      (.text "provider_import_source", (provider.map Value.text).getD .none) ∈
        evaluation.compiletime := by
  obtain ⟨development, hdevelopment, hmode⟩ := h.development
  obtain ⟨value, hvalue, hsome, hnone⟩ := h.provider
  by_cases hs : Supplies m "use_mdx_components"
  · obtain rfl := hsome.2 hs
    exact ⟨development, some "#", ⟨hmode, by simp [hs], by simp [hs]⟩, hdevelopment, hvalue⟩
  · obtain rfl := hnone.2 hs
    exact ⟨development, none, ⟨hmode, by simp [hs], by simp [hs]⟩, hdevelopment, hvalue⟩

/-- The options of compiling are read like the rest of the mapping, but for the fields that
evaluating decides. -/
theorem of_compiletime (h : Parted m evaluation) {development : Bool} {provider : Option String}
    (hd : (.text "development", .bool development) ∈ evaluation.compiletime)
    (hp : (.text "provider_import_source", (provider.map Value.text).getD .none) ∈
      evaluation.compiletime) :
    Options.Readings.of evaluation.compiletime =
      (Options.Readings.of (rest m)).decided development provider := by
  have hfield {α : Type} (name : String) (hname : name ∉ forcedFieldNames) (default : α)
      (read : Value → FieldReading α) :
      Options.readField evaluation.compiletime name default read =
        Options.readField (rest m) name default read := by
    rw [← Options.readField_without hname evaluation.compiletime, h.kept, rest]
  have hunknown : (evaluation.compiletime.filterMap fun entry => Options.unknownIssue? entry.1) =
      (rest m).filterMap fun entry => Options.unknownIssue? entry.1 := by
    have hknown : ∀ name ∈ forcedFieldNames, name ∈ Options.fieldNames := by decide
    rw [← Options.unknown_without hknown, h.kept, rest]
  have hprovider : Options.readField evaluation.compiletime "provider_import_source" none
      (Options.readOptional Options.readText) = .ok provider := by
    rw [Options.readField_of_mem h.nodup hp]
    cases provider <;> rfl
  have hdevelopment : Options.readField evaluation.compiletime "development" false
      Options.readTruth = .ok development :=
    Options.readField_of_mem h.nodup hd
  have hshape : Options.readField evaluation.compiletime "output_format" .program
      Options.readShape = .ok .functionBody :=
    Options.readField_of_mem h.nodup h.outputFormat
  simp only [Options.Readings.of, Options.Readings.decided, hdevelopment, hshape, hprovider,
    hunknown, hfield "format" (by decide), hfield "md_extensions" (by decide),
    hfield "mdx_extensions" (by decide), hfield "markdown_extensions" (by decide),
    hfield "plugins" (by decide)]

/-- What evaluating decides has no problem, and neither has the rest of a mapping there. -/
theorem issues_decided (m : Mapping) (development : Bool) (provider : Option String) :
    ((Options.Readings.of (rest m)).decided development provider).issues =
      (Options.Readings.of (rest m)).issues := by
  have hdevelopment : (Options.Readings.of (rest m)).development = .ok false :=
    Options.readField_of_not_mem (not_mem_keys_rest (by decide))
  have hshape : (Options.Readings.of (rest m)).outputShape = .ok .program :=
    Options.readField_of_not_mem (not_mem_keys_rest (by decide))
  have hprovider : (Options.Readings.of (rest m)).providerImportSource = .ok none :=
    Options.readField_of_not_mem (not_mem_keys_rest (by decide))
  simp only [Options.Readings.issues, Options.Readings.decided, hdevelopment, hshape, hprovider,
    Options.issuesAt, FieldReading.issues_ok]

/-- The options of compiling are checked like the rest of the mapping. -/
theorem ofInput_compiletime (h : Parted m evaluation) :
    ∃ development provider, Decides m development provider ∧
      Options.ofInput (.value (.map evaluation.compiletime)) =
        (Options.ofInput (.value (.map (rest m)))).map (·.decided development provider) := by
  obtain ⟨development, provider, hdecides, hd, hp⟩ := exists_decides h
  refine ⟨development, provider, hdecides, ?_⟩
  have hof := of_compiletime h hd hp
  rw [Options.ofInput_map, Options.ofInput_map, hof, issues_decided]
  split <;> rfl

/-! ## The law -/

/-- How checking the options of compiling goes with checking the rest of a mapping. -/
structure Composes (m : Mapping) (evaluation : Evaluation) : Prop where
  /-- The one is accepted exactly if the other is. -/
  accepted_iff : (∃ options, Options.ofInput (.value (.map evaluation.compiletime)) = .ok options) ↔
    ∃ options, Options.ofInput (.value (.map (rest m))) = .ok options
  /-- The options are the same, but for the fields that evaluating decides. -/
  options_eq : ∀ compiled options,
    Options.ofInput (.value (.map evaluation.compiletime)) = .ok compiled →
    Options.ofInput (.value (.map (rest m))) = .ok options →
      ∃ development provider, Decides m development provider ∧
        compiled = options.decided development provider
  /-- The one is refused exactly as the other is, and so with the same message. -/
  refused_iff : ∀ failure,
    Options.ofInput (.value (.map evaluation.compiletime)) = .error failure ↔
      Options.ofInput (.value (.map (rest m))) = .error failure
  /-- No value of a field that evaluating takes out or decides has a say in that. -/
  indifferent : ∀ (other : Mapping) (parted : Evaluation), other.keys.Nodup →
    ofValue (.map other) = .ok parted → rest other = rest m → ∀ failure,
      Options.ofInput (.value (.map evaluation.compiletime)) = .error failure ↔
        Options.ofInput (.value (.map parted.compiletime)) = .error failure

/-- The options of compiling are refused like the rest of the mapping. -/
theorem ofInput_compiletime_error_iff (h : Parted m evaluation) {failure : Failure} :
    Options.ofInput (.value (.map evaluation.compiletime)) = .error failure ↔
      Options.ofInput (.value (.map (rest m))) = .error failure := by
  obtain ⟨development, provider, -, heq⟩ := ofInput_compiletime h
  rw [heq]
  cases Options.ofInput (.value (.map (rest m))) with
  | error other => simp [Except.map]
  | ok options => simp [Except.map]

/-- The compile-time half of a mapping that is parted is accepted, filled and refused like
the rest of the mapping. -/
theorem checking_composes (hm : m.keys.Nodup) (h : ofValue (.map m) = .ok evaluation) :
    Composes m evaluation := by
  have hparted := parted_of_ok hm h
  obtain ⟨development, provider, hdecides, heq⟩ := ofInput_compiletime hparted
  exact {
    accepted_iff := by
      rw [heq]
      cases Options.ofInput (.value (.map (rest m))) <;> simp [Except.map]
    options_eq := by
      intro compiled options hcompiled hoptions
      rw [heq, hoptions] at hcompiled
      cases hcompiled
      exact ⟨development, provider, hdecides, rfl⟩
    refused_iff := fun failure => ofInput_compiletime_error_iff hparted
    indifferent := by
      intro other parted ho hother hrest failure
      rw [ofInput_compiletime_error_iff hparted,
        ofInput_compiletime_error_iff (parted_of_ok ho hother), hrest] }

/-- Options of evaluating that give what compiling would refuse for each field that
evaluating decides, and for two others. -/
def sloppyOptions : Mapping :=
  [(.text "colour", .text "red"), (.text "development", .text "maybe"),
    (.text "fragment", .text "Fragment"), (.text "output_format", .int 3),
    (.text "format", .text "html"), (.text "provider_import_source", .list []),
    (.text "jsx_dev", .callable ⟨"jsx_dev", "function"⟩)]

theorem checking_composes_sloppyOptions :
    sloppyOptions.keys.Nodup ∧ ∃ evaluation,
      ofValue (.map sloppyOptions) = .ok evaluation ∧ Composes sloppyOptions evaluation := by
  have hm : sloppyOptions.keys.Nodup := by
    simp [sloppyOptions, Mapping.keys]
  exact ⟨hm, _, rfl, checking_composes hm rfl⟩

end Evaluation

end DocPress
