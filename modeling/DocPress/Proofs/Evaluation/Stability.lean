import DocPress.Proofs.Evaluation.Partition
import DocPress.Proofs.Value.Updating
import Mathlib.Data.List.Nodup
import Mathlib.Logic.Relation

/-!
# Parting again

The two halves of the options of evaluating can be put together and parted again.  The
run-time half comes back as it was, and so do the options of compiling, but for their
order: evaluating takes the mode out and writes it behind the others.  From the second
time on the mode is last already, and nothing moves any more.

Main results:

- `Fits.parts_again`: what parting makes of the union of two halves.
- `Fits.settled`: the second time, parting gives back what it was given.
- `parting_stable`: both, for the halves of any mapping and for any number of times.
-/

namespace DocPress.Evaluation

/-! ## Putting halves together -/

/-- A mapping unites the two halves of an evaluation: it has the entries of both, in any
order. -/
def Unites (u : Mapping) (evaluation : Evaluation) : Prop :=
  u.Perm (evaluation.compiletime ++ evaluation.runtime.toMapping)

/-- A mapping unites the two halves of an evaluation and keeps the order of the options of
compiling. -/
structure UnitesInOrder (u : Mapping) (evaluation : Evaluation) : Prop where
  unites : Unites u evaluation
  inOrder : u.without runtimeFieldNames = evaluation.compiletime

/-- Halves as parting gives them: the fields that evaluating decides fit the run-time
fields, and nothing that the mode needs is missing. -/
structure Fits (evaluation : Evaluation) (development : Bool) : Prop where
  nodup : evaluation.compiletime.keys.Nodup
  runtime_absent : ∀ name ∈ runtimeFieldNames, .text name ∉ evaluation.compiletime.keys
  development_mem : (.text "development", .bool development) ∈ evaluation.compiletime
  outputFormat_mem : (.text "output_format", .text "function-body") ∈ evaluation.compiletime
  provider_mem : (.text "provider_import_source",
      if evaluation.runtime.useComponents.isNone then .none else .text providerMark) ∈
    evaluation.compiletime
  missingField?_eq : evaluation.runtime.missingField? development = none

/-- The halves of a mapping that is parted fit. -/
theorem exists_fits {m : Mapping} (hm : m.keys.Nodup) {evaluation : Evaluation}
    (h : ofValue (.map m) = .ok evaluation) : ∃ development, Fits evaluation development := by
  have hparted := parted_of_ok hm h
  rw [ofValue_map, ofMapping] at h
  cases hf : (RunOptions.ofMapping m).missingField? (m.getText "development").isTruthy with
  | some field =>
    rw [hf] at h
    cases h
  | none =>
    simp only [hf, Except.ok.injEq] at h
    subst h
    exact ⟨_, hparted.nodup, hparted.runtime_absent, development_mem_compileHalf,
      outputFormat_mem_compileHalf, provider_mem_compileHalf, hf⟩

theorem keys_runtime (run : RunOptions) :
    run.toMapping.keys = runtimeFieldNames.map Value.text := rfl

theorem without_toMapping (run : RunOptions) :
    run.toMapping.without runtimeFieldNames = [] := rfl

section Again

variable {evaluation : Evaluation} {development : Bool} {u : Mapping}

/-- Halves that fit have no key in common. -/
theorem Fits.disjoint (h : Fits evaluation development) :
    evaluation.compiletime.keys.Disjoint evaluation.runtime.toMapping.keys := by
  intro key hcompiletime hruntime
  rw [keys_runtime] at hruntime
  obtain ⟨name, hname, rfl⟩ := List.mem_map.1 hruntime
  exact h.runtime_absent name hname hcompiletime

/-- The order of the options of compiling does not matter for halves to fit. -/
theorem Fits.of_perm (h : Fits evaluation development) {compiletime : Mapping}
    (hperm : compiletime.Perm evaluation.compiletime) :
    Fits ⟨compiletime, evaluation.runtime⟩ development where
  nodup := (hperm.map Prod.fst).nodup_iff.2 h.nodup
  runtime_absent name hname hmem :=
    h.runtime_absent name hname ((hperm.map Prod.fst).mem_iff.1 hmem)
  development_mem := hperm.mem_iff.2 h.development_mem
  outputFormat_mem := hperm.mem_iff.2 h.outputFormat_mem
  provider_mem := hperm.mem_iff.2 h.provider_mem
  missingField?_eq := h.missingField?_eq

/-- The union of halves that fit has one entry to a key. -/
theorem Fits.nodup_keys_of_unites (h : Fits evaluation development) (hu : Unites u evaluation) :
    u.keys.Nodup := by
  have hruntime : evaluation.runtime.toMapping.keys.Nodup := by
    rw [keys_runtime]
    simp [runtimeFieldNames]
  have hunion : (evaluation.compiletime ++ evaluation.runtime.toMapping).keys.Nodup := by
    rw [Mapping.keys, List.map_append]
    exact h.nodup.append hruntime h.disjoint
  exact (hu.map Prod.fst).nodup_iff.2 hunion

/-- The union has the run-time half. -/
theorem Fits.ofMapping_of_unites (h : Fits evaluation development) (hu : Unites u evaluation) :
    RunOptions.ofMapping u = evaluation.runtime := by
  have hread (name : String) (value : Value)
      (hmem : (.text name, value) ∈ evaluation.runtime.toMapping) : u.getText name = value :=
    (Mapping.getText_eq_iff (h.nodup_keys_of_unites hu)).2
      (.inl (hu.mem_iff.2 (List.mem_append_right _ hmem)))
  obtain ⟨compiletime, fragment, jsx, jsxDev, jsxs, useComponents⟩ := evaluation
  rw [RunOptions.ofMapping, hread "fragment" fragment (by simp [RunOptions.toMapping]),
    hread "jsx" jsx (by simp [RunOptions.toMapping]),
    hread "jsx_dev" jsxDev (by simp [RunOptions.toMapping]),
    hread "jsxs" jsxs (by simp [RunOptions.toMapping]),
    hread "use_mdx_components" useComponents (by simp [RunOptions.toMapping])]

/-! ## Parting once more -/

/-- What is left of a union without the run-time fields, with the mode behind it. -/
def modeLast (u : Mapping) (development : Bool) : Mapping :=
  u.without (runtimeFieldNames ++ ["development"]) ++ [(.text "development", .bool development)]

/-- With the mode taken out, only what was left is there. -/
theorem without_modeLast (u : Mapping) (development : Bool) :
    (modeLast u development).without ["development"] =
      u.without (runtimeFieldNames ++ ["development"]) := by
  have hleft : (u.without (runtimeFieldNames ++ ["development"])).without ["development"] =
      u.without (runtimeFieldNames ++ ["development"]) := by
    refine Mapping.without_eq_self fun name hname hmem => ?_
    exact (Mapping.text_mem_keys_without_iff.1 hmem).2 (List.mem_append_right _ hname)
  have hmode : Mapping.without ["development"] [(.text "development", .bool development)] = [] :=
    rfl
  rw [modeLast, Mapping.without_concat, hleft, hmode, List.append_nil]

/-- A union without the run-time fields is the half that is meant for compiling. -/
theorem Fits.without_runtime_append (h : Fits evaluation development) :
    Mapping.without runtimeFieldNames
      (evaluation.compiletime ++ evaluation.runtime.toMapping) = evaluation.compiletime := by
  rw [Mapping.without_concat, without_toMapping, List.append_nil,
    Mapping.without_eq_self h.runtime_absent]

/-- However the halves are united, the half that is meant for compiling is left. -/
theorem Fits.without_runtime_perm (h : Fits evaluation development) (hu : Unites u evaluation) :
    (u.without runtimeFieldNames).Perm evaluation.compiletime := by
  have hfilter : (u.without runtimeFieldNames).Perm (Mapping.without runtimeFieldNames
      (evaluation.compiletime ++ evaluation.runtime.toMapping)) := hu.filter _
  rwa [h.without_runtime_append] at hfilter

/-- The options of compiling come back, with the mode at the end. -/
theorem Fits.modeLast_perm (h : Fits evaluation development) (hu : Unites u evaluation) :
    (modeLast u development).Perm evaluation.compiletime := by
  have honly := Mapping.only_of_mem h.nodup h.development_mem
  calc modeLast u development
      = (u.without runtimeFieldNames).without ["development"] ++
          evaluation.compiletime.only "development" := by
        rw [modeLast, Mapping.without_append, honly]
    List.Perm _ (evaluation.compiletime.without ["development"] ++
          evaluation.compiletime.only "development") :=
        ((h.without_runtime_perm hu).filter _).append_right _
    List.Perm _ (evaluation.compiletime.only "development" ++
          evaluation.compiletime.without ["development"]) := List.perm_append_comm
    List.Perm _ evaluation.compiletime := Mapping.only_append_without_perm _ _

/-- A union of halves that fit is parted into the run-time half and the options of compiling
with the mode at the end. -/
theorem Fits.parts_again (h : Fits evaluation development) (hu : Unites u evaluation) :
    ofValue (.map u) = .ok ⟨modeLast u development, evaluation.runtime⟩ := by
  have hnodup := h.nodup_keys_of_unites hu
  have hperm := h.modeLast_perm hu
  have hmode : u.getText "development" = .bool development :=
    (Mapping.getText_eq_iff hnodup).2
      (.inl (hu.mem_iff.2 (List.mem_append_left _ h.development_mem)))
  have hrest : withoutRuntime u = u.without (runtimeFieldNames ++ ["development"]) :=
    withoutRuntime_eq hnodup
  have habsent : .text "development" ∉ (withoutRuntime u).keys := by
    rw [hrest]
    exact fun hmem => (Mapping.text_mem_keys_without_iff.1 hmem).2 (by simp)
  have hlast : (withoutRuntime u).insert (.text "development") (.bool development) =
      modeLast u development := by
    rw [Mapping.insert_text_of_not_mem _ habsent, hrest, modeLast]
  have hfits := h.of_perm hperm
  -- The mode was taken out, so it is written behind the rest; the other two fields are still
  -- there, with the values that are written, and stay where they are.
  have hhalf : compileHalf (withoutRuntime u) development evaluation.runtime =
      modeLast u development := by
    rw [compileHalf, hlast, Mapping.insert_text_of_mem hfits.nodup hfits.outputFormat_mem]
    exact Mapping.insert_text_of_mem hfits.nodup hfits.provider_mem
  simp only [ofValue_map, ofMapping, h.ofMapping_of_unites hu, hmode, Value.isTruthy,
    h.missingField?_eq, hhalf]

/-- The second time, parting gives back what it was given. -/
theorem Fits.settled (h : Fits evaluation development) (hu : Unites u evaluation)
    {second : Evaluation} (hsecond : ofValue (.map u) = .ok second) {v : Mapping}
    (hv : UnitesInOrder v second) : ofValue (.map v) = .ok second := by
  rw [h.parts_again hu] at hsecond
  cases hsecond
  have hfits := h.of_perm (h.modeLast_perm hu)
  -- The first parting has put the mode last: taking it out and writing it again moves nothing.
  have hsame : modeLast v development = modeLast u development := by
    rw [modeLast, Mapping.without_append, hv.inOrder, without_modeLast, modeLast]
  rw [hfits.parts_again hv.unites, hsame]

/-- Writing the run-time half into the other unites them. -/
theorem Fits.unites_update (h : Fits evaluation development) :
    UnitesInOrder (evaluation.compiletime.update evaluation.runtime.toMapping) evaluation := by
  have hnames : Mapping.AreNames evaluation.runtime.toMapping := by
    refine ⟨fun key hkey => ?_, ?_⟩
    · rw [keys_runtime] at hkey
      obtain ⟨name, -, rfl⟩ := List.mem_map.1 hkey
      exact ⟨name, rfl⟩
    · rw [keys_runtime]
      simp [runtimeFieldNames]
  rw [Mapping.update_eq_append hnames fun key hkey hmem => h.disjoint hmem hkey]
  exact ⟨.refl _, h.without_runtime_append⟩

/-- Writing the options of compiling into the run-time half unites them too. -/
theorem Fits.unites_update_runtime (h : Fits evaluation development)
    (htexts : ∀ key ∈ evaluation.compiletime.keys, ∃ name, key = .text name) :
    UnitesInOrder (evaluation.runtime.toMapping.update evaluation.compiletime) evaluation := by
  have hnames : Mapping.AreNames evaluation.compiletime := ⟨htexts, h.nodup⟩
  rw [Mapping.update_eq_append hnames fun key hkey hmem => h.disjoint hkey hmem]
  refine ⟨List.perm_append_comm, ?_⟩
  rw [Mapping.without_concat, without_toMapping, List.nil_append,
    Mapping.without_eq_self h.runtime_absent]

end Again

/-! ## The law -/

/-- Parting once more: the halves of an evaluation are united in order and the union is
parted. -/
def Again (evaluation later : Evaluation) : Prop :=
  ∃ u, UnitesInOrder u evaluation ∧ ofValue (.map u) = .ok later

/-- What comes of parting the halves of an evaluation again. -/
structure Stable (first : Evaluation) : Prop where
  /-- The halves have no key in common. -/
  disjoint : first.compiletime.keys.Disjoint first.runtime.toMapping.keys
  /-- Whichever half is written into the other, the halves are united, in order. -/
  merged : UnitesInOrder (first.compiletime.update first.runtime.toMapping) first ∧
    ((∀ key ∈ first.compiletime.keys, ∃ name, key = .text name) →
      UnitesInOrder (first.runtime.toMapping.update first.compiletime) first)
  /-- However they are united, the union is parted into the same run-time half and the same
  options of compiling, perhaps in another order. -/
  again : ∀ u, Unites u first → ∃ second, ofValue (.map u) = .ok second ∧
    second.runtime = first.runtime ∧ second.compiletime.Perm first.compiletime
  /-- Then the union of these halves is parted into just these halves. -/
  settled : ∀ u second, Unites u first → ofValue (.map u) = .ok second →
    ∀ v, UnitesInOrder v second → ofValue (.map v) = .ok second
  /-- So nothing changes any more, however often they are parted again. -/
  forever : ∀ u second, Unites u first → ofValue (.map u) = .ok second →
    ∀ later, Relation.ReflTransGen Again second later → later = second

/-- Halves that parting gives back are those of any later time. -/
theorem eq_of_reflTransGen {second later : Evaluation}
    (hsecond : ∀ v, UnitesInOrder v second → ofValue (.map v) = .ok second)
    (h : Relation.ReflTransGen Again second later) : later = second := by
  induction h with
  | refl => rfl
  | tail _ hstep ih =>
    subst ih
    obtain ⟨v, hv, hlater⟩ := hstep
    rw [hsecond v hv] at hlater
    cases hlater
    rfl

/-- The halves of a mapping that is parted can be united and parted again: nothing changes
but the order of the options of compiling, and that only the first time. -/
theorem parting_stable {m : Mapping} (hm : m.keys.Nodup) {first : Evaluation}
    (h : ofValue (.map m) = .ok first) : Stable first := by
  obtain ⟨development, hfits⟩ := exists_fits hm h
  have hsettled (u : Mapping) (second : Evaluation) (hu : Unites u first)
      (hsecond : ofValue (.map u) = .ok second) (v : Mapping) (hv : UnitesInOrder v second) :
      ofValue (.map v) = .ok second :=
    hfits.settled hu hsecond hv
  exact {
    disjoint := hfits.disjoint
    merged := ⟨hfits.unites_update, hfits.unites_update_runtime⟩
    again := fun u hu => ⟨_, hfits.parts_again hu, rfl, hfits.modeLast_perm hu⟩
    settled := hsettled
    forever := fun u second hu hsecond later hlater =>
      eq_of_reflTransGen (hsettled u second hu hsecond) hlater }

/-- The mode of these options moves behind the mark for the provider when they are parted
again. -/
theorem parting_stable_mixedOptions :
    mixedOptions.keys.Nodup ∧ ∃ first second,
      ofValue (.map mixedOptions) = .ok first ∧ Stable first ∧
      ofValue (.map (first.compiletime.update first.runtime.toMapping)) = .ok second ∧
      first.compiletime.keys.getLast? = some (.text "provider_import_source") ∧
      second.compiletime.keys.getLast? = some (.text "development") := by
  have hm : mixedOptions.keys.Nodup := by
    simp [mixedOptions, Mapping.keys]
  exact ⟨hm, _, _, rfl, parting_stable hm rfl, rfl, rfl, rfl⟩

end DocPress.Evaluation
