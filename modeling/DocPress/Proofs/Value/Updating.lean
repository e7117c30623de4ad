import DocPress.Proofs.Value.Naming

/-!
# Writing many entries

Writing the entries of one mapping into another gives every name its new value.  Names that
are there keep their places, new ones go to the end in order, and all other entries stay.

Main results:

- `get?_update_text`: a name that is written reads its new value.
- `keys_update`: the keys are those that were there, and the new ones behind them.
- `update_eq_append`: names that are all new go to the end with their values.
- `without_update`: entries of other names stay as they are, in order.
-/

namespace DocPress.Mapping

variable {m entries : Mapping}

@[simp] theorem update_nil (m : Mapping) : m.update [] = m := rfl

@[simp] theorem update_cons (m : Mapping) (key value : Value) (entries : Mapping) :
    m.update ((key, value) :: entries) = (m.insert key value).update entries := rfl

/-- The keys of a mapping are names, each once. -/
structure AreNames (entries : Mapping) : Prop where
  texts : ∀ key ∈ keys entries, ∃ name, key = .text name
  nodup : (keys entries).Nodup

/-- The first of some names, and that it is none of the others. -/
theorem AreNames.of_cons {key value : Value} (h : AreNames ((key, value) :: entries)) :
    AreNames entries ∧ ∃ name, key = .text name ∧ .text name ∉ keys entries := by
  obtain ⟨hfirst, hrest⟩ := List.nodup_cons.1 h.nodup
  obtain ⟨name, hname⟩ := h.texts key (List.mem_cons_self ..)
  have hkey : Value.text name ∉ keys entries := by
    rw [← hname]
    exact hfirst
  have htexts : ∀ key ∈ keys entries, ∃ name, key = .text name := by
    intro other hother
    exact h.texts other (List.mem_cons_of_mem key hother)
  exact ⟨⟨htexts, hrest⟩, name, hname, hkey⟩

/-- A name that is not written reads what it did before. -/
theorem get?_update_text_of_not_mem (h : AreNames entries) (m : Mapping) {name : String}
    (hname : .text name ∉ keys entries) :
    (m.update entries).get? (.text name) = m.get? (.text name) := by
  induction entries generalizing m with
  | nil => rfl
  | cons entry entries ih =>
    obtain ⟨key, value⟩ := entry
    obtain ⟨hrest, first, rfl, -⟩ := h.of_cons
    have hne : name ≠ first := by
      rintro rfl
      exact hname (List.mem_cons_self ..)
    have hothers : Value.text name ∉ keys entries := fun hmem =>
      hname (List.mem_cons_of_mem (Value.text first) hmem)
    rw [update_cons, ih hrest (m.insert (.text first) value) hothers]
    exact get?_insert_text_of_ne m value hne

/-- A name that is written reads its new value. -/
theorem get?_update_text (h : AreNames entries) (m : Mapping) {name : String} {value : Value}
    (hmem : (.text name, value) ∈ entries) : (m.update entries).get? (.text name) = some value := by
  induction entries generalizing m with
  | nil => cases hmem
  | cons entry entries ih =>
    obtain ⟨key, first⟩ := entry
    obtain ⟨hrest, other, rfl, hother⟩ := h.of_cons
    rw [update_cons]
    rcases List.mem_cons.1 hmem with heq | hmem
    · obtain ⟨hname, rfl⟩ := Prod.mk.inj heq
      obtain rfl := Value.text.inj hname
      rw [get?_update_text_of_not_mem hrest _ hother, get?_insert_text]
    · exact ih hrest (m.insert (.text other) first) hmem

/-- The keys are those that were there, and behind them those that are new. -/
theorem keys_update (h : AreNames entries) (m : Mapping) :
    keys (m.update entries) =
      keys m ++ (keys entries).filter fun key => (m.get? key).isNone := by
  induction entries generalizing m with
  | nil => simp [keys]
  | cons entry entries ih =>
    obtain ⟨key, value⟩ := entry
    obtain ⟨hrest, name, rfl, hname⟩ := h.of_cons
    -- What is new among the others does not depend on the name that is written first.
    have hothers : ((keys entries).filter fun key =>
        ((m.insert (.text name) value).get? key).isNone) =
          (keys entries).filter fun key => (m.get? key).isNone := by
      apply List.filter_congr
      intro key hkey
      obtain ⟨other, rfl⟩ := hrest.texts key hkey
      have hne : other ≠ name := by
        rintro rfl
        exact hname hkey
      rw [get?_insert_text_of_ne m value hne]
    have hkeys : keys ((.text name, value) :: entries) = Value.text name :: keys entries := rfl
    rw [update_cons, ih hrest, hothers, hkeys]
    by_cases hmem : .text name ∈ keys m
    · have hsome : (m.get? (.text name)).isNone = false := by
        rw [← Bool.not_eq_true, Option.isNone_iff_eq_none, get?_text_eq_none_iff]
        exact not_not_intro hmem
      rw [keys_insert_text_of_mem value hmem, List.filter_cons, hsome, if_neg Bool.false_ne_true]
    · have hnone : (m.get? (.text name)).isNone = true := by
        rw [Option.isNone_iff_eq_none, get?_text_eq_none_iff]
        exact hmem
      rw [keys_insert_text_of_not_mem value hmem, List.filter_cons, hnone, if_pos rfl,
        List.append_assoc, List.singleton_append]

/-- Names that are all new go to the end with their values. -/
theorem update_eq_append (h : AreNames entries) (hnew : ∀ key ∈ keys entries, key ∉ keys m) :
    m.update entries = m ++ entries := by
  induction entries generalizing m with
  | nil => rw [update_nil, List.append_nil]
  | cons entry entries ih =>
    obtain ⟨key, value⟩ := entry
    obtain ⟨hrest, name, rfl, hname⟩ := h.of_cons
    have hfirst : m.insert (.text name) value = m ++ [(.text name, value)] :=
      insert_text_of_not_mem value (hnew _ (List.mem_cons_self ..))
    have hothers : ∀ key ∈ keys entries, key ∉ keys (m ++ [(.text name, value)]) := by
      intro key hkey hmem
      rw [keys, List.map_append] at hmem
      rcases List.mem_append.1 hmem with hmem | hmem
      · exact hnew key (List.mem_cons_of_mem _ hkey) hmem
      · have hkeyname : key = .text name := List.mem_singleton.1 hmem
        exact hname (hkeyname ▸ hkey)
    rw [update_cons, hfirst, ih hrest hothers, List.append_assoc, List.singleton_append]

/-- Entries of other names stay as they are, in order. -/
theorem without_update {names : List String} (m : Mapping)
    (h : ∀ key ∈ keys entries, ∃ name ∈ names, key = .text name) :
    (m.update entries).without names = m.without names := by
  induction entries generalizing m with
  | nil => rfl
  | cons entry entries ih =>
    obtain ⟨key, value⟩ := entry
    obtain ⟨name, hname, rfl⟩ := h key (List.mem_cons_self ..)
    have hrest : ∀ key ∈ keys entries, ∃ name ∈ names, key = .text name := by
      intro other hother
      exact h other (List.mem_cons_of_mem (Value.text name) hother)
    rw [update_cons, ih (m.insert (.text name) value) hrest]
    exact without_insert_text hname m value

end DocPress.Mapping
