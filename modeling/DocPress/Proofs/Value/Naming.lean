import DocPress.Value.Mapping

/-!
# The entries of names

Keys of options and metadata are names.  This module parts the entries of a mapping by
their names: those of some names are taken away, or those of one name are kept.

Main results:

- `without_append`: names are taken away together or one after the other.
- `get?_without` and `get?_only`: what the names that are left read.
- `only_of_mem`: a name has one entry.
-/

namespace DocPress

/-! ## Taking names away -/

/-- Whether a key is one of some names. -/
def Value.isNamed (names : List String) : Value → Bool
  | .text name => names.contains name
  | _ => false

@[simp] theorem Value.isNamed_text {names : List String} {name : String} :
    Value.isNamed names (.text name) = true ↔ name ∈ names := by
  simp [Value.isNamed]

theorem Value.isNamed_singleton {key : Value} {name : String} :
    key.isNamed [name] = true ↔ key = .text name := by
  cases key <;> simp [Value.isNamed]

/-- A mapping without the entries of some names. -/
def Mapping.without (names : List String) (m : Mapping) : Mapping :=
  m.filter fun entry => !entry.1.isNamed names

namespace Mapping

variable {m : Mapping} {names others : List String}

@[simp] theorem without_nil : m.without [] = m := by
  refine List.filter_eq_self.2 fun entry _ => ?_
  cases entry.1 <;> rfl

theorem without_append : m.without (names ++ others) = (m.without names).without others := by
  rw [without, without, without, List.filter_filter]
  refine List.filter_congr fun entry _ => ?_
  cases entry.1 <;> simp [Value.isNamed, Bool.and_comm]

/-- Names are taken away from each of two mappings that stand behind each other. -/
theorem without_concat (m other : Mapping) :
    Mapping.without names (m ++ other) = m.without names ++ other.without names :=
  List.filter_append m other

theorem nodup_keys_without (hm : m.keys.Nodup) (names : List String) :
    (m.without names).keys.Nodup :=
  hm.sublist (List.filter_sublist.map Prod.fst)

/-- The names that are left are those that were there and are not taken away. -/
theorem text_mem_keys_without_iff {name : String} :
    .text name ∈ (m.without names).keys ↔ .text name ∈ m.keys ∧ name ∉ names := by
  simp only [keys, without, List.mem_map, List.mem_filter, Bool.not_eq_true']
  constructor
  · rintro ⟨entry, ⟨hmem, hentry⟩, hkey⟩
    refine ⟨⟨entry, hmem, hkey⟩, fun hname => ?_⟩
    rw [hkey, Value.isNamed_text.2 hname] at hentry
    cases hentry
  · rintro ⟨⟨entry, hmem, hkey⟩, hname⟩
    refine ⟨entry, ⟨hmem, ?_⟩, hkey⟩
    rw [hkey]
    exact Bool.eq_false_iff.2 (mt Value.isNamed_text.1 hname)

/-- A mapping that has none of the names keeps all entries. -/
theorem without_eq_self (h : ∀ name ∈ names, .text name ∉ m.keys) : m.without names = m := by
  refine List.filter_eq_self.2 fun entry hentry => ?_
  obtain ⟨key, value⟩ := entry
  cases key with
  | text name =>
    have hkey : Value.text name ∈ m.keys := List.mem_map.2 ⟨_, hentry, rfl⟩
    rw [Bool.not_eq_true', ← Bool.not_eq_true, Value.isNamed_text]
    exact fun hname => h name hname hkey
  | _ => rfl

/-- Erasing names one after the other takes their entries away. -/
theorem foldl_erase_text (hm : m.keys.Nodup) (names : List String) :
    names.foldl (fun m name => m.erase (.text name)) m = m.without names := by
  induction names generalizing m with
  | nil => rw [List.foldl_nil, without_nil]
  | cons name names ih =>
    have hfirst : m.erase (.text name) = m.without [name] := by
      rw [erase_text hm, without]
      refine List.filter_congr fun entry _ => ?_
      rw [Bool.not_inj_iff, Bool.eq_iff_iff, Value.sameKey_text_right_iff]
      cases entry.1 <;> simp [Value.isNamed]
    rw [List.foldl_cons, hfirst, ih (nodup_keys_without hm _), ← without_append,
      List.singleton_append]

/-- Writing to a name changes nothing but its entry. -/
theorem without_insert_text {name : String} (h : name ∈ names) (m : Mapping) (value : Value) :
    (m.insert (.text name) value).without names = m.without names :=
  filter_insert_text m value (p := fun key => !key.isNamed names) (by simp [Value.isNamed, h])

/-- A name that is not taken away reads what it did. -/
theorem get?_without {name : String} (h : name ∉ names) (m : Mapping) :
    (m.without names).get? (.text name) = m.get? (.text name) := by
  induction m with
  | nil => rfl
  | cons entry rest ih =>
    obtain ⟨key, value⟩ := entry
    rw [without] at ih ⊢
    cases hkey : key.isNamed names with
    | true =>
      have hother : key.sameKey (.text name) = false := by
        refine Bool.eq_false_iff.2 fun hsame => h ?_
        rw [Value.sameKey_text_right_iff.1 hsame] at hkey
        exact Value.isNamed_text.1 hkey
      simp only [List.filter_cons, hkey, Bool.not_true, Bool.false_eq_true, if_false, ih, get?,
        hother]
    | false =>
      simp only [List.filter_cons, hkey, Bool.not_false, if_true, get?, ih]

/-! ## The entries of one name -/

/-- The entries of a mapping that have a name as their key. -/
def only (name : String) (m : Mapping) : Mapping :=
  m.filter fun entry => entry.1.isNamed [name]

section Only

variable {m rest : Mapping} {entry : Value × Value} {name : String}

theorem only_cons_of_eq (h : entry.1 = .text name) :
    Mapping.only name (entry :: rest) = entry :: Mapping.only name rest :=
  List.filter_cons_of_pos (p := fun entry : Value × Value => entry.1.isNamed [name])
    (Value.isNamed_singleton.2 h)

theorem only_cons_of_ne (h : entry.1 ≠ .text name) :
    Mapping.only name (entry :: rest) = Mapping.only name rest :=
  List.filter_cons_of_neg (p := fun entry : Value × Value => entry.1.isNamed [name])
    (mt Value.isNamed_singleton.1 h)

theorem only_of_not_mem (h : .text name ∉ m.keys) : m.only name = [] := by
  rw [only, List.filter_eq_nil_iff]
  intro entry hentry hkey
  exact h (List.mem_map.2 ⟨entry, hentry, Value.isNamed_singleton.1 hkey⟩)

theorem only_of_mem (hm : m.keys.Nodup) {value : Value} (h : (.text name, value) ∈ m) :
    m.only name = [(.text name, value)] := by
  induction m with
  | nil => cases h
  | cons entry rest ih =>
    obtain ⟨hfirst, hrest⟩ := List.nodup_cons.1 hm
    rcases List.mem_cons.1 h with rfl | h
    · rw [only_cons_of_eq rfl, only_of_not_mem hfirst]
    · have hne : entry.1 ≠ .text name := fun hkey =>
        hfirst (hkey ▸ List.mem_map.2 ⟨_, h, rfl⟩)
      rw [only_cons_of_ne hne, ih hrest h]

/-- The entries of a name and those without it are all entries. -/
theorem only_append_without_perm (name : String) (m : Mapping) :
    (m.only name ++ m.without [name]).Perm m :=
  List.filter_append_perm (fun entry : Value × Value => entry.1.isNamed [name]) m

/-- A name reads the same among its own entries. -/
theorem get?_only (m : Mapping) (name : String) :
    (m.only name).get? (.text name) = m.get? (.text name) := by
  induction m with
  | nil => rfl
  | cons entry rest ih =>
    obtain ⟨key, value⟩ := entry
    by_cases hkey : key = .text name
    · rw [only_cons_of_eq hkey, get?, get?, if_pos (Value.sameKey_text_right_iff.2 hkey),
        if_pos (Value.sameKey_text_right_iff.2 hkey)]
    · rw [only_cons_of_ne hkey, ih, get?, if_neg (mt Value.sameKey_text_right_iff.1 hkey)]

end Only

end Mapping

end DocPress
