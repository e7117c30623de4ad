import DocPress.Value

/-!
# Mappings

A mapping is the list of its entries in order, one entry to a key.  Writing to a
key that is present keeps its place; a new key goes to the end.

Main results:

- `get?_insert_text` and `get?_insert_text_of_ne`: reading after writing a text key.
- `keys_insert_text_of_mem`: writing to a present key moves nothing.
- `keys_insert_text_of_not_mem`: a new key goes to the end.
- `insert_text_of_mem`: writing what is there already changes nothing.
- `get?_erase_text_of_ne`: other text keys survive an erasure.
- `get?_text_of_perm`: a text key reads the same whatever the order of the entries.
- `getText_eq_iff`: the value at a text key is that of its entry, or nothing.
- `erase_text`: erasing a text key leaves the other entries, in order.
-/

namespace DocPress.Mapping

/-! ## Operations -/

/-- The value at a key. -/
def get? : Mapping → Value → Option Value
  | [], _ => none
  | (k, v) :: rest, key => if k.sameKey key then some v else get? rest key

/-- Write a value to a key. -/
def insert : Mapping → Value → Value → Mapping
  | [], key, value => [(key, value)]
  | (k, v) :: rest, key, value =>
    if k.sameKey key then (k, value) :: rest else (k, v) :: insert rest key value

/-- Write the entries of one mapping into another, in order. -/
def update (m entries : Mapping) : Mapping :=
  entries.foldl (fun m entry => insert m entry.1 entry.2) m

/-- Drop the entry at a key. -/
def erase : Mapping → Value → Mapping
  | [], _ => []
  | (k, v) :: rest, key => if k.sameKey key then rest else (k, v) :: erase rest key

/-- The keys, in order. -/
def keys (m : Mapping) : List Value :=
  m.map Prod.fst

/-- The value at a text key, nothing if it is absent. -/
def getText (m : Mapping) (key : String) : Value :=
  (get? m (.text key)).getD .none

/-! ## Reading after writing -/

/-- A text key reads what was written to it. -/
@[simp] theorem get?_insert_text (m : Mapping) (key : String) (value : Value) :
    get? (insert m (.text key) value) (.text key) = some value := by
  induction m with
  | nil => simp [insert, get?]
  | cons entry rest ih =>
    obtain ⟨k, v⟩ := entry
    by_cases h : k.sameKey (.text key) = true <;> simp [insert, get?, h, ih]

/-- Other text keys read what they did before. -/
theorem get?_insert_text_of_ne (m : Mapping) {key other : String} (value : Value)
    (hne : other ≠ key) :
    get? (insert m (.text key) value) (.text other) = get? m (.text other) := by
  induction m with
  | nil => simp [insert, get?, hne.symm]
  | cons entry rest ih =>
    obtain ⟨k, v⟩ := entry
    by_cases h : k.sameKey (.text key) = true
    · obtain rfl := Value.sameKey_text_right_iff.1 h
      simp [insert, get?, hne.symm]
    · by_cases h' : k.sameKey (.text other) = true <;> simp [insert, get?, h, h', ih]

/-- Writing to a present key moves nothing. -/
theorem keys_insert_text_of_mem {m : Mapping} {key : String} (value : Value)
    (h : .text key ∈ keys m) : keys (insert m (.text key) value) = keys m := by
  induction m with
  | nil => simp [keys] at h
  | cons entry rest ih =>
    obtain ⟨k, v⟩ := entry
    by_cases hk : k.sameKey (.text key) = true
    · simp [insert, keys, hk]
    · have hne : Value.text key ≠ k := by
        rintro rfl
        simp at hk
      have hm : .text key ∈ keys rest := by
        simpa [keys, hne] using h
      simpa [insert, keys, hk] using ih hm

/-- A new key goes to the end. -/
theorem keys_insert_text_of_not_mem {m : Mapping} {key : String} (value : Value)
    (h : .text key ∉ keys m) : keys (insert m (.text key) value) = keys m ++ [.text key] := by
  induction m with
  | nil => rfl
  | cons entry rest ih =>
    obtain ⟨k, v⟩ := entry
    have hk : ¬ k.sameKey (.text key) = true := by
      intro hk
      exact h (by simp [keys, Value.sameKey_text_right_iff.1 hk])
    have hm : .text key ∉ keys rest := fun hm => h (by simp [keys] at hm ⊢; exact Or.inr hm)
    simpa [insert, keys, hk] using ih hm

/-- A new key goes to the end with its value, behind entries that stay. -/
theorem insert_text_of_not_mem {m : Mapping} {key : String} (value : Value)
    (h : .text key ∉ keys m) : insert m (.text key) value = m ++ [(.text key, value)] := by
  induction m with
  | nil => rfl
  | cons entry rest ih =>
    obtain ⟨k, v⟩ := entry
    obtain ⟨hfirst, hrest⟩ := not_or.1 (mt List.mem_cons.2 h)
    have hk : ¬ k.sameKey (.text key) = true := fun hsame =>
      hfirst (Value.sameKey_text_right_iff.1 hsame).symm
    rw [insert, if_neg hk, ih hrest, List.cons_append]

/-- Writing what is there already changes nothing. -/
theorem insert_text_of_mem {m : Mapping} (hm : (keys m).Nodup) {key : String} {value : Value}
    (h : (.text key, value) ∈ m) : insert m (.text key) value = m := by
  induction m with
  | nil => cases h
  | cons entry rest ih =>
    obtain ⟨k, v⟩ := entry
    obtain ⟨hfirst, hrest⟩ := List.nodup_cons.1 hm
    rcases List.mem_cons.1 h with heq | h
    · cases heq
      rw [insert, if_pos (Value.sameKey_text_right_iff.2 rfl)]
    · have hk : ¬ k.sameKey (.text key) = true := fun hsame =>
        hfirst (Value.sameKey_text_right_iff.1 hsame ▸ List.mem_map.2 ⟨_, h, rfl⟩)
      rw [insert, if_neg hk, ih hrest h]

/-! ## Reading after erasing -/

/-- Other text keys survive an erasure. -/
theorem get?_erase_text_of_ne (m : Mapping) {key other : String} (hne : other ≠ key) :
    get? (erase m (.text key)) (.text other) = get? m (.text other) := by
  induction m with
  | nil => rfl
  | cons entry rest ih =>
    obtain ⟨k, v⟩ := entry
    by_cases h : k.sameKey (.text key) = true
    · obtain rfl := Value.sameKey_text_right_iff.1 h
      simp [erase, get?, hne.symm]
    · by_cases h' : k.sameKey (.text other) = true <;> simp [erase, get?, h, h', ih]

/-! ## Entries -/

/-- A text key that reads nothing has no entry. -/
theorem get?_text_eq_none_iff {m : Mapping} {key : String} :
    get? m (.text key) = none ↔ .text key ∉ keys m := by
  induction m with
  | nil => simp [get?, keys]
  | cons entry rest ih =>
    obtain ⟨k, v⟩ := entry
    by_cases h : k.sameKey (.text key) = true
    · obtain rfl := Value.sameKey_text_right_iff.1 h
      simp [get?, keys]
    · have hne : Value.text key ≠ k := by
        rintro rfl
        simp at h
      simpa [get?, keys, h, hne] using ih

/-- What a text key reads is in its entry, if there is one entry to a key. -/
theorem get?_text_eq_some_iff {m : Mapping} (hm : (keys m).Nodup) {key : String} {value : Value} :
    get? m (.text key) = some value ↔ (.text key, value) ∈ m := by
  induction m with
  | nil => simp [get?]
  | cons entry rest ih =>
    obtain ⟨k, v⟩ := entry
    obtain ⟨hfirst, hrest⟩ := List.nodup_cons.1 hm
    by_cases h : k.sameKey (.text key) = true
    · obtain rfl := Value.sameKey_text_right_iff.1 h
      have habsent : (.text key, value) ∉ rest := fun hmem =>
        hfirst (List.mem_map.2 ⟨_, hmem, rfl⟩)
      simp only [get?, h, if_true, Option.some.injEq, List.mem_cons, Prod.mk.injEq, true_and,
        habsent, or_false]
      exact eq_comm
    · have hne : Value.text key ≠ k := by
        rintro rfl
        simp at h
      simp [get?, h, hne, ih hrest]

/-- A text key reads the same whatever the order of the entries. -/
theorem get?_text_of_perm {m other : Mapping} (hm : (keys m).Nodup) (h : other.Perm m)
    (key : String) : get? other (.text key) = get? m (.text key) := by
  have hother : (keys other).Nodup := (h.map Prod.fst).nodup_iff.2 hm
  refine Option.ext fun value => ?_
  rw [get?_text_eq_some_iff hother, h.mem_iff, get?_text_eq_some_iff hm]

/-- The value at a text key is that of its entry, or nothing if it has none. -/
theorem getText_eq_iff {m : Mapping} (hm : (keys m).Nodup) {key : String} {value : Value} :
    getText m key = value ↔
      (.text key, value) ∈ m ∨ (.text key ∉ keys m ∧ value = .none) := by
  rw [getText, ← get?_text_eq_some_iff hm, ← get?_text_eq_none_iff]
  cases get? m (.text key) <;> simp [eq_comm]

/-- Erasing a text key leaves the other entries, in order. -/
theorem erase_text {m : Mapping} (hm : (keys m).Nodup) (key : String) :
    erase m (.text key) = m.filter fun entry => !entry.1.sameKey (.text key) := by
  induction m with
  | nil => rfl
  | cons entry rest ih =>
    obtain ⟨k, v⟩ := entry
    obtain ⟨hfirst, hrest⟩ := List.nodup_cons.1 hm
    by_cases h : k.sameKey (.text key) = true
    · obtain rfl := Value.sameKey_text_right_iff.1 h
      have hothers : ∀ entry ∈ rest, (!entry.1.sameKey (.text key)) = true := by
        intro entry hmem
        rw [Bool.not_eq_true', ← Bool.not_eq_true, Value.sameKey_text_right_iff]
        exact fun heq => hfirst (List.mem_map.2 ⟨entry, hmem, heq⟩)
      simp [erase, List.filter_eq_self.2 hothers]
    · simp [erase, h, ih hrest]

/-- Writing to a text key leaves the entries of other keys as they are, in order. -/
theorem filter_insert_text (m : Mapping) {key : String} (value : Value) {p : Value → Bool}
    (hp : p (.text key) = false) :
    (insert m (.text key) value).filter (fun entry => p entry.1) =
      m.filter fun entry => p entry.1 := by
  induction m with
  | nil => simp [insert, hp]
  | cons entry rest ih =>
    obtain ⟨k, v⟩ := entry
    by_cases h : k.sameKey (.text key) = true
    · obtain rfl := Value.sameKey_text_right_iff.1 h
      simp [insert, hp]
    · simp [insert, h, List.filter_cons, ih]

/-- Writing to a text key keeps one entry to a key. -/
theorem nodup_keys_insert_text {m : Mapping} (hm : (keys m).Nodup) (key : String)
    (value : Value) : (keys (insert m (.text key) value)).Nodup := by
  by_cases h : .text key ∈ keys m
  · rwa [keys_insert_text_of_mem value h]
  · rw [keys_insert_text_of_not_mem value h]
    refine List.nodup_append.2 ⟨hm, by simp, ?_⟩
    rintro k hk other hother rfl
    exact h (List.mem_singleton.1 hother ▸ hk)

/-- What was written to a text key is in its entry. -/
theorem mem_insert_text_self (m : Mapping) (key : String) (value : Value) :
    (.text key, value) ∈ insert m (.text key) value := by
  induction m with
  | nil => simp [insert]
  | cons entry rest ih =>
    obtain ⟨k, v⟩ := entry
    by_cases h : k.sameKey (.text key) = true
    · obtain rfl := Value.sameKey_text_right_iff.1 h
      simp [insert]
    · simp [insert, h, ih]

/-- Writing to a text key keeps the entries of other keys. -/
theorem mem_insert_text_of_mem {m : Mapping} {key : String} {entry : Value × Value}
    (value : Value) (h : entry ∈ m) (hne : entry.1 ≠ .text key) :
    entry ∈ insert m (.text key) value := by
  have hself : (!(Value.text key).sameKey (.text key)) = false := by simp
  have hkept := filter_insert_text m (p := fun k => !k.sameKey (.text key)) value hself
  have hentry : (!entry.1.sameKey (.text key)) = true := by
    rwa [Bool.not_eq_true', ← Bool.not_eq_true, Value.sameKey_text_right_iff]
  exact (List.mem_filter.1 (hkept ▸ List.mem_filter.2 ⟨h, hentry⟩)).1

end DocPress.Mapping
