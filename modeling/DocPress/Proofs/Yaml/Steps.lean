import DocPress.Yaml.Fault

/-!
# Steps of reading

Nodes are built, and collections filled, in steps that pass on a state and may refuse the
text.  A property of the state that every step keeps is kept by their sequence, and so is
what is known of the scalars for which a text is refused.

Main results:

- `Reading.MeetsNone.bind`: readings that meet no scalar without a value follow each other.
- `Keeps.bind`: steps that keep something follow each other.
-/

namespace DocPress.Yaml

/-! ## Readings -/

/-- A reading meets no scalar without a value. -/
def Reading.MeetsNone {α : Type} (reading : Reading α) : Prop :=
  ∀ fault, reading ≠ .error (.scalar fault)

theorem meetsNone_pure {α : Type} (result : α) : Reading.MeetsNone (pure result) := by
  rintro fault ⟨⟩

theorem meetsNone_malformed {α : Type} : Reading.MeetsNone (.error .malformed : Reading α) := by
  rintro fault ⟨⟩

theorem Reading.MeetsNone.bind {α β : Type} {reading : Reading α} {next : α → Reading β}
    (h : reading.MeetsNone) (hnext : ∀ result, (next result).MeetsNone) :
    Reading.MeetsNone (reading >>= next) := by
  cases hr : reading with
  | error fault =>
    cases fault with
    | malformed => exact meetsNone_malformed
    | scalar fault => exact absurd hr (h fault)
  | ok result => exact hnext result

theorem meetsNone_mapM {α β : Type} {f : α → Reading β} (h : ∀ a, (f a).MeetsNone)
    (items : List α) : Reading.MeetsNone (items.mapM f) := by
  induction items with
  | nil => exact meetsNone_pure []
  | cons item items ih =>
    rw [List.mapM_cons]
    exact (h item).bind fun _ => ih.bind fun _ => meetsNone_pure _

/-! ## Steps -/

/-- A step keeps what holds of the state, and if it refuses the text because a scalar
denotes no value, then something is known of the fault. -/
structure Keeps {τ α : Type} (Holds : τ → Prop) (Known : ScalarFault → Prop)
    (step : StateT τ (Except ReadFault) α) : Prop where
  keeps : ∀ state result later, Holds state → step.run state = .ok (result, later) → Holds later
  known : ∀ state fault, Holds state → step.run state = .error (.scalar fault) → Known fault

section Rules

variable {τ α β : Type} {Holds : τ → Prop} {Known : ScalarFault → Prop}

theorem keeps_pure (result : α) : Keeps Holds Known (pure result) where
  keeps := by
    rintro state _ later hstate ⟨⟩
    exact hstate
  known := by rintro state fault hstate ⟨⟩

/-- A text may be refused for a scalar of which enough is known. -/
theorem keeps_throw {fault : ReadFault} (h : ∀ met, fault = .scalar met → Known met) :
    Keeps Holds Known (throw fault : StateT τ (Except ReadFault) α) where
  keeps := by rintro state result later hstate ⟨⟩
  known := by
    rintro state met hstate ⟨⟩
    exact h met rfl

theorem keeps_malformed : Keeps Holds Known (throw .malformed : StateT τ (Except ReadFault) α) :=
  keeps_throw fun _ hmet => by cases hmet

/-- Steps that keep something follow each other. -/
theorem Keeps.bind {step : StateT τ (Except ReadFault) α}
    {next : α → StateT τ (Except ReadFault) β} (h : Keeps Holds Known step)
    (hnext : ∀ result, Keeps Holds Known (next result)) : Keeps Holds Known (step >>= next) where
  keeps state last later hstate hrun := by
    rw [StateT.run_bind] at hrun
    cases hstep : step.run state with
    | error fault =>
      rw [hstep] at hrun
      cases hrun
    | ok reached =>
      rw [hstep] at hrun
      have hreached := h.keeps state reached.1 reached.2 hstate hstep
      exact (hnext reached.1).keeps reached.2 last later hreached hrun
  known state fault hstate hrun := by
    rw [StateT.run_bind] at hrun
    cases hstep : step.run state with
    | error first =>
      rw [hstep] at hrun
      cases hrun
      exact h.known state fault hstate hstep
    | ok reached =>
      rw [hstep] at hrun
      have hreached := h.keeps state reached.1 reached.2 hstate hstep
      exact (hnext reached.1).known reached.2 fault hreached hrun

theorem Keeps.map {step : StateT τ (Except ReadFault) α} (h : Keeps Holds Known step)
    (f : α → β) : Keeps Holds Known (f <$> step) := by
  rw [map_eq_pure_bind]
  exact h.bind fun result => keeps_pure (f result)

/-- A step that looks at the state knows what holds of it. -/
theorem keeps_get_bind {next : τ → StateT τ (Except ReadFault) β}
    (h : ∀ state, Holds state → Keeps Holds Known (next state)) :
    Keeps Holds Known (get >>= next) where
  keeps state result later hstate hrun := (h state hstate).keeps state result later hstate hrun
  known state fault hstate hrun := (h state hstate).known state fault hstate hrun

theorem keeps_set {state : τ} (h : Holds state) :
    Keeps Holds Known (set state : StateT τ (Except ReadFault) PUnit) where
  keeps := by
    rintro before _ later hbefore ⟨⟩
    exact h
  known := by rintro before fault hbefore ⟨⟩

theorem keeps_modify {change : τ → τ} (h : ∀ state, Holds state → Holds (change state)) :
    Keeps Holds Known (modify change : StateT τ (Except ReadFault) PUnit) where
  keeps := by
    rintro state _ later hstate ⟨⟩
    exact h state hstate
  known := by rintro state fault hstate ⟨⟩

/-- A reading may be part of a step. -/
theorem keeps_lift_bind {reading : Reading α} {next : α → StateT τ (Except ReadFault) β}
    (hk : ∀ fault, reading = .error (.scalar fault) → Known fault)
    (hn : ∀ result, reading = .ok result → Keeps Holds Known (next result)) :
    Keeps Holds Known (liftM reading >>= next) := by
  cases hr : reading with
  | error fault =>
    refine keeps_throw fun met hmet => hk met ?_
    rw [hr, hmet]
  | ok result => exact hn result hr

/-- A step that is taken on a condition may stand in front of others. -/
theorem keeps_unless {condition : Prop} [Decidable condition]
    {step : StateT τ (Except ReadFault) PUnit} {next : PUnit → StateT τ (Except ReadFault) β}
    (h : Keeps Holds Known step) (hnext : ∀ result, Keeps Holds Known (next result)) :
    Keeps Holds Known (if condition then step >>= next else next ⟨⟩) := by
  split
  · exact h.bind hnext
  · exact hnext ⟨⟩

/-- One of two steps may stand in front of others. -/
theorem keeps_either {condition : Prop} [Decidable condition]
    {first second : StateT τ (Except ReadFault) α} {next : α → StateT τ (Except ReadFault) β}
    (h : Keeps Holds Known first) (h' : Keeps Holds Known second)
    (hnext : ∀ result, Keeps Holds Known (next result)) :
    Keeps Holds Known (if condition then first >>= next else second >>= next) := by
  split
  · exact h.bind hnext
  · exact h'.bind hnext

theorem keeps_forM {step : α → StateT τ (Except ReadFault) PUnit}
    (h : ∀ item, Keeps Holds Known (step item)) (items : List α) :
    Keeps Holds Known (items.forM step) := by
  induction items with
  | nil => exact keeps_pure _
  | cons item items ih => exact (h item).bind fun _ => ih

end Rules

end DocPress.Yaml
