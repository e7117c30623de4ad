import DocPress.Proofs.FrontMatter.Taking
import DocPress.Proofs.Yaml.Faults
import DocPress.Renderer

/-!
# Sources that are always split

Splitting is meant to answer for every source: a block that cannot be loaded stays in the
source, and so it takes the engine to make rendering fail.  That is so unless a scalar in
the block denotes no value, for then the fault goes through.

Main results:

- `split_error_iff`: splitting fails exactly if a scalar in the block denotes no value.
- `isTotal_iff`: so splitting is total exactly on the other sources.
- `totality_law`: that, what happens instead, and a condition on the tokens and the nodes of
  the block.
-/

namespace DocPress.FrontMatter

/-- Splitting is total on a source: it answers, a block that cannot be loaded for whatever
reason stays in the source, and only the engine can make rendering fail. -/
structure IsTotal (source : List Char) : Prop where
  answers : ∃ taken, split source = .ok taken
  left_whole : ∀ block fault, Delimits source block →
    Yaml.load (Text.joinLines block.inside) = .error fault → split source = .ok ⟨[], source⟩
  renders : ∀ {σ : Type} (E : Engine σ) (renderer : Renderer σ) (failure : Failure),
    (renderer.render E (.text (String.ofList source))).1 = .error failure →
      ∃ reason, failure = .conversion reason

variable {source : List Char} {block : Block}

/-! ## Splitting -/

/-- Splitting fails exactly if a scalar in the block denotes no value. -/
theorem split_error_iff {fault : Yaml.ScalarFault} :
    split source = .error fault ↔
      ∃ block, Delimits source block ∧
        Yaml.load (Text.joinLines block.inside) = .error (.scalar fault) := by
  constructor
  · intro h
    have hcase := splitCase_splitWith Yaml.load source
    rw [← split, h] at hcase
    cases hcase with
    | faulty hd hl => exact ⟨_, hd, hl⟩
  · rintro ⟨block, hd, hl⟩
    simp only [split, splitWith, block?_eq_some_iff.2 hd, hl]

/-! ## Rendering -/

section Rendering

variable {σ : Type} {E : Engine σ} {renderer : Renderer σ}

/-- A text is split as its characters are. -/
theorem ofValue_text (source : List Char) :
    ofValue (.text (String.ofList source)) = (split source).mapError Failure.scalar := by
  rw [ofValue, String.toList_ofList]

/-- Once a source is split, only the engine can make rendering fail. -/
theorem conversion_of_render_error {taken : Split} (hs : split source = .ok taken)
    {failure : Failure}
    (h : (renderer.render E (.text (String.ofList source))).1 = .error failure) :
    ∃ reason, failure = .conversion reason := by
  have hvalue : ofValue (.text (String.ofList source)) = .ok taken := by
    rw [ofValue_text, hs]
    rfl
  rcases hc : E.convertAnew (String.ofList taken.body) renderer.engine
    with ⟨reason | html, engine⟩
  · simp only [Renderer.render, hvalue, hc, Except.error.injEq] at h
    exact ⟨reason, h.symm⟩
  · simp [Renderer.render, hvalue, hc] at h

/-- A source that cannot be split cannot be rendered, for the same reason, and the engine
is not asked. -/
theorem render_of_fault {fault : Yaml.ScalarFault} (hs : split source = .error fault) :
    renderer.render E (.text (String.ofList source)) = (.error (.scalar fault), renderer) := by
  refine Renderer.render_of_split_error E renderer ?_
  rw [ofValue_text, hs]
  rfl

end Rendering

/-! ## Totality -/

/-- Splitting is total exactly on the sources without a block in which a scalar denotes no
value. -/
theorem isTotal_iff :
    IsTotal source ↔ ∀ block fault, Delimits source block →
      Yaml.load (Text.joinLines block.inside) ≠ .error (.scalar fault) := by
  constructor
  · intro h block fault hd hl
    obtain ⟨taken, htaken⟩ := h.answers
    have hfault := split_error_iff.2 ⟨block, hd, hl⟩
    cases htaken.symm.trans hfault
  · intro h
    have hanswers : ∃ taken, split source = .ok taken := by
      cases hs : split source with
      | ok taken => exact ⟨taken, rfl⟩
      | error fault =>
        obtain ⟨block, hd, hl⟩ := split_error_iff.1 hs
        exact absurd hl (h block fault hd)
    constructor
    case answers => exact hanswers
    case left_whole =>
      intro block fault hd hl
      cases fault with
      | malformed => exact splitWith_of_malformed (block?_eq_some_iff.2 hd) hl
      | scalar fault => exact absurd hl (h block fault hd)
    case renders =>
      intro σ E renderer failure hfailure
      obtain ⟨taken, htaken⟩ := hanswers
      exact conversion_of_render_error htaken hfailure

/-- How splitting a source goes, and rendering it. -/
structure TotalityLaw (source : List Char) : Prop where
  /-- Splitting is total unless a scalar in the block denotes no value. -/
  isTotal_iff : IsTotal source ↔ ∀ block fault, Delimits source block →
    Yaml.load (Text.joinLines block.inside) ≠ .error (.scalar fault)
  /-- It is total if no token of the block stands for a fault and no node is to blame. -/
  isTotal_of_blameless : (∀ block, Delimits source block →
    Yaml.IsBlameless (Text.joinLines block.inside)) → IsTotal source
  /-- Otherwise the fault of the scalar goes through, also in rendering, and the engine is
  not asked. -/
  fails : ∀ block fault, Delimits source block →
    Yaml.load (Text.joinLines block.inside) = .error (.scalar fault) →
      split source = .error fault ∧
      ∀ {σ : Type} (E : Engine σ) (renderer : Renderer σ),
        renderer.render E (.text (String.ofList source)) = (.error (.scalar fault), renderer)

/-- Splitting is total unless a scalar in the block denotes no value, whose fault then goes
through. -/
theorem totality_law (source : List Char) : TotalityLaw source where
  isTotal_iff := isTotal_iff
  isTotal_of_blameless h := FrontMatter.isTotal_iff.2 fun block fault hd =>
    (h block hd).load_ne fault
  fails block fault hd hl := by
    have hs := split_error_iff.2 ⟨block, hd, hl⟩
    exact ⟨hs, fun E renderer => render_of_fault hs⟩

/-- A date that no calendar has is a fault that goes through. -/
theorem not_isTotal_leapDay : ¬ IsTotal "---\na: 2001-02-30\n---\n".toList := by
  intro h
  obtain ⟨taken, htaken⟩ := h.answers
  have hanswered : (split "---\na: 2001-02-30\n---\n".toList).toOption.isSome = true := by
    rw [htaken]
    rfl
  have hfails : (split "---\na: 2001-02-30\n---\n".toList).toOption.isSome = false := by
    decide +kernel
  cases hanswered.symm.trans hfails

end DocPress.FrontMatter
