import DocPress.Proofs.FrontMatter.Noting
import Mathlib.Data.List.Chain

/-!
# What is left of a source

The body of a source is put together from lines, with line feeds for whatever boundaries
there were and with one more where the source ends in one.  It is shorter than the source all
the same once a block is taken, so the body is the source just where nothing is taken: no
source is noted that lost its front matter, and taking front matter off what is left comes to
an end.

Main results:

- `length_rests_le`: front matter is taken off a source and what is left of it at most once
  for every seven characters.
- `exists_rests`: taking ends with a text off which nothing is taken.
- `shortening_law`: that, for every way of reading blocks, and the notes.
-/

namespace DocPress.FrontMatter

/-! ## Taking again and again -/

/-- Front matter is taken off a source, and the other text is what is left of it. -/
def Leaves (load : List Char → Yaml.Reading Value) (source rest : List Char) : Prop :=
  Takes load source ∧ ∃ metadata, splitWith load source = .ok ⟨metadata, rest⟩

section Taking

variable {load : List Char → Yaml.Reading Value} {source rest : List Char}

/-- Something is left wherever front matter is taken. -/
theorem exists_leaves (h : Takes load source) : ∃ rest, Leaves load source rest := by
  obtain ⟨block, metadata, -, hs⟩ := splitWith_of_takes h
  exact ⟨_, h, metadata, hs⟩

/-- What is left is shorter, by the dashes around a block and a boundary at least. -/
theorem Leaves.length_le (h : Leaves load source rest) : rest.length + 7 ≤ source.length := by
  obtain ⟨htakes, metadata, hs⟩ := h
  obtain ⟨block, other, hd, htaken⟩ := splitWith_of_takes htakes
  rw [hs] at htaken
  cases htaken
  exact length_body_le hd

/-- What is left again and again is used up with the source. -/
theorem length_rests_le {rests : List (List Char)}
    (h : List.IsChain (Leaves load) (source :: rests)) : 7 * rests.length ≤ source.length := by
  induction rests generalizing source with
  | nil => exact Nat.zero_le _
  | cons rest rests ih =>
    obtain ⟨hleaves, hrests⟩ := List.isChain_cons_cons.1 h
    have hstep := hleaves.length_le
    have htail := ih hrests
    rw [List.length_cons]
    omega

/-- Taking again and again ends with a text off which nothing is taken. -/
theorem exists_rests (load : List Char → Yaml.Reading Value) (source : List Char) :
    ∃ rests, List.IsChain (Leaves load) (source :: rests) ∧
      ¬ Takes load (rests.getLastD source) := by
  induction hn : source.length using Nat.strongRecOn generalizing source with
  | ind n ih =>
    by_cases htakes : Takes load source
    · obtain ⟨rest, hleaves⟩ := exists_leaves htakes
      have hshorter := hleaves.length_le
      obtain ⟨rests, hchain, hlast⟩ := ih rest.length (by omega) rest rfl
      refine ⟨rest :: rests, List.isChain_cons_cons.2 ⟨hleaves, hchain⟩, ?_⟩
      rwa [List.getLastD_cons]
    · exact ⟨[], List.isChain_singleton source, htakes⟩

end Taking

/-! ## The law -/

/-- What is left of a source by a way of reading blocks. -/
structure Shortens (load : List Char → Yaml.Reading Value) : Prop where
  /-- Where front matter is taken there is a body, and it is shorter than the source. -/
  shorter : ∀ source, Takes load source →
    ∃ taken, splitWith load source = .ok taken ∧ taken.body.length < source.length
  /-- The body is the source exactly if no front matter is taken. -/
  whole_iff : ∀ source taken, splitWith load source = .ok taken →
    (taken.body = source ↔ ¬ Takes load source)
  /-- Front matter is taken at most once for every seven characters of a source. -/
  bounded : ∀ source rests, List.IsChain (Leaves load) (source :: rests) →
    7 * rests.length ≤ source.length
  /-- Taking it again and again ends with a text off which nothing is taken. -/
  ends : ∀ source, ∃ rests, List.IsChain (Leaves load) (source :: rests) ∧
    ¬ Takes load (rests.getLastD source)

/-- What is left of a source is shorter, however blocks are read. -/
theorem shortens (load : List Char → Yaml.Reading Value) : Shortens load where
  shorter source htakes := by
    obtain ⟨rest, hleaves⟩ := exists_leaves htakes
    have hshorter : rest.length < source.length := by
      have hseven := hleaves.length_le
      omega
    obtain ⟨-, metadata, hs⟩ := hleaves
    exact ⟨⟨metadata, rest⟩, hs, hshorter⟩
  whole_iff _ _ := body_splitWith_eq_iff
  bounded _ _ := length_rests_le
  ends := exists_rests load

/-- What is left of a source, and what is noted on it. -/
structure ShorteningLaw : Prop where
  /-- What is left is shorter, however blocks are read. -/
  shortens : ∀ load, Shortens load
  /-- A source is not noted once its front matter is taken. -/
  unnoted : ∀ {σ : Type} (E : Engine σ) (renderer : Renderer σ) (source : List Char)
    (rendered : Rendered), Takes Yaml.load source →
      (renderer.render E (.text (String.ofList source))).1 = .ok rendered → rendered.notes = []

/-- Once front matter is taken, what is left is shorter than the source, so the two differ
and no note is given, and taking it off what is left comes to an end. -/
theorem shortening_law : ShorteningLaw where
  shortens := FrontMatter.shortens
  unnoted _ _ _ _ htakes hr := (notes_eq hr).2 fun hboth => hboth.2 htakes

end DocPress.FrontMatter
