import DocPress.Engine.Echo
import DocPress.Proofs.FrontMatter.Totality

/-!
# Which sources are noted

Rendering is meant to leave a note on a source that opens a block of front matter and has
none taken off it.  A block opens where the first line is three dashes once it is trimmed;
the note is given where that line starts with three dashes.  The two differ for a line with
white space in front of its dashes and for one with more than white space behind them.

Main results:

- `body_eq_iff`: a source is left as it is exactly if nothing is taken off it.
- `notesOn_eq`: the note depends on the start of the first line.
- `noting_law`: which sources are noted, and which of them as they are meant to be.
-/

namespace DocPress.FrontMatter

/-! ## Sources that open a block -/

/-- Three dashes. -/
def dashes : List Char :=
  ['-', '-', '-']

/-- Dashes bound no line. -/
theorem not_isBreak_of_mem_dashes {c : Char} (h : c ∈ dashes) : Text.isBreak c = false := by
  have hdash : c = '-' := by simpa [dashes] using h
  rw [hdash]
  decide

/-- The first line of a source, byte order marks passed over; an empty source has an empty
one. -/
def firstLine (source : List Char) : List Char :=
  (Text.splitLines (source.dropWhile (· == byteOrderMark))).headD []

/-- The first line opens a block: trimmed, it is three dashes. -/
def Opens (source : List Char) : Prop :=
  Text.strip (firstLine source) = dashes

/-- The first line starts with three dashes. -/
def Leads (source : List Char) : Prop :=
  dashes <+: firstLine source

instance (source : List Char) : Decidable (Opens source) :=
  inferInstanceAs (Decidable (_ = _))

instance (source : List Char) : Decidable (Leads source) :=
  inferInstanceAs (Decidable (_ <+: _))

/-- A text starts with something that bounds no line exactly if its first line does. -/
theorem isPrefix_headD_splitLines_iff {start text : List Char}
    (h : ∀ c ∈ start, Text.isBreak c = false) :
    start <+: (Text.splitLines text).headD [] ↔ start <+: text := by
  induction start generalizing text with
  | nil => simp
  | cons c start ih =>
    obtain ⟨hc, hstart⟩ := List.forall_mem_cons.1 h
    cases text with
    | nil => rfl
    | cons d rest =>
      by_cases hd : Text.isBreak d = true
      · -- the first line is empty, and the text starts with a boundary
        have hne : c ≠ d := Text.ne_of_isBreak hc hd
        have hempty : (Text.splitLines (d :: rest)).headD [] = [] := by
          rw [Text.splitLines.eq_def]
          split <;> simp_all
        rw [hempty, List.cons_prefix_cons]
        simp [hne]
      · have hink : Text.isBreak d = false := Bool.not_eq_true _ ▸ hd
        have hfirst : (Text.splitLines (d :: rest)).headD [] =
            d :: (Text.splitLines rest).headD [] := by
          rw [Text.splitLines_ink_cons rest hink]
          cases Text.splitLines rest <;> rfl
        rw [hfirst, List.cons_prefix_cons, List.cons_prefix_cons, ih hstart]

/-- A text starts with another as it is looked for. -/
theorem startsWith_iff {text start : List Char} :
    Text.startsWith text start = true ↔ start <+: text := by
  rw [Text.startsWith, Option.isSome_iff_exists]
  simp only [Text.dropPrefix?_eq_some_iff]
  exact exists_congr fun rest => eq_comm

/-! ## What is taken -/

/-- Front matter is taken off a source: it delimits a block that is loaded and counts as a
mapping. -/
def IsTaken (source : List Char) : Prop :=
  ∃ block value metadata, Delimits source block ∧
    Yaml.load (Text.joinLines block.inside) = .ok value ∧ metadataOf? value = some metadata

section Noting

variable {source : List Char}

/-- Splitting leaves a source as it is exactly if nothing is taken off it. -/
theorem body_eq_iff {taken : Split} (hs : split source = .ok taken) :
    taken.body = source ↔ ¬ IsTaken source :=
  body_splitWith_eq_iff hs

/-! ## What is noted -/

/-- The notes on a source: one exactly if it is left as it is and its first line starts with
three dashes. -/
theorem notesOn_eq (source body : List Char) :
    Renderer.notesOn source body =
      if body = source ∧ Leads source then [Renderer.blockNote] else [] := by
  have hleads : Text.startsWith (source.dropWhile (· == byteOrderMark)) ['-', '-', '-'] = true ↔
      Leads source := by
    rw [startsWith_iff, Leads, firstLine,
      isPrefix_headD_splitLines_iff fun c => not_isBreak_of_mem_dashes, dashes]
  simp only [Renderer.notesOn, Bool.and_eq_true, decide_eq_true_eq, hleads]

section Rendering

variable {σ : Type} {E : Engine σ} {renderer : Renderer σ} {rendered : Rendered}

/-- A rendered source was split, and its notes are those on what was left of it. -/
theorem notes_of_render
    (h : (renderer.render E (.text (String.ofList source))).1 = .ok rendered) :
    ∃ taken, split source = .ok taken ∧ rendered.notes = Renderer.notesOn source taken.body := by
  cases hs : split source with
  | error fault =>
    rw [render_of_fault hs] at h
    cases h
  | ok taken =>
    have hvalue : ofValue (.text (String.ofList source)) = .ok taken := by
      rw [ofValue_text, hs]
      rfl
    have hchars : Renderer.charsOf (.text (String.ofList source)) = source :=
      String.toList_ofList
    rcases hc : E.convertAnew (String.ofList taken.body) renderer.engine
      with ⟨reason | html, engine⟩
    · simp [Renderer.render, hvalue, hc] at h
    · simp only [Renderer.render, hvalue, hc, hchars, Except.ok.injEq] at h
      rw [← h]
      exact ⟨taken, rfl, rfl⟩

/-- A rendered source has one note exactly if its first line starts with three dashes and
nothing was taken off it, and no note otherwise. -/
theorem notes_eq (h : (renderer.render E (.text (String.ofList source))).1 = .ok rendered) :
    (Leads source → ¬ IsTaken source → rendered.notes = [Renderer.blockNote]) ∧
    (¬ (Leads source ∧ ¬ IsTaken source) → rendered.notes = []) := by
  obtain ⟨taken, hs, hnotes⟩ := notes_of_render h
  have hbody := body_eq_iff hs
  rw [hnotes, notesOn_eq]
  constructor
  · intro hleads htaken
    exact if_pos ⟨hbody.2 htaken, hleads⟩
  · intro hno
    exact if_neg fun hboth => hno ⟨hboth.2, hbody.1 hboth.1⟩

/-- A rendered source is noted as it is meant to be: with one note if it opens a block and
nothing is taken off it, and with none in every other case. -/
structure NotesRejection (source : List Char) (rendered : Rendered) : Prop where
  given : Opens source → ¬ IsTaken source → rendered.notes = [Renderer.blockNote]
  none_else : ¬ (Opens source ∧ ¬ IsTaken source) → rendered.notes = []

/-- It is so exactly if something is taken off the source, or its first line opens a block
just where it starts with three dashes. -/
theorem notesRejection_iff
    (h : (renderer.render E (.text (String.ofList source))).1 = .ok rendered) :
    NotesRejection source rendered ↔ IsTaken source ∨ (Opens source ↔ Leads source) := by
  obtain ⟨hgiven, hnone⟩ := notes_eq h
  have hdiffer : [Renderer.blockNote] ≠ [] := List.cons_ne_nil _ _
  constructor
  · intro hmeant
    by_cases htaken : IsTaken source
    · exact .inl htaken
    · refine .inr ⟨?_, ?_⟩
      · intro hopens
        apply Decidable.byContradiction
        intro hleads
        have hempty := hnone fun hboth => hleads hboth.1
        rw [hmeant.given hopens htaken] at hempty
        exact hdiffer hempty
      · intro hleads
        apply Decidable.byContradiction
        intro hopens
        have hempty := hmeant.none_else fun hboth => hopens hboth.1
        rw [hgiven hleads htaken] at hempty
        exact hdiffer hempty
  · rintro (htaken | hsame)
    · constructor
      case given => exact fun _ hno => absurd htaken hno
      case none_else => exact fun _ => hnone fun hboth => hboth.2 htaken
    · constructor
      case given => exact fun hopens => hgiven (hsame.1 hopens)
      case none_else => exact fun hno => hnone fun hboth => hno ⟨hsame.2 hboth.1, hboth.2⟩

/-- A source that is rendered and left as it is, and opens a block without starting with
three dashes or the other way round, is not noted as it is meant to be. -/
theorem exists_not_notesRejection
    (hr : (renderer.render E (.text (String.ofList source))).1.toOption.isSome = true)
    (hs : (split source).toOption.map Split.body = some source)
    (hd : ¬ (Opens source ↔ Leads source)) :
    ∃ rendered, (renderer.render E (.text (String.ofList source))).1 = .ok rendered ∧
      ¬ NotesRejection source rendered := by
  obtain ⟨rendered, hrendered⟩ := Option.isSome_iff_exists.1 hr
  obtain ⟨taken, htaken, hbody⟩ := Option.map_eq_some_iff.1 hs
  have hrender := eq_ok_of_toOption hrendered
  refine ⟨rendered, hrender, ?_⟩
  rw [notesRejection_iff hrender, not_or]
  exact ⟨(body_eq_iff (eq_ok_of_toOption htaken)).1 hbody, hd⟩

/-- Which sources are noted. -/
structure NotingLaw (source : List Char) (rendered : Rendered) : Prop where
  /-- A source is noted as it is meant to be unless it keeps a first line that is trimmed to
  three dashes and does not start with them, or the other way round. -/
  notesRejection_iff :
    NotesRejection source rendered ↔ IsTaken source ∨ (Opens source ↔ Leads source)
  /-- It has one note if that line starts with three dashes and nothing is taken off. -/
  given : Leads source → ¬ IsTaken source → rendered.notes = [Renderer.blockNote]
  /-- In every other case it has none. -/
  none_else : ¬ (Leads source ∧ ¬ IsTaken source) → rendered.notes = []

/-- A rendered source is noted if nothing is taken off it and its first line starts with
three dashes, which is as it is meant to be if that line opens a block just then. -/
theorem noting_law (h : (renderer.render E (.text (String.ofList source))).1 = .ok rendered) :
    NotingLaw source rendered where
  notesRejection_iff := FrontMatter.notesRejection_iff h
  given := (notes_eq h).1
  none_else := (notes_eq h).2

end Rendering

end Noting

/-- A renderer of the engine that shows its history. -/
def echoRenderer : Renderer Echo :=
  ⟨[], ⟨⟨[], []⟩, 0⟩⟩

/-- A source with prose between two openers. -/
def proseBlock : List Char :=
  (byteOrderMark :: "--- \nIntro\n---\n# Title\n".toList)

theorem noting_law_proseBlock :
    ∃ rendered, (echoRenderer.render Echo.engine (.text (String.ofList proseBlock))).1 =
        .ok rendered ∧ NotingLaw proseBlock rendered := by
  have hsome : (echoRenderer.render Echo.engine
      (.text (String.ofList proseBlock))).1.toOption.isSome = true := by decide +kernel
  obtain ⟨rendered, hrendered⟩ := Option.isSome_iff_exists.1 hsome
  have hrender := eq_ok_of_toOption hrendered
  exact ⟨rendered, hrender, noting_law hrender⟩

/-- An opener with a blank in front is rejected without a note, and a source without an
opener has one. -/
theorem not_notesRejection_indented :
    (∃ rendered, (echoRenderer.render Echo.engine
        (.text (String.ofList " ---\nIntro\n---\n# Title\n".toList))).1 = .ok rendered ∧
      ¬ NotesRejection " ---\nIntro\n---\n# Title\n".toList rendered) ∧
    ∃ rendered, (echoRenderer.render Echo.engine
        (.text (String.ofList "----\n".toList))).1 = .ok rendered ∧
      ¬ NotesRejection "----\n".toList rendered := by
  constructor
  · apply exists_not_notesRejection
    case hr => decide +kernel
    case hs => decide +kernel
    case hd => decide +kernel
  · apply exists_not_notesRejection
    case hr => decide +kernel
    case hs => decide +kernel
    case hd => decide +kernel

end DocPress.FrontMatter
