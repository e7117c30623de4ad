import DocPress.Markdown.Engine
import DocPress.Proofs.FrontMatter.Assembly

/-!
# Bodies behind front matter

Taking front matter off a source is meant to leave the body alone but for its line
endings, which the Markdown engine makes uniform anyway.  This module says which bodies
are left alone so: the other line boundaries that a body may hold are written over, and a
carriage return at its end is lost.

Main results:

- `convert_congr`: the engine does not see a difference in line endings.
- `keepsBody_iff`: a body is kept up to its line endings exactly if they are plain, and
  then the engine makes the same of it as without front matter.
- `not_keepsBody_lineSeparator`: a line separator in a body is not kept.
-/

namespace DocPress

/-! ## Line endings and the engine -/

namespace Text

/-- Uniform endings leave a text of white space one. -/
theorem all_isBlank_unifyEndings (text : List Char) :
    (unifyEndings text).all isBlank = text.all isBlank := by
  have hfeed : isBlank '\n' = true := by decide
  have hreturn : isBlank '\r' = true := by decide
  induction text using unifyEndings.induct with
  | case1 => rfl
  | case2 rest ih => simp [ih, hfeed, hreturn]
  | case3 c rest hr ih =>
    by_cases hc : c = '\r'
    · subst hc
      rw [unifyEndings_return_cons fun r hrest => hr r rfl hrest]
      simp [ih, hfeed, hreturn]
    · rw [unifyEndings_cons hc]
      simp [ih]

end Text

namespace Markdown

/-- A text without marks keeps all its characters. -/
theorem filter_isMark {text : List Char} (h : ∀ c ∈ text, Source.isMark c = false) :
    text.filter (fun c => !Source.isMark c) = text :=
  List.filter_eq_self.2 fun c hc => by simp [h c hc]

/-- The engine makes the same of texts without marks that differ in their line endings
alone. -/
theorem convert_congr {text other : List Char} (ht : ∀ c ∈ text, Source.isMark c = false)
    (ho : ∀ c ∈ other, Source.isMark c = false)
    (h : Text.unifyEndings text = Text.unifyEndings other) (state : Markdown) :
    engine.convert (String.ofList text) state = engine.convert (String.ofList other) state := by
  have hlines : Source.lines text = Source.lines other := by
    simp only [Source.lines, filter_isMark ht, filter_isMark ho, h]
  have hblank : text.all Text.isBlank = other.all Text.isBlank := by
    rw [← Text.all_isBlank_unifyEndings text, h, Text.all_isBlank_unifyEndings]
  simp only [engine, convert, prepare, String.toList_ofList, hlines, hblank]

end Markdown

/-! ## Bodies that are kept -/

namespace FrontMatter

/-- A rejoined text has no boundaries but line feeds. -/
theorem isBreak_of_mem_rejoined {body : List Char} {c : Char} (h : c ∈ rejoined body)
    (hc : Text.isBreak c = true) : c = '\n' := by
  have hjoin : c ∈ Text.joinLines (Text.splitLines body) → c = '\n' := by
    intro hmem
    rcases Text.mem_joinLines hmem with rfl | ⟨line, hline, hmem⟩
    · rfl
    · rw [Text.isBreak_of_mem_splitLines line hline c hmem] at hc
      cases hc
  rw [rejoined, bodyOf] at h
  split at h
  · rcases List.mem_append.1 h with hmem | hmem
    · exact hjoin hmem
    · exact List.mem_singleton.1 hmem
  · exact hjoin h

/-- Front matter in front of a body leaves it alone up to its line endings. -/
def KeepsBody (load : List Char → Yaml.Reading Value) (frame : Frame) (count : Nat)
    (body : List Char) : Prop :=
  ∃ taken, splitWith load (frame.assemble count body) = .ok taken ∧
    Text.unifyEndings taken.body =
      Text.unifyEndings (List.replicate count byteOrderMark ++ body)

/-- The engine makes of a body behind front matter what it makes of the body. -/
def RendersBody (load : List Char → Yaml.Reading Value) (frame : Frame) (count : Nat)
    (body : List Char) : Prop :=
  ∃ taken, splitWith load (frame.assemble count body) = .ok taken ∧ ∀ state,
    Markdown.engine.convert (String.ofList taken.body) state =
      Markdown.engine.convert (String.ofList (List.replicate count byteOrderMark ++ body)) state

/-- Byte order marks are none of the marks that the engine drops. -/
theorem not_isMark_of_mem_replicate_append {count : Nat} {body : List Char}
    (h : ∀ c ∈ body, Markdown.Source.isMark c = false) :
    ∀ c ∈ List.replicate count byteOrderMark ++ body, Markdown.Source.isMark c = false := by
  intro c hc
  rcases List.mem_append.1 hc with hfront | hbody
  · rw [List.eq_of_mem_replicate hfront]
    decide
  · exact h c hbody

section Keeping

variable {load : List Char → Yaml.Reading Value} {frame : Frame} {value : Value}
  {metadata : Mapping} {count : Nat} {body : List Char}

/-- With front matter that is taken, a body is kept exactly if rejoining keeps it. -/
theorem keepsBody_iff_rejoined (hl : load (Text.joinLines frame.inside) = .ok value)
    (hm : metadataOf? value = some metadata) (hb : body ≠ []) :
    KeepsBody load frame count body ↔ rejoined body = Text.unifyEndings body := by
  have hmarks : '\r' ∉ List.replicate count byteOrderMark := fun h =>
    absurd (List.eq_of_mem_replicate h) (by decide)
  have hreturn : '\r' ∉ rejoined body := fun h =>
    absurd (isBreak_of_mem_rejoined h (by decide)) (by decide)
  simp only [KeepsBody, splitWith_of_counts hl hm count hb, Except.ok.injEq,
    exists_eq_left', Text.unifyEndings_append hmarks, List.append_cancel_left_eq,
    Text.unifyEndings_of_no_return hreturn]

/-- A body that is kept is rendered as it is without front matter, if it has no marks that
the engine drops. -/
theorem rendersBody_of_keepsBody (hl : load (Text.joinLines frame.inside) = .ok value)
    (hm : metadataOf? value = some metadata) (hb : body ≠ [])
    (hmarks : ∀ c ∈ body, Markdown.Source.isMark c = false)
    (h : KeepsBody load frame count body) : RendersBody load frame count body := by
  have hrejoined := (keepsBody_iff_rejoined hl hm hb).1 h
  have hunmarked : ∀ c ∈ Text.unifyEndings body, Markdown.Source.isMark c = false := by
    intro c hc
    rcases Text.mem_unifyEndings hc with rfl | hmem
    · decide
    · exact hmarks c hmem
  obtain ⟨taken, htaken, hunified⟩ := h
  refine ⟨taken, htaken, Markdown.convert_congr ?_ ?_ hunified⟩
  · rw [splitWith_of_counts hl hm count hb, hrejoined] at htaken
    cases htaken
    exact not_isMark_of_mem_replicate_append hunmarked
  · exact not_isMark_of_mem_replicate_append hmarks

/-- With front matter that is taken, a body is kept up to its line endings exactly if they
are plain, and then it is rendered as it is without front matter, if it has no marks that
the engine drops. -/
theorem keepsBody_iff (hl : load (Text.joinLines frame.inside) = .ok value)
    (hm : metadataOf? value = some metadata) (count : Nat) (hb : body ≠ []) :
    (KeepsBody load frame count body ↔ PlainEndings body) ∧
    (PlainEndings body → (∀ c ∈ body, Markdown.Source.isMark c = false) →
      RendersBody load frame count body) := by
  have hiff : KeepsBody load frame count body ↔ PlainEndings body :=
    (keepsBody_iff_rejoined hl hm hb).trans rejoined_eq_unifyEndings_iff
  exact ⟨hiff, fun hplain hmarks => rendersBody_of_keepsBody hl hm hb hmarks (hiff.2 hplain)⟩

end Keeping

/-- A body with every plain line ending, the last of them a line feed, is kept. -/
theorem keepsBody_iff_titleFrame :
    Yaml.load (Text.joinLines titleFrame.inside) = .ok (.map [(.text "title", .text "Intro")]) ∧
    metadataOf? (.map [(.text "title", .text "Intro")]) =
      some [(.text "title", .text "Intro")] ∧
    "One\r\nTwo\rThree\n".toList ≠ [] ∧
    KeepsBody Yaml.load titleFrame 1 "One\r\nTwo\rThree\n".toList ∧
    RendersBody Yaml.load titleFrame 1 "One\r\nTwo\rThree\n".toList := by
  have hplain : PlainEndings "One\r\nTwo\rThree\n".toList :=
    ⟨by simp [Text.isBreak], by decide⟩
  have hmarks : ∀ c ∈ "One\r\nTwo\rThree\n".toList, Markdown.Source.isMark c = false := by
    simp [Markdown.Source.isMark]
  have hne : "One\r\nTwo\rThree\n".toList ≠ [] := by decide
  obtain ⟨hkeeps, hrenders⟩ := keepsBody_iff load_titleFrame
    (metadataOf?_map [(.text "title", .text "Intro")]) 1 hne
  exact ⟨load_titleFrame, metadataOf?_map _, hne, hkeeps.2 hplain, hrenders hplain hmarks⟩

/-- A line separator in a body is not kept. -/
theorem not_keepsBody_lineSeparator :
    ¬ KeepsBody Yaml.load titleFrame 0 "One\u2028Two".toList := by
  rw [keepsBody_iff_rejoined load_titleFrame (metadataOf?_map _) (by decide)]
  decide

end FrontMatter

end DocPress
