import DocPress.Proofs.FrontMatter.Taking

/-!
# Sources put together

A source with front matter is put together of byte order marks, the lines of the front
matter and a body.  Splitting takes it apart again: it finds those lines, and gives the
body with each of its line boundaries written as a line feed.

Main results:

- `delimits_assemble`: a source that was put together delimits the block that went into it.
- `splitWith_of_counts`: splitting gives the marks and the body rejoined.
- `rejoined_eq_unifyEndings_iff`: rejoining a body unifies its line endings and changes
  nothing else, exactly if its boundaries are line feeds and carriage returns and it does
  not end with one of the latter.
- `splitWith_assemble`: splitting undoes putting together for bodies of lines that end in
  line feeds.
-/

namespace DocPress.FrontMatter

/-! ## Frames -/

/-- The lines of front matter as they are written: an opener, lines that do not close, and
a closer. -/
structure Frame where
  opener : List Char
  inside : List (List Char)
  closer : List Char
  opens : Text.strip opener = ['-', '-', '-']
  inside_open : ∀ line ∈ inside, ¬ Closes line
  closes : Closes closer
  single : ∀ line ∈ opener :: (inside ++ [closer]), ∀ c ∈ line, Text.isBreak c = false

namespace Frame

/-- The lines with a line feed behind each. -/
def text (frame : Frame) : List Char :=
  (frame.opener :: (frame.inside ++ [frame.closer])).flatMap (· ++ ['\n'])

/-- A source: some byte order marks, front matter, and a body. -/
def assemble (frame : Frame) (count : Nat) (body : List Char) : List Char :=
  List.replicate count byteOrderMark ++ (frame.text ++ body)

variable (frame : Frame) (count : Nat) (body : List Char)

/-- Front matter does not start with a byte order mark, which would be no opener. -/
theorem head?_text_append : ∃ c rest, frame.text ++ body = c :: rest ∧ c ≠ byteOrderMark := by
  have hopens := frame.opens
  rw [text, List.flatMap_cons]
  cases hopener : frame.opener with
  | nil =>
    rw [hopener] at hopens
    cases hopens
  | cons c rest =>
    refine ⟨c, _, rfl, ?_⟩
    rintro rfl
    have hink : Text.isBlank byteOrderMark = false := by decide
    have hhead : (Text.strip (byteOrderMark :: rest)).head? = some byteOrderMark :=
      Text.head?_strip hink
    rw [← hopener, hopens] at hhead
    exact absurd hhead (by decide)

/-- The marks of the source are those in front. -/
theorem marks_assemble : marks (frame.assemble count body) = List.replicate count byteOrderMark := by
  obtain ⟨c, rest, htext, hc⟩ := frame.head?_text_append body
  rw [marks, assemble, htext, List.takeWhile_append_of_pos (by simp)]
  simp [hc]

/-- The source without its marks starts with the front matter. -/
theorem dropWhile_assemble :
    (frame.assemble count body).dropWhile (· == byteOrderMark) = frame.text ++ body := by
  obtain ⟨c, rest, htext, hc⟩ := frame.head?_text_append body
  rw [assemble, htext, List.dropWhile_append_of_pos (by simp)]
  simp [hc]

/-- The source delimits the block of the front matter, with the lines of the body behind
it. -/
theorem delimits_assemble :
    Delimits (frame.assemble count body) ⟨frame.inside, Text.splitLines body⟩ := by
  refine ⟨frame.opener, frame.closer, ?_, frame.opens, frame.closes, frame.inside_open⟩
  rw [dropWhile_assemble, text, Text.splitLines_lines_append frame.single]
  simp

/-- The source ends as the body does. -/
theorem getLast?_assemble (h : body ≠ []) : (frame.assemble count body).getLast? = body.getLast? := by
  rw [assemble, ← List.append_assoc, List.getLast?_append]
  simp [List.getLast?_eq_some_getLast h]

end Frame

/-! ## Rejoined bodies -/

/-- A body cut into lines and put together again with line feeds. -/
def rejoined (body : List Char) : List Char :=
  bodyOf body (Text.splitLines body)

/-- Splitting takes a block whose value counts as a mapping, and gives the marks and the
body rejoined. -/
theorem splitWith_of_counts {load : List Char → Yaml.Reading Value} {frame : Frame}
    {value : Value} {metadata : Mapping}
    (hl : load (Text.joinLines frame.inside) = .ok value)
    (hm : metadataOf? value = some metadata) (count : Nat) {body : List Char} (hb : body ≠ []) :
    splitWith load (frame.assemble count body) =
      .ok ⟨metadata, List.replicate count byteOrderMark ++ rejoined body⟩ := by
  have hblock := block?_eq_some_iff.2 (frame.delimits_assemble count body)
  have hbody : bodyOf (frame.assemble count body) (Text.splitLines body) = rejoined body := by
    rw [rejoined, bodyOf, bodyOf, frame.getLast?_assemble count body hb]
  simp only [splitWith, hblock, hl, hm, frame.marks_assemble, hbody]

section Rejoining

variable {text rest : List Char} {c : Char}

/-- Where cutting and joining put a character in front, so does rejoining. -/
theorem rejoined_of_joinLines
    (hj : Text.joinLines (Text.splitLines text) = c :: Text.joinLines (Text.splitLines rest))
    (hl : text.getLast? = rest.getLast?) : rejoined text = c :: rejoined rest := by
  rw [rejoined, rejoined, bodyOf, bodyOf, hj, hl]
  split <;> rfl

theorem getLast?_cons_of_ne_nil (h : rest ≠ []) : (c :: rest).getLast? = rest.getLast? := by
  cases rest with
  | nil => exact absurd rfl h
  | cons d tail => exact List.getLast?_cons_cons

/-- A character that bounds no line stays. -/
theorem rejoined_ink_cons (hc : Text.isBreak c = false) :
    rejoined (c :: rest) = c :: rejoined rest := by
  by_cases hr : rest = []
  · have hfeed : c ≠ '\n' := Text.ne_of_isBreak hc (by decide)
    subst hr
    simp [rejoined, bodyOf, Text.splitLines_ink_cons, hc, Text.consHead, hfeed]
  · refine rejoined_of_joinLines ?_ (getLast?_cons_of_ne_nil hr)
    rw [Text.splitLines_ink_cons rest hc, Text.joinLines_consHead c (Text.splitLines_ne_nil hr)]

/-- A line feed stays, and so does that of a carriage return in front of it. -/
theorem rejoined_feed_cons (h : Text.splitLines text = [] :: Text.splitLines rest)
    (hl : text.getLast? = ('\n' :: rest).getLast?) : rejoined text = '\n' :: rejoined rest := by
  by_cases hr : rest = []
  · subst hr
    simp [rejoined, bodyOf, h, hl]
  · refine rejoined_of_joinLines ?_ (hl.trans (getLast?_cons_of_ne_nil hr))
    rw [h, Text.joinLines_nil_cons (Text.splitLines_ne_nil hr)]

/-- Another boundary becomes a line feed if something follows it, and is lost if not. -/
theorem rejoined_break_cons (h : Text.splitLines (c :: rest) = [] :: Text.splitLines rest)
    (hc : c ≠ '\n') :
    rejoined (c :: rest) = if rest = [] then [] else '\n' :: rejoined rest := by
  by_cases hr : rest = []
  · subst hr
    simp [rejoined, bodyOf, h, hc]
  · rw [if_neg hr]
    refine rejoined_of_joinLines ?_ (getLast?_cons_of_ne_nil hr)
    rw [h, Text.joinLines_nil_cons (Text.splitLines_ne_nil hr)]

end Rejoining

/-! ## What rejoining keeps -/

/-- The boundaries of a text are line feeds and carriage returns, with something behind a
carriage return at least. -/
structure PlainEndings (text : List Char) : Prop where
  breaks : ∀ c ∈ text, Text.isBreak c = true → c = '\n' ∨ c = '\r'
  last : text.getLast? ≠ some '\r'

section Endings

variable {text rest : List Char} {c : Char}

theorem plainEndings_nil : PlainEndings [] :=
  ⟨nofun, nofun⟩

theorem plainEndings_cons_iff :
    PlainEndings (c :: rest) ↔
      (Text.isBreak c = true → c = '\n' ∨ (c = '\r' ∧ rest ≠ [])) ∧ PlainEndings rest := by
  constructor
  · rintro ⟨hbreaks, hlast⟩
    refine ⟨fun hc => ?_, fun d hd => hbreaks d (List.mem_cons_of_mem _ hd), fun hend => ?_⟩
    · rcases hbreaks c (List.mem_cons_self ..) hc with rfl | rfl
      · exact .inl rfl
      · refine .inr ⟨rfl, ?_⟩
        rintro rfl
        exact hlast rfl
    · have hne : rest ≠ [] := by
        rintro rfl
        cases hend
      exact hlast ((getLast?_cons_of_ne_nil hne).trans hend)
  · rintro ⟨hfirst, hbreaks, hlast⟩
    constructor
    · rintro d (_ | ⟨_, hd⟩) hbreak
      · exact (hfirst hbreak).imp_right And.left
      · exact hbreaks d hd hbreak
    · intro hend
      by_cases hr : rest = []
      · subst hr
        obtain rfl : c = '\r' := by simpa using hend
        exact (hfirst (by decide)).elim (by decide) fun h => h.2 rfl
      · exact hlast ((getLast?_cons_of_ne_nil hr).symm.trans hend)

/-- Rejoining a text unifies its endings and changes nothing else, exactly if they are
plain. -/
theorem rejoined_eq_unifyEndings_iff :
    rejoined text = Text.unifyEndings text ↔ PlainEndings text := by
  induction text using Text.splitLines.induct with
  | case1 => exact ⟨fun _ => plainEndings_nil, fun _ => rfl⟩
  | case2 rest ih =>
    rw [rejoined_feed_cons (Text.splitLines_pair_cons rest) List.getLast?_cons_cons,
      Text.unifyEndings_pair_cons, List.cons_inj_right, ih]
    simp [plainEndings_cons_iff]
  | case3 c rest hr hc ih =>
    have hlines := Text.splitLines_break_cons hc hr
    by_cases hfeed : c = '\n'
    · subst hfeed
      rw [rejoined_feed_cons hlines rfl, Text.unifyEndings_cons (by decide),
        List.cons_inj_right, ih]
      simp [plainEndings_cons_iff]
    · rw [rejoined_break_cons hlines hfeed, plainEndings_cons_iff, ← ih]
      by_cases hreturn : c = '\r'
      · subst hreturn
        rw [Text.unifyEndings_return_cons fun r hrest => hr r rfl hrest]
        by_cases hne : rest = []
        · simp [hne, hc]
        · simp [hne]
      · rw [Text.unifyEndings_cons hreturn]
        by_cases hne : rest = []
        · simp [hne, hc, hfeed]
        · simp [hne, hc, hfeed, hreturn, Ne.symm hfeed]
  | case4 c rest hr hc ih =>
    have hink : Text.isBreak c = false := by simpa using hc
    have hreturn : c ≠ '\r' := Text.ne_of_isBreak hink (by decide)
    rw [rejoined_ink_cons hink, Text.unifyEndings_cons hreturn, List.cons_inj_right, ih]
    simp [plainEndings_cons_iff, hink]

end Endings

/-! ## Taking sources apart -/

/-- Splitting undoes putting together: front matter that is read as a mapping is taken off,
and a body whose only boundaries are line feeds is given back as it was, behind the marks. -/
theorem splitWith_assemble {load : List Char → Yaml.Reading Value} (frame : Frame) (count : Nat)
    {body : List Char} (hb : body ≠ [])
    (hfeeds : ∀ c ∈ body, Text.isBreak c = true → c = '\n') {metadata : Mapping}
    (hl : load (Text.joinLines frame.inside) = .ok (.map metadata)) :
    splitWith load (frame.assemble count body) =
      .ok ⟨metadata, List.replicate count byteOrderMark ++ body⟩ := by
  have hreturn : '\r' ∉ body := fun hmem => absurd (hfeeds _ hmem (by decide)) (by decide)
  have hplain : PlainEndings body := by
    refine ⟨fun c hc hbreak => .inl (hfeeds c hc hbreak), fun hlast => hreturn ?_⟩
    exact List.mem_of_getLast? hlast
  rw [splitWith_of_counts hl (metadataOf?_map metadata) count hb,
    rejoined_eq_unifyEndings_iff.2 hplain, Text.unifyEndings_of_no_return hreturn]

/-- Front matter with a title, a blank line, and white space behind its opener. -/
def titleFrame : Frame where
  opener := "--- ".toList
  inside := ["title: Intro".toList, []]
  closer := "...".toList
  opens := by decide
  inside_open := by simp only [← isCloser_iff]; decide
  closes := isCloser_iff.1 (by decide)
  single := by simp [Text.isBreak]

/-- Whether a block was read as one text under one name. -/
def readsTitle (name title : String) : Yaml.Reading Value → Bool
  | .ok (.map [(.text key, .text value)]) => key == name && value == title
  | _ => false

theorem eq_of_readsTitle {name title : String} {reading : Yaml.Reading Value}
    (h : readsTitle name title reading = true) :
    reading = .ok (.map [(.text name, .text title)]) := by
  unfold readsTitle at h
  split at h
  · obtain ⟨rfl, rfl⟩ : _ = name ∧ _ = title := by simpa using h
    rfl
  · cases h

theorem load_titleFrame :
    Yaml.load (Text.joinLines titleFrame.inside) =
      .ok (.map [(.text "title", .text "Intro")]) :=
  eq_of_readsTitle (by decide +kernel)

/-- A body that starts with a delimiter and ends in an empty line, behind two marks. -/
theorem splitWith_assemble_titleFrame :
    "\n---\nText\n\n".toList ≠ [] ∧
    (∀ c ∈ "\n---\nText\n\n".toList, Text.isBreak c = true → c = '\n') ∧
    Yaml.load (Text.joinLines titleFrame.inside) =
      .ok (.map [(.text "title", .text "Intro")]) ∧
    splitWith Yaml.load (titleFrame.assemble 2 "\n---\nText\n\n".toList) =
      .ok ⟨[(.text "title", .text "Intro")],
        List.replicate 2 byteOrderMark ++ "\n---\nText\n\n".toList⟩ := by
  have hfeeds : ∀ c ∈ "\n---\nText\n\n".toList, Text.isBreak c = true → c = '\n' := by
    simp [Text.isBreak]
  exact ⟨by decide, hfeeds, load_titleFrame,
    splitWith_assemble titleFrame 2 (by decide) hfeeds load_titleFrame⟩

end DocPress.FrontMatter
