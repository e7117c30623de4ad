import DocPress.FrontMatter

/-!
# When front matter is taken

Front matter is meant to be taken off a source exactly if the block at its start is
a mapping, or has no content at all.  This module says so for any way of reading
blocks, says what splitting does instead, and for which sources the two agree.

Main results:

- `block?_eq_some_iff`: the block that is found is the one that the source delimits.
- `length_body_le`: taking a block takes its opener, its closer and a boundary at least.
- `splitCase_splitWith`: splitting takes the front matter, fails by a scalar, or does nothing.
- `body_splitWith_eq_iff`: the body is the source exactly if no front matter is taken.
- `takesMappings_iff`: front matter is taken as it is meant to be unless the block is
  an empty value that is no mapping.
-/

namespace DocPress.FrontMatter

/-! ## Delimited blocks -/

/-- Whether a line closes a block. -/
def Closes (line : List Char) : Prop :=
  Text.strip line = ['-', '-', '-'] ∨ Text.strip line = ['.', '.', '.']

/-- A block stands between the first line of a source and the first later line that
closes it, byte order marks passed over. -/
def Delimits (source : List Char) (block : Block) : Prop :=
  ∃ opener closer, Text.splitLines (source.dropWhile (· == byteOrderMark)) =
      opener :: (block.inside ++ closer :: block.behind) ∧
    Text.strip opener = ['-', '-', '-'] ∧ Closes closer ∧
    ∀ line ∈ block.inside, ¬ Closes line

@[simp] theorem isOpener_iff {line : List Char} :
    isOpener line = true ↔ Text.strip line = ['-', '-', '-'] := by
  simp [isOpener]

@[simp] theorem isCloser_iff {line : List Char} : isCloser line = true ↔ Closes line := by
  simp [isCloser, Closes]

/-- The lines before the first closer, and those behind it. -/
theorem untilCloser_eq_some_iff {lines : List (List Char)} {block : Block} :
    Block.untilCloser lines = some block ↔
      ∃ closer, lines = block.inside ++ closer :: block.behind ∧ Closes closer ∧
        ∀ line ∈ block.inside, ¬ Closes line := by
  constructor
  · intro h
    induction lines generalizing block with
    | nil => cases h
    | cons line rest ih =>
      rw [Block.untilCloser] at h
      by_cases hc : isCloser line = true
      · rw [if_pos hc] at h
        cases h
        exact ⟨line, rfl, isCloser_iff.1 hc, by simp⟩
      · rw [if_neg hc] at h
        obtain ⟨inner, hinner, rfl⟩ := Option.map_eq_some_iff.1 h
        obtain ⟨closer, rfl, hcloser, hinside⟩ := ih hinner
        refine ⟨closer, rfl, hcloser, ?_⟩
        rintro other (_ | ⟨_, hmem⟩)
        · rwa [isCloser_iff] at hc
        · exact hinside other hmem
  · rintro ⟨closer, rfl, hcloser, hinside⟩
    refine Block.untilCloser_append (fun line hl => ?_) (isCloser_iff.2 hcloser)
    rw [← Bool.not_eq_true, isCloser_iff]
    exact hinside line hl

/-- The block that is found is the one that the source delimits. -/
theorem block?_eq_some_iff {source : List Char} {block : Block} :
    block? source = some block ↔ Delimits source block := by
  rw [block?, Delimits]
  cases Text.splitLines (source.dropWhile (· == byteOrderMark)) with
  | nil => simp [Block.ofLines?]
  | cons line rest =>
    rw [Block.ofLines?]
    by_cases ho : isOpener line = true
    · rw [if_pos ho, untilCloser_eq_some_iff]
      constructor
      · rintro ⟨closer, rfl, hrest⟩
        exact ⟨line, closer, rfl, isOpener_iff.1 ho, hrest⟩
      · rintro ⟨opener, closer, heq, -, hrest⟩
        cases heq
        exact ⟨closer, rfl, hrest⟩
    · rw [if_neg ho]
      constructor
      · intro h
        cases h
      · rintro ⟨opener, closer, heq, hopener, -⟩
        cases heq
        exact absurd (isOpener_iff.2 hopener) ho

/-- A source delimits one block at most. -/
theorem delimits_unique {source : List Char} {block other : Block} (h : Delimits source block)
    (ho : Delimits source other) : block = other :=
  Option.some.inj ((block?_eq_some_iff.2 h).symm.trans (block?_eq_some_iff.2 ho))

/-! ## Taking text -/

/-- A line that opens or closes a block has three characters at least. -/
theorem three_le_length {line : List Char} (h : Text.strip line = ['-', '-', '-'] ∨ Closes line) :
    3 ≤ line.length := by
  have hmarks : (Text.strip line).length = 3 := by
    rcases h with hopen | hclose | hclose
    · rw [hopen]; rfl
    · rw [hclose]; rfl
    · rw [hclose]; rfl
  exact hmarks ▸ (Text.strip_sublist line).length_le

/-- The text behind a block has the end of the source, and is joined from its lines. -/
theorem length_bodyOf (source : List Char) (behind : List (List Char)) :
    (bodyOf source behind).length =
      (Text.joinLines behind).length + if source.getLast? = some '\n' then 1 else 0 := by
  rw [bodyOf]
  split <;> simp

/-- Taking a block takes an opener, a closer and a boundary between them, whatever line feeds
are put in for other boundaries. -/
theorem length_body_le {source : List Char} {block : Block} (h : Delimits source block) :
    (marks source ++ bodyOf source block.behind).length + 7 ≤ source.length := by
  obtain ⟨opener, closer, hlines, hopener, hcloser, -⟩ := h
  have hopen := three_le_length (.inl hopener)
  have hclose := three_le_length (.inr hcloser)
  have hsource : marks source ++ source.dropWhile (· == byteOrderMark) = source :=
    List.takeWhile_append_dropWhile
  generalize source.dropWhile (· == byteOrderMark) = text at hlines hsource
  have htext : text ≠ [] := by
    rintro rfl
    cases hlines
  have hlast : source.getLast? = text.getLast? := by
    rw [← hsource, List.getLast?_append]
    simp [List.getLast?_eq_some_getLast htext]
  -- the lines of the text joined again are no longer than the text
  have hjoin := Text.length_joinLines_splitLines text
  have hinner : block.inside ++ closer :: block.behind ≠ [] := by simp
  have hfirst := Text.length_joinLines_cons opener hinner
  have hinside := Text.length_joinLines_le_append block.inside (closer :: block.behind)
  have hbehind := Text.length_le_joinLines_cons closer block.behind
  have hbody := length_bodyOf source block.behind
  have hlength := congrArg List.length hsource
  rw [hlines, ← hlast] at hjoin
  rw [List.length_append] at hlength ⊢
  omega

/-- Taking a block takes text. -/
theorem body_ne {source : List Char} {block : Block} (h : Delimits source block) :
    marks source ++ bodyOf source block.behind ≠ source := by
  intro heq
  have hshorter := length_body_le h
  rw [heq] at hshorter
  omega

/-- Front matter is taken off a source, for a way of reading blocks: the source delimits a
block that is read, and its value counts as a mapping. -/
def Takes (load : List Char → Yaml.Reading Value) (source : List Char) : Prop :=
  ∃ block value metadata, Delimits source block ∧
    load (Text.joinLines block.inside) = .ok value ∧ metadataOf? value = some metadata

section Taking

variable {load : List Char → Yaml.Reading Value} {source : List Char}

/-- Where front matter is taken, the body is what stands behind the block. -/
theorem splitWith_of_takes (h : Takes load source) :
    ∃ block metadata, Delimits source block ∧
      splitWith load source = .ok ⟨metadata, marks source ++ bodyOf source block.behind⟩ := by
  obtain ⟨block, value, metadata, hd, hl, hm⟩ := h
  refine ⟨block, metadata, hd, ?_⟩
  simp only [splitWith, block?_eq_some_iff.2 hd, hl, hm]

/-- What becomes of a source. -/
inductive SplitCase (load : List Char → Yaml.Reading Value) (source : List Char) :
    Except Yaml.ScalarFault Split → Prop where
  /-- Its front matter is taken. -/
  | taken {block : Block} {value : Value} {metadata : Mapping} (hd : Delimits source block)
      (hl : load (Text.joinLines block.inside) = .ok value)
      (hm : metadataOf? value = some metadata) :
      SplitCase load source (.ok ⟨metadata, marks source ++ bodyOf source block.behind⟩)
  /-- A scalar in its block denotes no value. -/
  | faulty {block : Block} {fault : Yaml.ScalarFault} (hd : Delimits source block)
      (hl : load (Text.joinLines block.inside) = .error (.scalar fault)) :
      SplitCase load source (.error fault)
  /-- It is left as it is. -/
  | whole (hno : ¬ Takes load source) : SplitCase load source (.ok ⟨[], source⟩)

/-- Splitting does one of three things. -/
theorem splitCase_splitWith (load : List Char → Yaml.Reading Value) (source : List Char) :
    SplitCase load source (splitWith load source) := by
  rw [splitWith]
  cases hb : block? source with
  | none =>
    refine .whole ?_
    rintro ⟨block, -, -, hd, -⟩
    rw [block?_eq_some_iff.2 hd] at hb
    cases hb
  | some block =>
    have hd := block?_eq_some_iff.1 hb
    -- another block that the source delimits is the one that was found
    have hwhole (hl : ∀ value metadata, load (Text.joinLines block.inside) = .ok value →
        metadataOf? value ≠ some metadata) : SplitCase load source (.ok ⟨[], source⟩) := by
      refine .whole ?_
      rintro ⟨other, value, metadata, hother, hvalue, hm⟩
      obtain rfl := delimits_unique hd hother
      exact hl value metadata hvalue hm
    dsimp only
    cases hl : load (Text.joinLines block.inside) with
    | error fault =>
      cases fault with
      | malformed =>
        refine hwhole fun value metadata h => ?_
        rw [hl] at h
        cases h
      | scalar fault => exact .faulty hd hl
    | ok value =>
      dsimp only
      cases hm : metadataOf? value with
      | none =>
        refine hwhole fun other metadata h hother => ?_
        rw [hl] at h
        cases h
        rw [hm] at hother
        cases hother
      | some metadata => exact .taken hd hl hm

/-- Where none is taken, the body is the source. -/
theorem body_of_not_takes (h : ¬ Takes load source) {taken : Split}
    (hs : splitWith load source = .ok taken) : taken.body = source := by
  have hcase := splitCase_splitWith load source
  rw [hs] at hcase
  cases hcase with
  | taken hd hl hm => exact absurd ⟨_, _, _, hd, hl, hm⟩ h
  | whole hno => rfl

/-- The body is the source exactly if no front matter is taken. -/
theorem body_splitWith_eq_iff {taken : Split} (hs : splitWith load source = .ok taken) :
    taken.body = source ↔ ¬ Takes load source := by
  constructor
  · intro hbody htakes
    obtain ⟨block, metadata, hd, htaken⟩ := splitWith_of_takes htakes
    rw [hs] at htaken
    cases htaken
    exact body_ne hd hbody
  · intro hno
    exact body_of_not_takes hno hs

end Taking

/-! ## What is meant to be taken -/

/-- A block without content has nothing but blank lines and comments. -/
def Block.Bare (block : Block) : Prop :=
  ∀ line ∈ block.inside,
    let ink := line.dropWhile fun c => c == ' ' || c == '\t'
    ink = [] ∨ ink.head? = some '#'

/-- The metadata that a block is meant to give, for a way of reading blocks that gives
a value unless the text is malformed. -/
def Yields (load : List Char → Option Value) (block : Block) (metadata : Mapping) : Prop :=
  load (Text.joinLines block.inside) = some (.map metadata) ∨
  load (Text.joinLines block.inside) = some .none ∧ block.Bare ∧ metadata = []

/-- A way of reading blocks, as splitting uses it. -/
def reading (load : List Char → Option Value) (text : List Char) : Yaml.Reading Value :=
  match load text with
  | some value => .ok value
  | none => .error .malformed

/-- Front matter is taken off a source as it is meant to be. -/
structure TakesMappings (load : List Char → Option Value) (source : List Char) : Prop where
  /-- Text is removed exactly if there is a block that gives metadata. -/
  removes_iff : (∃ taken, splitWith (reading load) source = .ok taken ∧ taken.body ≠ source) ↔
    ∃ block metadata, Delimits source block ∧ Yields load block metadata
  /-- What is removed is the block, and its metadata are returned. -/
  taken : ∀ block metadata, Delimits source block → Yields load block metadata →
    splitWith (reading load) source = .ok ⟨metadata, marks source ++ bodyOf source block.behind⟩
  /-- In every other case the source stays whole. -/
  left_whole : (∀ block metadata, Delimits source block → ¬ Yields load block metadata) →
    splitWith (reading load) source = .ok ⟨[], source⟩

/-! ## What is taken -/

@[simp] theorem metadataOf?_map (entries : Mapping) :
    metadataOf? (.map entries) = some entries := by
  cases entries <;> rfl

/-- Every empty value counts as the empty mapping. -/
theorem metadataOf?_of_not_isTruthy {value : Value} (h : value.isTruthy = false) :
    metadataOf? value = some [] := by
  simp [metadataOf?, h]

/-- Only mappings and empty values are metadata. -/
theorem metadataOf?_eq_none {value : Value} (h : value.isTruthy = true)
    (hm : ∀ entries, value ≠ .map entries) : metadataOf? value = none := by
  rw [metadataOf?, if_pos h]
  exact hm

section Splitting

variable {load : List Char → Option Value} {source : List Char} {block : Block}

/-- A block whose value counts as a mapping is taken. -/
theorem splitWith_of_metadata (hd : Delimits source block) {value : Value} {metadata : Mapping}
    (hl : load (Text.joinLines block.inside) = some value)
    (hm : metadataOf? value = some metadata) :
    splitWith (reading load) source =
      .ok ⟨metadata, marks source ++ bodyOf source block.behind⟩ := by
  simp [splitWith, block?_eq_some_iff.2 hd, reading, hl, hm]

/-- A block whose value does not count as a mapping stays. -/
theorem splitWith_of_no_metadata (hd : Delimits source block) {value : Value}
    (hl : load (Text.joinLines block.inside) = some value) (hm : metadataOf? value = none) :
    splitWith (reading load) source = .ok ⟨[], source⟩ := by
  simp [splitWith, block?_eq_some_iff.2 hd, reading, hl, hm]

/-- A block that is meant to be taken is taken. -/
theorem splitWith_of_yields (hd : Delimits source block) {metadata : Mapping}
    (hy : Yields load block metadata) :
    splitWith (reading load) source =
      .ok ⟨metadata, marks source ++ bodyOf source block.behind⟩ := by
  rcases hy with hmap | ⟨hnone, -, rfl⟩
  · exact splitWith_of_metadata hd hmap (metadataOf?_map metadata)
  · exact splitWith_of_metadata hd hnone (metadataOf?_of_not_isTruthy rfl)

/-- A block that is an empty value is taken, whatever it is. -/
theorem splitWith_of_not_isTruthy (hd : Delimits source block) {value : Value}
    (hl : load (Text.joinLines block.inside) = some value) (hv : value.isTruthy = false) :
    splitWith (reading load) source = .ok ⟨[], marks source ++ bodyOf source block.behind⟩ :=
  splitWith_of_metadata hd hl (metadataOf?_of_not_isTruthy hv)

end Splitting

/-- The blocks of a source that are taken although they are not meant to be are its
only trouble: without them, what is not meant to be taken is left whole. -/
theorem splitWith_of_not_yields {load : List Char → Option Value} {source : List Char}
    (h : ∀ block value, Delimits source block →
      load (Text.joinLines block.inside) = some value → value.isTruthy = false →
        (∃ entries, value = .map entries) ∨ (value = .none ∧ block.Bare))
    (hno : ∀ block metadata, Delimits source block → ¬ Yields load block metadata) :
    splitWith (reading load) source = .ok ⟨[], source⟩ := by
  cases hb : block? source with
  | none => exact splitWith_of_no_block (reading load) hb
  | some block =>
    have hd := block?_eq_some_iff.1 hb
    cases hl : load (Text.joinLines block.inside) with
    | none =>
      have hread : reading load (Text.joinLines block.inside) = .error .malformed := by
        rw [reading, hl]
      exact splitWith_of_malformed hb hread
    | some value =>
      have hmap : ∀ entries, value ≠ .map entries := by
        rintro entries rfl
        exact hno block entries hd (.inl hl)
      have htrue : value.isTruthy = true := by
        cases hv : value.isTruthy with
        | true => rfl
        | false =>
          rcases h block value hd hl hv with ⟨entries, he⟩ | ⟨rfl, hbare⟩
          · exact absurd he (hmap entries)
          · exact absurd (.inr ⟨hl, hbare, rfl⟩) (hno block [] hd)
      exact splitWith_of_no_metadata hd hl (metadataOf?_eq_none htrue hmap)

/-- The sources whose front matter is taken as it is meant to be: those without a
block that is an empty value but no mapping, where nothing at all stands for a block
without content. -/
theorem takesMappings_iff (load : List Char → Option Value) (source : List Char) :
    TakesMappings load source ↔
      ∀ block value, Delimits source block →
        load (Text.joinLines block.inside) = some value → value.isTruthy = false →
          (∃ entries, value = .map entries) ∨ (value = .none ∧ block.Bare) := by
  constructor
  · intro h block value hd hl hv
    have htaken := splitWith_of_not_isTruthy hd hl hv
    obtain ⟨other, metadata, hother, hyields⟩ := h.removes_iff.1 ⟨_, htaken, body_ne hd⟩
    obtain rfl := delimits_unique hd hother
    rw [Yields, hl] at hyields
    rcases hyields with hmap | ⟨hnone, hbare, -⟩
    · exact .inl ⟨metadata, Option.some.inj hmap⟩
    · exact .inr ⟨Option.some.inj hnone, hbare⟩
  · intro h
    constructor
    case taken => exact fun block metadata hd hy => splitWith_of_yields hd hy
    case left_whole => exact splitWith_of_not_yields h
    case removes_iff =>
      constructor
      · rintro ⟨taken, htaken, hne⟩
        by_cases hy : ∃ block metadata, Delimits source block ∧ Yields load block metadata
        · exact hy
        · have hwhole := splitWith_of_not_yields h fun block metadata hd hyields =>
            hy ⟨block, metadata, hd, hyields⟩
          rw [hwhole] at htaken
          cases htaken
          exact absurd rfl hne
      · rintro ⟨block, metadata, hd, hy⟩
        exact ⟨_, splitWith_of_yields hd hy, body_ne hd⟩

/-- The value of a block as the documents are read. -/
def loaded? (text : List Char) : Option Value :=
  (Yaml.load text).toOption

/-- A block with nothing but the word for false is taken although it is no mapping. -/
theorem not_takesMappings_no :
    ¬ TakesMappings loaded? "---\nno\n---\nBody\n".toList := by
  intro h
  have hblock : block? "---\nno\n---\nBody\n".toList = some ⟨["no".toList], ["Body".toList]⟩ := by
    decide +kernel
  have hload : (loaded? (Text.joinLines ["no".toList])).map
      (fun value => (value.typeName, value.isTruthy)) = some ("bool", false) := by
    decide +kernel
  obtain ⟨value, hvalue, hkind⟩ := Option.map_eq_some_iff.1 hload
  obtain ⟨htype, hempty⟩ := Prod.mk.inj hkind
  have hd := block?_eq_some_iff.1 hblock
  have htaken := splitWith_of_not_isTruthy hd hvalue hempty
  obtain ⟨other, metadata, hother, hyields⟩ := h.removes_iff.1 ⟨_, htaken, body_ne hd⟩
  obtain rfl := delimits_unique hd hother
  rcases hyields with hmap | ⟨hnone, -, -⟩
  · rw [hvalue] at hmap
    obtain rfl := Option.some.inj hmap
    simp [Value.typeName] at htype
  · rw [hvalue] at hnone
    obtain rfl := Option.some.inj hnone
    simp [Value.typeName] at htype

end DocPress.FrontMatter
