import DocPress.Options.Validation
import DocPress.Proofs.Text.LowerCase

/-!
# Reading options back

Options that were checked can be written as the mapping of their fields.  Checking that
mapping gives the same options, for every field is brought by its check into a form that
the check accepts and leaves alone.

Main results:

- `checkSuffix_of_ok`: a checked file extension is its own stored form.
- `Settles.readField_write`: what a field was read as is read back from its written form.
- `isFixed_of_accepted`: options that a caller can have are read back from their fields, also
  with the format pinned.
-/

namespace DocPress

namespace Options

/-! ## Ways of reading a field -/

/-- A way of reading a field agrees with a way of writing it: it names a problem of
whatever it refuses, and what it gives is read back from the written form. -/
structure Settles {α : Type} (read : Value → FieldReading α) (write : α → Value) : Prop where
  names_problem : ∀ value, read value ≠ .error []
  reads_back : ∀ value content, read value = .ok content → read (write content) = .ok content

/-- The written form of something that may be absent. -/
def writeOptional {α : Type} (write : α → Value) (content : Option α) : Value :=
  (content.map write).getD .none

section Ways

variable {α : Type} {read : Value → FieldReading α} {write : α → Value}

/-- Reading something that is there. -/
theorem readOptional_of_ne {value : Value} (hv : value ≠ .none) :
    readOptional read value = (read value).map some := by
  cases value with
  | none => exact absurd rfl hv
  | _ => rfl

/-- Something that may be absent is settled if it is settled where it is there. -/
theorem Settles.optional (h : Settles read write) (hw : ∀ content, write content ≠ .none) :
    Settles (readOptional read) (writeOptional write) where
  names_problem value herror := by
    by_cases hv : value = .none
    · rw [hv] at herror
      cases herror
    · rw [readOptional_of_ne hv] at herror
      have hproblem := h.names_problem value
      cases hr : read value with
      | ok content =>
        rw [hr] at herror
        cases herror
      | error issues =>
        rw [hr] at herror hproblem
        cases herror
        exact hproblem rfl
  reads_back value content hread := by
    by_cases hv : value = .none
    · rw [hv] at hread
      cases hread
      rfl
    · rw [readOptional_of_ne hv] at hread
      cases hr : read value with
      | error issues =>
        rw [hr] at hread
        cases hread
      | ok inner =>
        rw [hr] at hread
        cases hread
        change readOptional read (write inner) = .ok (some inner)
        rw [readOptional_of_ne (hw inner), h.reads_back value inner hr]
        rfl

/-! ## Sequences -/

/-- Items that are read back one by one are read back together. -/
theorem readItems_map (h : ∀ content, read (write content) = .ok content) (index : Nat)
    (contents : List α) : readItems read index (contents.map write) = .ok contents := by
  induction contents generalizing index with
  | nil => rfl
  | cons content contents ih => simp only [List.map_cons, readItems, h, ih]

/-- A sequence that is refused has an item with a problem. -/
theorem readItems_names_problem (h : ∀ value, read value ≠ .error []) (index : Nat)
    (items : List Value) : readItems read index items ≠ .error [] := by
  induction items generalizing index with
  | nil => rintro ⟨⟩
  | cons item items ih =>
    have hhead := h item
    have htail := ih (index + 1)
    rw [readItems]
    cases hr : read item with
    | error issues =>
      have hissues : issues ≠ [] := fun hnil => hhead (by rw [hr, hnil])
      simp [FieldReading.issues, atIndex, hissues]
    | ok content =>
      cases hrs : readItems read (index + 1) items with
      | error issues =>
        have hissues : issues ≠ [] := fun hnil => htail (by rw [hrs, hnil])
        simp [FieldReading.issues, hissues]
      | ok contents => rintro ⟨⟩

/-- A sequence is refused with a problem. -/
theorem readTuple_names_problem (h : ∀ value, read value ≠ .error []) (value : Value) :
    readTuple read value ≠ .error [] := by
  cases value with
  | list items => exact readItems_names_problem h 0 items
  | tuple items => exact readItems_names_problem h 0 items
  | set items => exact readItems_names_problem h 0 items
  | _ => rintro ⟨⟩

/-- A sequence is settled if every content is read back from its written form. -/
theorem settles_readTuple (hn : ∀ value, read value ≠ .error [])
    (h : ∀ content, read (write content) = .ok content) :
    Settles (readTuple read) fun contents => .tuple (contents.map write) where
  names_problem := readTuple_names_problem hn
  reads_back _ contents _ := readItems_map h 0 contents

end Ways

/-! ## Texts and callables -/

theorem readText_names_problem (value : Value) : readText value ≠ .error [] := by
  cases value with
  | bytes b =>
    rw [readText]
    cases Text.decode b <;> rintro ⟨⟩
  | _ => rintro ⟨⟩

theorem settles_readText : Settles readText .text where
  names_problem := readText_names_problem
  reads_back _ _ _ := rfl

theorem settles_plugins :
    Settles (readTuple readPlugin) fun plugins => .tuple (plugins.map .callable) :=
  settles_readTuple (fun value => by cases value <;> rintro ⟨⟩) fun _ => rfl

/-! ## Choices -/

theorem FormatChoice.ofName?_name (choice : FormatChoice) :
    FormatChoice.ofName? choice.name = some choice := by
  rcases choice with _ | _ | _ <;> rfl

theorem OutputShape.ofName?_name (shape : OutputShape) :
    OutputShape.ofName? shape.name = some shape := by
  cases shape <;> rfl

theorem settles_readFormat : Settles readFormat fun choice => .text choice.name where
  names_problem value := by
    rw [readFormat]
    cases value.text?.bind FormatChoice.ofName? <;> rintro ⟨⟩
  reads_back _ choice _ := by
    simp only [readFormat, Value.text?, Option.bind_some, FormatChoice.ofName?_name]

theorem settles_readShape : Settles readShape fun shape => .text shape.name where
  names_problem value := by
    rw [readShape]
    cases value.text?.bind OutputShape.ofName? <;> rintro ⟨⟩
  reads_back _ shape _ := by
    simp only [readShape, Value.text?, Option.bind_some, OutputShape.ofName?_name]

/-! ## Truth -/

theorem readTruthWord_names_problem (text : List Char) : readTruthWord text ≠ .error [] := by
  simp only [readTruthWord]
  split
  · rintro ⟨⟩
  · split <;> rintro ⟨⟩

theorem readTruthNumber_names_problem (n : Int) : readTruthNumber n ≠ .error [] := by
  rw [readTruthNumber]
  split
  · rintro ⟨⟩
  · split
    · rintro ⟨⟩
    · split <;> rintro ⟨⟩

theorem settles_readTruth : Settles readTruth .bool where
  names_problem value := by
    cases value with
    | int n => exact readTruthNumber_names_problem n
    | float x =>
      rw [readTruth]
      cases Value.integral? x with
      | some n => exact readTruthNumber_names_problem n
      | none => rintro ⟨⟩
    | text s => exact readTruthWord_names_problem s.toList
    | bytes b => exact readTruthWord_names_problem (Text.decodeLatin1 b)
    | _ => rintro ⟨⟩
  reads_back _ _ _ := rfl

/-! ## File extensions -/

/-- A suffix is a dot and something that has no dot. -/
theorem isSuffix_iff {candidate : List Char} :
    isSuffix candidate = true ↔ ∃ rest, candidate = '.' :: rest ∧ rest ≠ [] ∧ '.' ∉ rest := by
  rw [isSuffix, Bool.and_eq_true, Bool.and_eq_true, decide_eq_true_eq, beq_iff_eq,
    Text.startsWith, Option.isSome_iff_exists]
  simp only [Text.dropPrefix?_eq_some_iff]
  constructor
  · rintro ⟨⟨hlength, rest, rfl⟩, hcount⟩
    refine ⟨rest, rfl, ?_, ?_⟩
    · rintro rfl
      simp at hlength
    · rw [← List.count_eq_zero]
      simpa using hcount
  · rintro ⟨rest, rfl, hne, hdot⟩
    have hpos := List.length_pos_iff.2 hne
    refine ⟨⟨?_, rest, rfl⟩, ?_⟩
    · rw [List.length_cons]
      omega
    · rw [List.count_cons_self, List.count_eq_zero.2 hdot]

/-- A suffix in lower case is a suffix. -/
theorem isSuffix_lower {candidate : List Char} (h : isSuffix candidate = true) :
    isSuffix (Text.lower candidate) = true := by
  obtain ⟨rest, rfl, hne, hdot⟩ := isSuffix_iff.1 h
  refine isSuffix_iff.2 ⟨Text.lowerAfter ['.'] rest, Text.lower_dot_cons rest, ?_, ?_⟩
  · have hlength := Text.length_le_lowerAfter ['.'] rest
    have hpos := List.length_pos_iff.2 hne
    exact List.ne_nil_of_length_pos (by omega)
  · rw [← List.count_eq_zero, Text.count_dot_lowerAfter, List.count_eq_zero]
    exact hdot

/-- A checked file extension is its own stored form. -/
theorem checkSuffix_of_ok {extension stored : String} (h : checkSuffix extension = .ok stored) :
    checkSuffix stored = .ok stored := by
  simp only [checkSuffix] at h
  split at h
  case isFalse => cases h
  case isTrue hsuffix =>
    cases h
    have hstored := isSuffix_lower hsuffix
    have hstrip : Text.strip (Text.lower (Text.strip extension.toList)) =
        Text.lower (Text.strip extension.toList) := by
      have hlast (c : Char) (hc : c ∈ (Text.strip extension.toList).getLast?) :
          Text.isBlank c = false := Text.not_isBlank_of_getLast?_strip hc
      obtain ⟨rest, hcandidate, -⟩ := isSuffix_iff.1 hsuffix
      rw [hcandidate] at hlast ⊢
      exact Text.strip_lower hlast
    simp only [checkSuffix, String.toList_ofList, hstrip, hstored, if_true, Text.lower_lower]

/-- Checked file extensions are their own stored forms. -/
theorem mapM_checkSuffix_of_ok {extensions stored : List String}
    (h : extensions.mapM checkSuffix = .ok stored) :
    stored.mapM checkSuffix = .ok stored ∧ (stored = [] → extensions = []) := by
  induction extensions generalizing stored with
  | nil =>
    cases h
    exact ⟨rfl, fun _ => rfl⟩
  | cons extension extensions ih =>
    rw [List.mapM_cons] at h
    cases hc : checkSuffix extension with
    | error issues =>
      rw [hc] at h
      cases h
    | ok first =>
      cases hr : extensions.mapM checkSuffix with
      | error issues =>
        rw [hc, hr] at h
        cases h
      | ok others =>
        rw [hc, hr] at h
        cases h
        rw [List.mapM_cons, checkSuffix_of_ok hc, (ih hr).1]
        exact ⟨rfl, fun hnil => by cases hnil⟩

theorem mapM_checkSuffix_names_problem (extensions : List String) :
    extensions.mapM checkSuffix ≠ .error [] := by
  induction extensions with
  | nil => rintro ⟨⟩
  | cons extension extensions ih =>
    rw [List.mapM_cons]
    simp only [checkSuffix]
    split
    · cases hr : extensions.mapM checkSuffix with
      | ok others => rintro ⟨⟩
      | error issues =>
        rintro ⟨⟩
        exact ih hr
    · rintro ⟨⟩

theorem settles_readSuffixes : Settles readSuffixes textTuple where
  names_problem value := by
    have htexts := readTuple_names_problem readText_names_problem value
    rw [readSuffixes]
    cases hr : readTuple readText value with
    | error issues =>
      rw [hr] at htexts
      exact htexts
    | ok extensions =>
      change checkSuffixes extensions ≠ .error []
      rw [checkSuffixes]
      split
      · rintro ⟨⟩
      · exact mapM_checkSuffix_names_problem extensions
  reads_back value stored hread := by
    rw [readSuffixes] at hread ⊢
    cases hr : readTuple readText value with
    | error issues =>
      rw [hr] at hread
      cases hread
    | ok extensions =>
      rw [hr] at hread
      change checkSuffixes extensions = .ok stored at hread
      rw [checkSuffixes] at hread
      split at hread
      case isTrue => cases hread
      case isFalse hne =>
        obtain ⟨hstored, hnil⟩ := mapM_checkSuffix_of_ok hread
        have hback (text : String) : readText (.text text) = .ok text := rfl
        have htexts : readTuple readText (textTuple stored) = .ok stored :=
          readItems_map hback 0 stored
        rw [htexts]
        change checkSuffixes stored = .ok stored
        rw [checkSuffixes, if_neg (mt hnil hne), hstored]

/-! ## Names of engine extensions -/

/-- Names that were split off and kept are split and kept as they are. -/
theorem dedupe_split_dedupe_split (texts : List String) :
    ExtensionNames.dedupe
        (ExtensionNames.split (ExtensionNames.dedupe (ExtensionNames.split texts))) =
      ExtensionNames.dedupe (ExtensionNames.split texts) := by
  rw [ExtensionNames.split_eq_self, ExtensionNames.dedupe_eq_self]
  · exact ExtensionNames.dedupe_key_nodup _
  · exact fun name hname =>
      ExtensionNames.isName_of_mem_split (ExtensionNames.mem_of_mem_dedupeFrom hname)

/-- What is read as names of engine extensions are the names in some texts, without
repetitions. -/
theorem exists_texts_of_readExtensionNames {value : Value} {names : List String}
    (h : readExtensionNames value = .ok names) :
    ∃ texts, names = ExtensionNames.dedupe (ExtensionNames.split texts) := by
  cases value with
  | none =>
    cases h
    exact ⟨[], rfl⟩
  | text s =>
    cases h
    exact ⟨[s], rfl⟩
  | _ =>
    simp only [readExtensionNames] at h
    split at h
    case h_1 => cases h
    case h_2 items hitems =>
      split at h
      case h_1 => cases h
      case h_2 =>
        cases h
        exact ⟨items.filterMap Value.text?, rfl⟩

theorem settles_readExtensionNames : Settles readExtensionNames textTuple where
  names_problem value := by
    cases value with
    | none => rintro ⟨⟩
    | text s => rintro ⟨⟩
    | _ =>
      simp only [readExtensionNames]
      split
      · rintro ⟨⟩
      · split <;> rintro ⟨⟩
  reads_back value names hread := by
    obtain ⟨texts, rfl⟩ := exists_texts_of_readExtensionNames hread
    rw [textTuple, readExtensionNames_texts _ (.inr rfl), dedupe_split_dedupe_split]

/-! ## All fields -/

/-- A field without problems was read as something that is read back from its written
form, if that is so of the default too. -/
theorem Settles.readField_write {α : Type} {read : Value → FieldReading α} {write : α → Value}
    (h : Settles read write) {default : α} (hdefault : read (write default) = .ok default)
    {m : Mapping} {name : String} (hissues : (readField m name default read).issues = []) :
    ∃ content, readField m name default read = .ok content ∧
      read (write content) = .ok content := by
  rw [readField] at hissues ⊢
  cases hm : m.get? (.text name) with
  | none => exact ⟨default, rfl, hdefault⟩
  | some value =>
    rw [hm] at hissues
    cases hr : read value with
    | ok content => exact ⟨content, hr, h.reads_back value content hr⟩
    | error issues =>
      have hnil : issues = [] := by simpa only [hr, FieldReading.issues_error] using hissues
      exact absurd (hnil ▸ hr) (h.names_problem value)

/-- The problems of a reading, placed at a field, are none exactly if the reading has none. -/
theorem issuesAt_eq_nil_iff {α : Type} {name : String} {reading : FieldReading α} :
    issuesAt name reading = [] ↔ reading.issues = [] :=
  List.map_eq_nil_iff

/-- Every field of some options is read back from its written form. -/
structure ReadBack (options : Options) : Prop where
  format : readOptional readFormat
      (writeOptional (fun choice => .text choice.name) options.format) = .ok options.format
  mdExtensions : readOptional readSuffixes (writeOptional textTuple options.mdExtensions) =
      .ok options.mdExtensions
  mdxExtensions : readOptional readSuffixes (writeOptional textTuple options.mdxExtensions) =
      .ok options.mdxExtensions
  markdownExtensions : readExtensionNames (textTuple options.markdownExtensions) =
      .ok options.markdownExtensions
  development : readTruth (.bool options.development) = .ok options.development
  outputShape : readShape (.text options.outputShape.name) = .ok options.outputShape
  providerImportSource : readOptional readText (writeOptional .text options.providerImportSource) =
      .ok options.providerImportSource
  plugins : readTuple readPlugin (.tuple (options.plugins.map .callable)) = .ok options.plugins

/-- The fields of checked options are read back. -/
theorem readBack_of_read {m : Mapping} {options : Options} (h : read m = .ok options) :
    ReadBack options := by
  obtain ⟨hissues, rfl⟩ := read_eq_ok_iff.1 h
  simp only [Readings.issues, List.append_eq_nil_iff, issuesAt_eq_nil_iff, Readings.of] at hissues
  obtain ⟨⟨⟨⟨⟨⟨⟨⟨hformat, hmd⟩, hmdx⟩, hmarkdown⟩, hdevelopment⟩, hshape⟩, hprovider⟩, hplugins⟩,
    -⟩ := hissues
  have htuple (texts : List String) : textTuple texts ≠ .none := by rintro ⟨⟩
  obtain ⟨format, hformat, hformat'⟩ :=
    (settles_readFormat.optional fun _ => by rintro ⟨⟩).readField_write rfl hformat
  obtain ⟨md, hmd, hmd'⟩ := (settles_readSuffixes.optional htuple).readField_write rfl hmd
  obtain ⟨mdx, hmdx, hmdx'⟩ := (settles_readSuffixes.optional htuple).readField_write rfl hmdx
  obtain ⟨names, hmarkdown, hmarkdown'⟩ :=
    settles_readExtensionNames.readField_write rfl hmarkdown
  obtain ⟨development, hdevelopment, hdevelopment'⟩ :=
    settles_readTruth.readField_write rfl hdevelopment
  obtain ⟨shape, hshape, hshape'⟩ := settles_readShape.readField_write rfl hshape
  obtain ⟨provider, hprovider, hprovider'⟩ :=
    (settles_readText.optional fun _ => by rintro ⟨⟩).readField_write rfl hprovider
  obtain ⟨plugins, hplugins, hplugins'⟩ := settles_plugins.readField_write rfl hplugins
  simp only [Readings.options, Readings.of, hformat, hmd, hmdx, hmarkdown, hdevelopment, hshape,
    hprovider, hplugins, FieldReading.valueOr_ok]
  exact ⟨hformat', hmd', hmdx', hmarkdown', hdevelopment', hshape', hprovider', hplugins'⟩

/-- The defaults are read back. -/
theorem readBack_default : ReadBack {} :=
  readBack_of_read (m := []) rfl

/-- A pinned format is read back, and no other field depends on it. -/
theorem ReadBack.withFormat {options : Options} (h : ReadBack options) (format : DocumentFormat) :
    ReadBack (options.withFormat format) where
  format := by cases format <;> rfl
  mdExtensions := h.mdExtensions
  mdxExtensions := h.mdxExtensions
  markdownExtensions := h.markdownExtensions
  development := h.development
  outputShape := h.outputShape
  providerImportSource := h.providerImportSource
  plugins := h.plugins

/-- Options whose fields are read back are read from the mapping of their fields. -/
theorem ReadBack.read_toMapping {options : Options} (h : ReadBack options) :
    read options.toMapping = .ok options := by
  have hof : Readings.of options.toMapping =
      { format := .ok options.format
        mdExtensions := .ok options.mdExtensions
        mdxExtensions := .ok options.mdxExtensions
        markdownExtensions := .ok options.markdownExtensions
        development := .ok options.development
        outputShape := .ok options.outputShape
        providerImportSource := .ok options.providerImportSource
        plugins := .ok options.plugins
        unknown := [] } := by
    rw [Readings.of, Readings.mk.injEq]
    exact ⟨h.format, h.mdExtensions, h.mdxExtensions, h.markdownExtensions, h.development,
      h.outputShape, h.providerImportSource, h.plugins, rfl⟩
  refine read_eq_ok_iff.2 ⟨?_, ?_⟩
  · rw [hof]
    rfl
  · rw [hof]
    rfl

/-! ## Checked options -/

/-- Options that a caller can have: they come from checking a value, perhaps with the
format pinned afterwards. -/
inductive Checked : Options → Prop where
  | value {value : Value} {options : Options} (h : ofInput (.value value) = .ok options) :
      Checked options
  | withFormat {options : Options} (h : Checked options) (format : DocumentFormat) :
      Checked (options.withFormat format)

/-- The fields of options that a caller can have are read back. -/
theorem Checked.readBack {options : Options} (h : Checked options) : ReadBack options := by
  induction h with
  | @value value options h =>
    cases value with
    | none =>
      cases h
      exact readBack_default
    | map entries =>
      rw [ofInput] at h
      cases hr : read entries with
      | error issues =>
        rw [hr] at h
        cases h
      | ok checked =>
        rw [hr] at h
        cases h
        exact readBack_of_read hr
    | _ => cases h
  | withFormat _ format ih => exact ih.withFormat format

/-- What a caller can give as options: any value, or options that a caller can have. -/
inductive Input.Genuine : Input → Prop where
  | value (value : Value) : Genuine (.value value)
  | existing {options : Options} (h : Checked options) : Genuine (.existing options)

/-- What is accepted from a caller are options that a caller can have. -/
theorem Input.Genuine.checked {input : Input} {options : Options} (hi : input.Genuine)
    (h : ofInput input = .ok options) : Checked options := by
  cases hi with
  | value value => exact .value h
  | existing hchecked =>
    cases h
    exact hchecked

/-- Checking the mapping of the fields of some options gives the options. -/
def IsFixed (options : Options) : Prop :=
  ofInput (.value (.map options.toMapping)) = .ok options

/-- The fields of options that a caller can have are accepted as they are. -/
theorem Checked.isFixed {options : Options} (h : Checked options) : IsFixed options := by
  rw [IsFixed, ofInput, h.readBack.read_toMapping]

/-- Whatever is accepted as options, the options are a fixed point of checking, and so are
these options with a format pinned. -/
theorem isFixed_of_accepted {input : Input} {options : Options} (hi : input.Genuine)
    (h : ofInput input = .ok options) :
    IsFixed options ∧ ∀ format, IsFixed (options.withFormat format) := by
  have hchecked := hi.checked h
  exact ⟨hchecked.isFixed, fun format => (hchecked.withFormat format).isFixed⟩

/-- Options as a caller may write them: suffixes with blanks around them, in capitals, as
bytes and with a sigma at the end, names in one text with a repetition, and truth in words. -/
def unkempt : Mapping :=
  [(.text "markdown_extensions", .text "toc, TOC  tables"),
    (.text "md_extensions",
      .list [.text " .MD\n", .bytes [0x2e, 0x54, 0x58, 0x54], .text ".ΛΟΓΟΣ"]),
    (.text "development", .text "YES"), (.text "mdx_extensions", .none)]

/-- What these options are brought into. -/
def kempt : Options where
  mdExtensions := some [".md", ".txt", ".λογος"]
  markdownExtensions := ["toc", "tables"]
  development := true

theorem isFixed_kempt :
    ofInput (.value (.map unkempt)) = .ok kempt ∧ IsFixed kempt ∧
      ∀ format, IsFixed (kempt.withFormat format) := by
  have hread : read unkempt = .ok kempt :=
    read_eq_ok_iff.2 ⟨by decide +kernel, by decide +kernel⟩
  have h : ofInput (.value (.map unkempt)) = .ok kempt := by rw [ofInput, hread]
  exact ⟨h, isFixed_of_accepted (.value _) h⟩

end Options

end DocPress
