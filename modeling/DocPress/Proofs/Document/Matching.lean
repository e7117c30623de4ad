import DocPress.Proofs.Document.Classification
import DocPress.Proofs.Options.ReadingBack
import Mathlib.Data.List.Induction

/-!
# Which extensions documents have

An extension that was checked is one suffix, a dot and something without a dot.  A document
has its extension from the last dot of its last name on, and a name ends at a slash.  The
check lets slashes through, so an extension that holds one is not the extension of any
document.  Documents that are written with it are known by what stands in front of the
slashes at its end, if those are its only slashes, and by nothing otherwise.

Main results:

- `Options.detectFormat_of_trails`: the format of a document that is written with a stored
  extension.
- `Options.isProduced_iff`: the extensions that documents have are those without a slash.
- `Options.matching_law`: when documents are found under every active extension.
-/

namespace DocPress

/-! ## Pieces between slashes -/

namespace Text

section Pieces

variable {mark : Char} {text : List Char}

/-- There is a piece, be it an empty one. -/
theorem splitAt_ne_nil (mark : Char) (text : List Char) : splitAt mark text ≠ [] := by
  cases text with
  | nil => exact List.cons_ne_nil _ _
  | cons c rest =>
    rw [splitAt]
    split
    case isTrue => exact List.cons_ne_nil _ _
    case isFalse => split <;> exact List.cons_ne_nil _ _

/-- A mark ends the pieces in front of it. -/
theorem splitAt_append_mark (mark : Char) (front back : List Char) :
    splitAt mark (front ++ mark :: back) = splitAt mark front ++ splitAt mark back := by
  induction front with
  | nil => simp [splitAt]
  | cons c front ih =>
    obtain ⟨piece, pieces, hfront⟩ := List.exists_cons_of_ne_nil (splitAt_ne_nil mark front)
    rw [hfront] at ih
    rw [List.cons_append, splitAt, splitAt, ih, hfront]
    by_cases hc : c = mark
    · rw [if_pos hc, if_pos hc]
      rfl
    · rw [if_neg hc, if_neg hc]
      rfl

/-- Without a mark the text is one piece. -/
theorem splitAt_of_not_mem (h : mark ∉ text) : splitAt mark text = [text] := by
  induction text with
  | nil => rfl
  | cons c rest ih =>
    have hc : c ≠ mark := fun heq => h (heq ▸ List.mem_cons_self ..)
    have hrest : mark ∉ rest := fun hmem => h (List.mem_cons_of_mem _ hmem)
    rw [splitAt, if_neg hc, ih hrest]

/-- No piece holds a mark. -/
theorem not_mem_of_mem_splitAt {piece : List Char} (h : piece ∈ splitAt mark text) :
    mark ∉ piece := by
  induction text generalizing piece with
  | nil =>
    rw [List.mem_singleton.1 h]
    exact List.not_mem_nil
  | cons c rest ih =>
    obtain ⟨first, others, hrest⟩ := List.exists_cons_of_ne_nil (splitAt_ne_nil mark rest)
    rw [hrest] at ih
    rw [splitAt, hrest] at h
    by_cases hc : c = mark
    · rw [if_pos hc] at h
      rcases List.mem_cons.1 h with rfl | hmem
      · exact List.not_mem_nil
      · exact ih hmem
    · rw [if_neg hc] at h
      rcases List.mem_cons.1 h with rfl | hmem
      · intro hmark
        rcases List.mem_cons.1 hmark with hsame | hfirst
        · exact hc hsame.symm
        · exact ih (List.mem_cons_self ..) hfirst
      · exact ih (List.mem_cons_of_mem _ hmem)

/-- A text has marks at its end alone, or one in front of something at its end. -/
theorem marks_cases (mark : Char) (text : List Char) :
    (∃ front n, mark ∉ front ∧ text = front ++ List.replicate n mark) ∨
      ∃ front last n, last ≠ [] ∧ mark ∉ last ∧
        text = front ++ mark :: last ++ List.replicate n mark := by
  induction text using List.reverseRecOn with
  | nil => exact .inl ⟨[], 0, List.not_mem_nil, rfl⟩
  | append_singleton text c ih =>
    by_cases hc : c = mark
    · -- one more mark at the end
      subst hc
      rcases ih with ⟨front, n, hfront, htext⟩ | ⟨front, last, n, hne, hlast, htext⟩
      · refine .inl ⟨front, n + 1, hfront, ?_⟩
        rw [htext, List.append_assoc, ← List.replicate_succ']
      · refine .inr ⟨front, last, n + 1, hne, hlast, ?_⟩
        rw [htext, List.append_assoc, ← List.replicate_succ']
    · have hclean {rest : List Char} (hrest : mark ∉ rest) : mark ∉ rest ++ [c] := by
        simpa [hrest] using Ne.symm hc
      by_cases hmark : mark ∈ text
      · obtain ⟨last, front, htext, hlast⟩ :=
          List.eq_append_cons_of_mem (List.mem_reverse.2 hmark)
        refine .inr ⟨front.reverse, last.reverse ++ [c], 0, by simp, ?_, ?_⟩
        · exact hclean (mt List.mem_reverse.1 hlast)
        · rw [← List.reverse_reverse text, htext]
          simp
      · exact .inl ⟨text ++ [c], 0, hclean hmark, by simp⟩

end Pieces

end Text

/-! ## Names that are read -/

namespace Path

section Reading

variable {stem tail : List Char}

/-- A slash parts the names of a path. -/
theorem names_ofText_append_slash (front back : List Char) :
    (ofText (front ++ '/' :: back)).names = (ofText front).names ++ (ofText back).names := by
  simp only [ofText, Text.splitAt_append_mark, List.filter_append]

/-- Slashes alone are no names. -/
theorem names_ofText_slashes (n : Nat) : (ofText (List.replicate n '/')).names = [] := by
  induction n with
  | zero => rfl
  | succ n ih =>
    have hnames := names_ofText_append_slash [] (List.replicate n '/')
    rw [ih] at hnames
    exact hnames

/-- Slashes at the end of a path do not count. -/
theorem names_ofText_append_slashes (text : List Char) (n : Nat) :
    (ofText (text ++ List.replicate n '/')).names = (ofText text).names := by
  cases n with
  | zero => rw [List.replicate_zero, List.append_nil]
  | succ n =>
    rw [List.replicate_succ, names_ofText_append_slash, names_ofText_slashes, List.append_nil]

/-- A name without a slash is read as it is. -/
theorem names_ofText_of_not_mem {text : List Char} (h : '/' ∉ text) (hn : isName text = true) :
    (ofText text).names = [text] := by
  rw [ofText, Text.splitAt_of_not_mem h, List.filter_cons_of_pos hn, List.filter_nil]

/-- A name without a slash is the last one. -/
theorem name_ofText_of_not_mem {text : List Char} (h : '/' ∉ text) (hn : isName text = true) :
    (ofText text).name = text := by
  rw [name, names_ofText_of_not_mem h hn]
  rfl

/-- No name that is read has a slash. -/
theorem not_mem_name_ofText (text : List Char) : '/' ∉ (ofText text).name := by
  rcases List.eq_nil_or_concat (ofText text).names with hnil | ⟨front, last, hlast⟩
  · rw [name, hnil]
    exact List.not_mem_nil
  · rw [name, hlast, List.concat_eq_append, List.getLastD_concat]
    have hmem : last ∈ (ofText text).names := by simp [hlast]
    exact Text.not_mem_of_mem_splitAt (List.mem_filter.1 hmem).1

/-- The names of a path are all that counts for its extension. -/
theorem extname?_congr {path other : Path} (h : path.names = other.names) :
    path.extname? = other.extname? := by
  rw [extname?, extname?, suffix, suffix, name, name, h]

/-- A name with a suffix is no step to a directory. -/
theorem isName_append_dot (hs : stem ≠ []) : isName (stem ++ '.' :: tail) = true := by
  have hlong : 2 ≤ (stem ++ '.' :: tail).length := by
    have hpos := List.length_pos_iff.2 hs
    rw [List.length_append, List.length_cons]
    omega
  rw [isName, Bool.and_eq_true, bne_iff_ne, bne_iff_ne]
  constructor
  · intro hnil
    rw [hnil] at hlong
    exact absurd hlong (by decide)
  · intro hdot
    rw [hdot] at hlong
    exact absurd hlong (by decide)

/-- A file that is written with a suffix has that extension. -/
theorem extname?_ofText_append (hs : stem ≠ []) (hslash : '/' ∉ stem ++ '.' :: tail)
    (ht : tail ≠ []) (hd : '.' ∉ tail) :
    (ofText (stem ++ '.' :: tail)).extname? = some (String.ofList (Text.lower ('.' :: tail))) := by
  have hsuffix : (ofText (stem ++ '.' :: tail)).suffix = '.' :: tail := by
    rw [suffix, name_ofText_of_not_mem hslash (isName_append_dot hs), splitSuffix_append hs ht hd]
  rw [extname?, hsuffix, if_neg (List.cons_ne_nil _ _)]

/-- A dot at the end of a file makes no extension. -/
theorem extname?_ofText_append_dot (hs : stem ≠ []) (hslash : '/' ∉ stem) :
    (ofText (stem ++ ['.'])).extname? = none := by
  have hclean : '/' ∉ stem ++ ['.'] := by simp [hslash]
  rw [extname?_eq_none_iff, suffix, name_ofText_of_not_mem hclean (isName_append_dot hs),
    splitSuffix_of_trailing]

/-- A last name without a dot has no extension, whatever the directory. -/
theorem extname?_ofText_of_no_dot (directory : List Char) {last : List Char} (hne : last ≠ [])
    (hslash : '/' ∉ last) (hd : '.' ∉ last) :
    (ofText (directory ++ '/' :: last)).extname? = none := by
  have hname : isName last = true := by
    rw [isName, Bool.and_eq_true, bne_iff_ne, bne_iff_ne]
    refine ⟨hne, ?_⟩
    rintro rfl
    exact hd (List.mem_singleton_self _)
  rw [extname?_eq_none_iff, suffix, name, names_ofText_append_slash,
    names_ofText_of_not_mem hslash hname, List.getLastD_concat, splitSuffix_of_no_dot hd]

end Reading

end Path

/-! ## Stored extensions -/

namespace Options

/-- The form in which extensions are stored: one suffix, in lower case. -/
structure IsStored (extension : String) : Prop where
  isSuffix : isSuffix extension.toList = true
  lower_eq : Text.lower extension.toList = extension.toList

/-- A checked extension is stored in this form. -/
theorem isStored_of_checkSuffix {extension stored : String}
    (h : checkSuffix extension = .ok stored) : IsStored stored := by
  simp only [checkSuffix] at h
  split at h
  case isFalse => cases h
  case isTrue hsuffix =>
    cases h
    constructor
    case isSuffix =>
      rw [String.toList_ofList]
      exact isSuffix_lower hsuffix
    case lower_eq => rw [String.toList_ofList, Text.lower_lower]

/-- So are all extensions of a list. -/
theorem isStored_of_mapM {extensions stored : List String}
    (h : extensions.mapM checkSuffix = .ok stored) : ∀ extension ∈ stored, IsStored extension := by
  induction extensions generalizing stored with
  | nil =>
    cases h
    intro extension hmem
    cases hmem
  | cons first extensions ih =>
    rw [List.mapM_cons] at h
    cases hc : checkSuffix first with
    | error issues =>
      rw [hc] at h
      cases h
    | ok stored =>
      cases hr : extensions.mapM checkSuffix with
      | error issues =>
        rw [hc, hr] at h
        cases h
      | ok others =>
        rw [hc, hr] at h
        cases h
        exact List.forall_mem_cons.2 ⟨isStored_of_checkSuffix hc, ih hr⟩

/-- Extensions that are read from a field are stored in this form. -/
theorem isStored_of_readSuffixes {value : Value} {stored : List String}
    (h : readSuffixes value = .ok stored) : ∀ extension ∈ stored, IsStored extension := by
  rw [readSuffixes] at h
  cases hr : readTuple readText value with
  | error issues =>
    rw [hr] at h
    cases h
  | ok extensions =>
    rw [hr] at h
    change checkSuffixes extensions = .ok stored at h
    rw [checkSuffixes] at h
    split at h
    case isTrue => cases h
    case isFalse => exact isStored_of_mapM h

instance (extension : String) : Decidable (IsStored extension) :=
  decidable_of_iff (Options.isSuffix extension.toList = true ∧
      Text.lower extension.toList = extension.toList)
    ⟨fun h => ⟨h.1, h.2⟩, fun h => ⟨h.1, h.2⟩⟩

/-- The extensions of the formats are in this form. -/
theorem isStored_extensions (format : DocumentFormat) :
    ∀ extension ∈ format.extensions, IsStored extension := by
  cases format <;> decide +kernel

/-- Extensions of a list that may be absent, in place of others. -/
theorem isStored_of_readBack {field : Option (List String)} {format : DocumentFormat}
    (h : readOptional readSuffixes (writeOptional textTuple field) = .ok field) :
    ∀ extension ∈ field.getD format.extensions, IsStored extension := by
  cases field with
  | none => exact isStored_extensions format
  | some stored =>
    change (readSuffixes (textTuple stored)).map some = .ok (some stored) at h
    cases hr : readSuffixes (textTuple stored) with
    | error issues =>
      rw [hr] at h
      cases h
    | ok again =>
      rw [hr] at h
      cases h
      exact isStored_of_readSuffixes hr

/-- All extensions of options that a caller can have are in this form. -/
theorem Checked.isStored {options : Options} (h : Checked options) (format : DocumentFormat) :
    ∀ extension ∈ options.active format, IsStored extension := by
  cases format with
  | md => exact isStored_of_readBack h.readBack.mdExtensions
  | mdx => exact isStored_of_readBack h.readBack.mdxExtensions

/-! ## Slashes in extensions -/

/-- An extension is another one without a slash, with slashes behind it if any. -/
structure Trails (extension shown : String) : Prop where
  not_mem : '/' ∉ shown.toList
  slashes : ∃ n, extension.toList = shown.toList ++ List.replicate n '/'

/-- An extension without a slash is shown as it is. -/
theorem Trails.refl {extension : String} (h : '/' ∉ extension.toList) : Trails extension extension :=
  ⟨h, 0, by simp⟩

section Writing

variable {stem : List Char} {extension shown : String}

/-- A document that is written with a stored extension has what stands in front of the slashes
at its end as its extension. -/
theorem extname?_of_trails (hs : stem ≠ []) (hslash : '/' ∉ stem) (he : IsStored extension)
    (h : Trails extension shown) (hne : shown ≠ ".") :
    (Path.ofText (stem ++ extension.toList)).extname? = some shown := by
  obtain ⟨hclean, n, hcut⟩ := h
  obtain ⟨tail, htail, -, hd⟩ := isSuffix_iff.1 he.isSuffix
  -- what is shown starts with the dot and has something behind it
  obtain ⟨rest, hrest⟩ : ∃ rest, shown.toList = '.' :: rest := by
    rw [htail] at hcut
    cases hshown : shown.toList with
    | nil =>
      rw [hshown, List.nil_append] at hcut
      have hdot : '.' ∈ List.replicate n '/' := hcut ▸ List.mem_cons_self ..
      exact absurd (List.eq_of_mem_replicate hdot) (by decide)
    | cons c rest =>
      rw [hshown] at hcut
      rw [(List.cons_eq_cons.1 hcut).1]
      exact ⟨rest, rfl⟩
  have hrestNe : rest ≠ [] := by
    rintro rfl
    exact hne (String.toList_inj.1 hrest)
  have hrestDot : '.' ∉ rest := by
    intro hmem
    rw [htail, hrest] at hcut
    rw [(List.cons_eq_cons.1 hcut).2] at hd
    exact hd (List.mem_append_left _ hmem)
  have hlower : Text.lower shown.toList = shown.toList := by
    apply Text.lowerAfter_of_isSmall
    intro c hc
    have hmem : c ∈ Text.lower extension.toList := by
      rw [he.lower_eq, hcut]
      exact List.mem_append_left _ hc
    exact Text.isSmall_of_mem_lowerAfter hmem
  have hslashes : '/' ∉ stem ++ '.' :: rest := by
    rw [← hrest, List.mem_append, not_or]
    exact ⟨hslash, hclean⟩
  rw [hcut, ← List.append_assoc,
    Path.extname?_congr (Path.names_ofText_append_slashes (stem ++ shown.toList) n), hrest,
    Path.extname?_ofText_append hs hslashes hrestNe hrestDot, ← hrest, hlower, String.ofList_toList]

/-- If it has an extension, that is what stands in front of the slashes at the end. -/
theorem trails_of_extname? (hs : stem ≠ []) (hslash : '/' ∉ stem) (he : IsStored extension)
    (h : (Path.ofText (stem ++ extension.toList)).extname? = some shown) :
    Trails extension shown := by
  obtain ⟨tail, htail, -, hd⟩ := isSuffix_iff.1 he.isSuffix
  rcases Text.marks_cases '/' tail with
    ⟨front, n, hfront, hcut⟩ | ⟨front, last, n, hlast, hclean, hcut⟩
  · have htrails : Trails extension (String.ofList ('.' :: front)) := by
      constructor
      case not_mem => simp [hfront]
      case slashes => exact ⟨n, by rw [String.toList_ofList, htail, hcut, List.cons_append]⟩
    by_cases hempty : front = []
    · -- nothing stands between the dot and the slashes
      subst hempty
      rw [htail, hcut, List.nil_append, List.append_cons,
        Path.extname?_congr (Path.names_ofText_append_slashes (stem ++ ['.']) n),
        Path.extname?_ofText_append_dot hs hslash] at h
      cases h
    · have hne : String.ofList ('.' :: front) ≠ "." := by
        intro heq
        have hlist := congrArg String.toList heq
        rw [String.toList_ofList] at hlist
        exact hempty (List.cons_eq_cons.1 hlist).2
      rw [extname?_of_trails hs hslash he htrails hne] at h
      rwa [← Option.some.inj h]
  · -- the last name is what stands between the last two slashes, without any dot
    have hlastDot : '.' ∉ last := by
      intro hmem
      rw [hcut] at hd
      exact hd (by simp [hmem])
    have hpath : stem ++ extension.toList =
        stem ++ '.' :: front ++ '/' :: last ++ List.replicate n '/' := by
      rw [htail, hcut]
      simp
    rw [hpath, Path.extname?_congr (Path.names_ofText_append_slashes _ n),
      Path.extname?_ofText_of_no_dot _ hlast hclean hlastDot] at h
    cases h

end Writing

/-! ## Finding documents -/

section Finding

variable {options : Options}

/-- A document that is written with an active extension has a format exactly if that is the
format of what stands in front of the slashes at the end of the extension. -/
theorem detectFormat_of_trails (hc : Checked options) (hu : options.pinnedFormat? = none)
    {extension : String} (he : IsStored extension) {stem : List Char} (hs : stem ≠ [])
    (hslash : '/' ∉ stem) {document : Document}
    (hp : document.path = some (Path.ofText (stem ++ extension.toList)))
    {format : DocumentFormat} :
    document.detectFormat options = .ok format ↔
      ∃ shown, Trails extension shown ∧ options.formatOf? shown = some format := by
  have hextname : document.extname? =
      (Path.ofText (stem ++ extension.toList)).extname? := by
    rw [Document.extname?, hp, Option.bind_some]
  rw [Document.detectFormat_eq_ok_iff hu, hextname, Option.bind_eq_some_iff]
  refine exists_congr fun shown => and_congr_left fun hformat => ?_
  constructor
  · exact trails_of_extname? hs hslash he
  · intro htrails
    refine extname?_of_trails hs hslash he htrails ?_
    -- an extension with a format is active, and a dot alone is not stored
    rintro rfl
    have hactive : "." ∈ options.active .md ++ options.active .mdx :=
      exists_formatOf?_iff.1 ⟨format, hformat⟩
    have hstored : IsStored "." := by
      rcases List.mem_append.1 hactive with hmd | hmdx
      · exact hc.isStored .md _ hmd
      · exact hc.isStored .mdx _ hmdx
    exact absurd hstored (by decide)

/-- Every active extension finds the documents that are written with it: plain ones if it is
active for plain Markdown, and otherwise those with components. -/
structure FindsDocuments (options : Options) : Prop where
  md : ∀ extension ∈ options.active .md, ∀ stem : List Char, stem ≠ [] → '/' ∉ stem →
    ∀ document : Document, document.path = some (Path.ofText (stem ++ extension.toList)) →
      document.detectFormat options = .ok .md
  mdx : ∀ extension ∈ options.active .mdx, extension ∉ options.active .md →
    ∀ stem : List Char, stem ≠ [] → '/' ∉ stem →
      ∀ document : Document, document.path = some (Path.ofText (stem ++ extension.toList)) →
        document.detectFormat options = .ok .mdx

/-- Active extensions find their documents exactly if each is one without a slash that finds
the same documents, but for slashes at its end. -/
theorem findsDocuments_iff (hc : Checked options) (hu : options.pinnedFormat? = none) :
    options.FindsDocuments ↔
      (∀ extension ∈ options.active .md, ∃ shown ∈ options.active .md, Trails extension shown) ∧
      (∀ extension ∈ options.active .mdx, extension ∉ options.active .md →
        ∃ shown ∈ options.active .mdx, shown ∉ options.active .md ∧ Trails extension shown) := by
  have hone : ['a'] ≠ [] := List.cons_ne_nil _ _
  have hclean : '/' ∉ ['a'] := by decide
  constructor
  · intro hfinds
    constructor
    · intro extension hmem
      have hfound := hfinds.md extension hmem ['a'] hone hclean
        { path := some (Path.ofText (['a'] ++ extension.toList)) } rfl
      obtain ⟨shown, htrails, hformat⟩ :=
        (detectFormat_of_trails hc hu (hc.isStored .md _ hmem) hone hclean rfl).1 hfound
      exact ⟨shown, formatOf?_eq_md_iff.1 hformat, htrails⟩
    · intro extension hmem hother
      have hfound := hfinds.mdx extension hmem hother ['a'] hone hclean
        { path := some (Path.ofText (['a'] ++ extension.toList)) } rfl
      obtain ⟨shown, htrails, hformat⟩ :=
        (detectFormat_of_trails hc hu (hc.isStored .mdx _ hmem) hone hclean rfl).1 hfound
      obtain ⟨hmdx, hmd⟩ := formatOf?_eq_mdx_iff.1 hformat
      exact ⟨shown, hmdx, hmd, htrails⟩
  · rintro ⟨hmd, hmdx⟩
    constructor
    case md =>
      intro extension hmem stem hs hslash document hp
      obtain ⟨shown, hshown, htrails⟩ := hmd extension hmem
      rw [detectFormat_of_trails hc hu (hc.isStored .md _ hmem) hs hslash hp]
      exact ⟨shown, htrails, formatOf?_eq_md_iff.2 hshown⟩
    case mdx =>
      intro extension hmem hother stem hs hslash document hp
      obtain ⟨shown, hshown, hplain, htrails⟩ := hmdx extension hmem hother
      rw [detectFormat_of_trails hc hu (hc.isStored .mdx _ hmem) hs hslash hp]
      exact ⟨shown, htrails, formatOf?_eq_mdx_iff.2 ⟨hshown, hplain⟩⟩

/-- A document can have an extension: some path is read as one with it. -/
def IsProduced (extension : String) : Prop :=
  ∃ text : List Char, (Path.ofText text).extname? = some extension

/-- A stored extension is that of some document exactly if it has no slash. -/
theorem isProduced_iff {extension : String} (he : IsStored extension) :
    IsProduced extension ↔ '/' ∉ extension.toList := by
  constructor
  · rintro ⟨text, htext⟩ hslash
    rw [Path.extname?] at htext
    split at htext
    case isTrue => cases htext
    case isFalse =>
      rw [← Option.some.inj htext, String.toList_ofList, Text.mem_lower_mark_iff (by decide)]
        at hslash
      apply Path.not_mem_name_ofText text
      rw [← Path.stem_append_suffix]
      exact List.mem_append_right _ hslash
  · intro hslash
    refine ⟨['a'] ++ extension.toList, ?_⟩
    apply extname?_of_trails (List.cons_ne_nil _ _) (by decide) he (Trails.refl hslash)
    rintro rfl
    exact absurd he (by decide)

/-- Whatever options are accepted without a pinned format, their active extensions find the
documents that are written with them exactly if each is, but for slashes at its end, an
extension without a slash for the same format.  Those that documents can have at all are
those without a slash. -/
theorem matching_law {input : Input} (hi : input.Genuine) (h : ofInput input = .ok options)
    (hu : options.pinnedFormat? = none) :
    (options.FindsDocuments ↔
      (∀ extension ∈ options.active .md, ∃ shown ∈ options.active .md, Trails extension shown) ∧
      (∀ extension ∈ options.active .mdx, extension ∉ options.active .md →
        ∃ shown ∈ options.active .mdx, shown ∉ options.active .md ∧ Trails extension shown)) ∧
    ∀ format, ∀ extension ∈ options.active format,
      IsProduced extension ↔ '/' ∉ extension.toList := by
  have hchecked := hi.checked h
  constructor
  · exact findsDocuments_iff hchecked hu
  · intro format extension hmem
    exact isProduced_iff (hchecked.isStored format extension hmem)

/-- Options with an extension that has a slash inside. -/
def parted : Mapping :=
  [(.text "md_extensions", .list [.text ".m/d"])]

/-- What these options are read as. -/
def partedOptions : Options where
  mdExtensions := some [".m/d"]

/-- The extension is accepted, and neither finds a document nor is that of any. -/
theorem not_findsDocuments_parted :
    ofInput (.value (.map parted)) = .ok partedOptions ∧ partedOptions.pinnedFormat? = none ∧
      ¬ partedOptions.FindsDocuments ∧ ¬ IsProduced ".m/d" := by
  have hread : read parted = .ok partedOptions :=
    read_eq_ok_iff.2 ⟨by decide +kernel, by decide +kernel⟩
  refine ⟨by rw [ofInput, hread], rfl, ?_, ?_⟩
  · intro hfinds
    have hfound := hfinds.md ".m/d" (List.mem_singleton_self _) ['a'] (List.cons_ne_nil _ _)
      (by decide) { path := some (Path.ofString "a.m/d") } rfl
    rw [Document.detectFormat_eq_ok_iff rfl] at hfound
    exact absurd hfound (by decide)
  · rw [isProduced_iff (by decide)]
    decide

/-- Options with an extension that has a slash behind it, beside the one without. -/
def trailing : Mapping :=
  [(.text "mdx_extensions", .list [.text ".x y"]),
    (.text "md_extensions", .list [.text " .MD", .text ".md/"])]

/-- What these options are read as. -/
def trailingOptions : Options where
  mdExtensions := some [".md", ".md/"]
  mdxExtensions := some [".x y"]

theorem matching_law_trailing :
    ofInput (.value (.map trailing)) = .ok trailingOptions ∧
      trailingOptions.pinnedFormat? = none ∧
      (trailingOptions.FindsDocuments ↔
        (∀ extension ∈ trailingOptions.active .md,
          ∃ shown ∈ trailingOptions.active .md, Trails extension shown) ∧
        (∀ extension ∈ trailingOptions.active .mdx, extension ∉ trailingOptions.active .md →
          ∃ shown ∈ trailingOptions.active .mdx,
            shown ∉ trailingOptions.active .md ∧ Trails extension shown)) ∧
      ∀ format, ∀ extension ∈ trailingOptions.active format,
        IsProduced extension ↔ '/' ∉ extension.toList := by
  have hread : read trailing = .ok trailingOptions :=
    read_eq_ok_iff.2 ⟨by decide +kernel, by decide +kernel⟩
  have h : ofInput (.value (.map trailing)) = .ok trailingOptions := by rw [ofInput, hread]
  exact ⟨h, rfl, matching_law (.value _) h rfl⟩

end Finding

end Options

end DocPress
