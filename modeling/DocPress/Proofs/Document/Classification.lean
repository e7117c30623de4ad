import DocPress.Dispatcher
import Mathlib.Data.List.TakeDrop
import Mathlib.Data.List.TakeWhile

/-!
# How documents are classified

Without a pinned format, the extension of a document decides on its format, and the
extensions that a dispatcher announces are those that decide.  The extension is a
property of the last name of a path alone, and of that name only from its last dot on.

Main results:

- `Path.splitSuffix_append`: a name is cut before its last dot, whatever stands in front.
- `Document.detectFormat_ok_iff_mem_advertised`: the documents that are taken are those
  whose extension is announced.
- `Dispatcher.classifies`: what a dispatcher announces and how it classifies agree, and
  the extension is all that counts.
-/

namespace DocPress

/-! ## Suffixes of names -/

namespace Path

section Names

variable {stem tail : List Char}

/-- Looking for the last dot from the end of a name. -/
theorem span_reverse_append (stem : List Char) (hd : '.' ∉ tail) :
    (stem ++ '.' :: tail).reverse.span (· ≠ '.') = (tail.reverse, '.' :: stem.reverse) := by
  have hclean : ∀ c ∈ tail.reverse, decide (c ≠ '.') = true := by
    intro c hc
    refine decide_eq_true ?_
    rintro rfl
    exact hd (List.mem_reverse.1 hc)
  rw [List.span_eq_takeWhile_dropWhile, List.reverse_append, List.reverse_cons, List.append_assoc,
    List.takeWhile_append_of_pos hclean, List.dropWhile_append_of_pos hclean]
  simp

/-- A name with something in front of its last dot and behind it is cut there. -/
theorem splitSuffix_append (hs : stem ≠ []) (ht : tail ≠ []) (hd : '.' ∉ tail) :
    splitSuffix (stem ++ '.' :: tail) = (stem, '.' :: tail) := by
  have hspan := span_reverse_append stem hd
  obtain ⟨last, front, htail⟩ := List.exists_cons_of_ne_nil (List.reverse_ne_nil_iff.2 ht)
  obtain ⟨first, back, hstem⟩ := List.exists_cons_of_ne_nil (List.reverse_ne_nil_iff.2 hs)
  rw [htail, hstem] at hspan
  have hparts : splitSuffix (stem ++ '.' :: tail) =
      ((first :: back).reverse, '.' :: (last :: front).reverse) := by
    rw [splitSuffix, hspan]
    rfl
  rw [hparts, ← htail, ← hstem, List.reverse_reverse, List.reverse_reverse]

/-- A dot in front alone makes no suffix. -/
theorem splitSuffix_of_leading (hd : '.' ∉ tail) : splitSuffix ('.' :: tail) = ('.' :: tail, []) := by
  have hspan := span_reverse_append [] hd
  rw [List.nil_append] at hspan
  rw [splitSuffix, hspan]
  cases tail.reverse <;> rfl

/-- A dot at the end makes no suffix. -/
theorem splitSuffix_of_trailing (stem : List Char) :
    splitSuffix (stem ++ ['.']) = (stem ++ ['.'], []) := by
  rw [splitSuffix, span_reverse_append stem (by simp)]
  rfl

/-- Without a dot there is no suffix. -/
theorem splitSuffix_of_no_dot {name : List Char} (hd : '.' ∉ name) :
    splitSuffix name = (name, []) := by
  have hclean : ∀ c ∈ name.reverse, decide (c ≠ '.') = true := by
    intro c hc
    refine decide_eq_true ?_
    rintro rfl
    exact hd (List.mem_reverse.1 hc)
  rw [splitSuffix, List.span_eq_takeWhile_dropWhile, List.takeWhile_eq_self_iff.2 hclean,
    List.dropWhile_eq_nil_iff.2 hclean]
  cases name.reverse <;> rfl

/-- A name is whole, or cut before a last dot with something on both sides of it. -/
theorem splitSuffix_cases (name : List Char) :
    splitSuffix name = (name, []) ∨
      ∃ stem tail, stem ≠ [] ∧ tail ≠ [] ∧ '.' ∉ tail ∧ name = stem ++ '.' :: tail := by
  by_cases hdot : '.' ∈ name
  · obtain ⟨back, front, hname, hd⟩ := List.eq_append_cons_of_mem (List.mem_reverse.2 hdot)
    obtain rfl : name = front.reverse ++ '.' :: back.reverse := by
      rw [← List.reverse_reverse name, hname]
      simp
    rw [← List.mem_reverse] at hd
    by_cases hfront : front.reverse = []
    · rw [hfront]
      exact .inl (splitSuffix_of_leading hd)
    by_cases hback : back.reverse = []
    · rw [hback]
      exact .inl (splitSuffix_of_trailing front.reverse)
    · exact .inr ⟨front.reverse, back.reverse, hfront, hback, hd, rfl⟩
  · exact .inl (splitSuffix_of_no_dot hdot)

end Names

/-- The two parts of a last name make it up. -/
theorem stem_append_suffix (path : Path) : path.stem ++ path.suffix = path.name := by
  rw [stem, suffix]
  rcases splitSuffix_cases path.name with hwhole | ⟨stem, tail, hs, ht, hd, hname⟩
  · rw [hwhole, List.append_nil]
  · rw [hname, splitSuffix_append hs ht hd]

/-- What is cut off a name is empty, or a dot with something behind it that has no dot. -/
theorem suffix_cases (path : Path) :
    path.suffix = [] ∨
      path.stem ≠ [] ∧ ∃ tail, tail ≠ [] ∧ '.' ∉ tail ∧ path.suffix = '.' :: tail := by
  rw [stem, suffix]
  rcases splitSuffix_cases path.name with hwhole | ⟨stem, tail, hs, ht, hd, hname⟩
  · exact .inl (by rw [hwhole])
  · rw [hname, splitSuffix_append hs ht hd]
    exact .inr ⟨hs, tail, ht, hd, rfl⟩

/-! ## Other paths to the same extension -/

/-- The last name of a path in another directory. -/
def movedTo (path : Path) (root : Nat) (directory : List (List Char)) : Path :=
  ⟨root, directory ++ [path.name]⟩

/-- The path with something else in front of its suffix. -/
def withStem (path : Path) (stem : List Char) : Path :=
  { path with names := path.names.dropLast ++ [stem ++ path.suffix] }

/-- The path with something else in place of its suffix. -/
def withSuffix (path : Path) (suffix : List Char) : Path :=
  { path with names := path.names.dropLast ++ [path.stem ++ suffix] }

@[simp] theorem name_concat (root : Nat) (directory : List (List Char)) (name : List Char) :
    Path.name ⟨root, directory ++ [name]⟩ = name := by
  simp [Path.name]

/-- Another directory does not change the extension. -/
theorem extname?_movedTo (path : Path) (root : Nat) (directory : List (List Char)) :
    (path.movedTo root directory).extname? = path.extname? := by
  have hsame : (path.movedTo root directory).suffix = path.suffix := by
    rw [movedTo, suffix, name_concat, suffix]
  rw [extname?, extname?, hsame]

/-- Another stem does not change the extension; where there is none, the stem must not
bring one. -/
theorem extname?_withStem {path : Path} {stem : List Char} (hs : stem ≠ [])
    (hbare : path.suffix = [] → (splitSuffix stem).2 = []) :
    (path.withStem stem).extname? = path.extname? := by
  have hsame : (path.withStem stem).suffix = path.suffix := by
    rw [withStem, suffix, name_concat]
    rcases path.suffix_cases with hnone | ⟨-, tail, ht, hd, htail⟩
    · rw [hnone, List.append_nil, hbare hnone]
    · rw [htail, splitSuffix_append hs ht hd]
  rw [extname?, extname?, hsame]

/-- Only the dot is a dot whatever the letter case. -/
theorem smallAscii_eq_dot_iff {c : Char} : Text.smallAscii c = '.' ↔ c = '.' := by
  have hletters : ∀ n < 26, Char.ofNat (97 + n) ≠ '.' ∧ Char.ofNat (65 + n) ≠ '.' := by decide
  rcases Text.smallAscii_cases c with hsame | ⟨n, hn, rfl, hsmall⟩
  · rw [hsame]
  · rw [hsmall]
    exact iff_of_false (hletters n hn).1 (hletters n hn).2

/-- A suffix in other letter case is one as well. -/
theorem exists_tail_of_lowerAscii_eq {other tail : List Char}
    (h : Text.lowerAscii other = Text.lowerAscii ('.' :: tail)) (hd : '.' ∉ tail) :
    ∃ rest, other = '.' :: rest ∧ rest.length = tail.length ∧ '.' ∉ rest := by
  rw [Text.lowerAscii_eq_map, Text.lowerAscii_eq_map] at h
  rcases other with _ | ⟨dot, rest⟩
  · simp at h
  · obtain ⟨hdot, hrest⟩ := List.cons_eq_cons.1 h
    obtain rfl := smallAscii_eq_dot_iff.1 hdot
    refine ⟨rest, rfl, by simpa using congrArg List.length hrest, fun hmem => ?_⟩
    obtain ⟨c, hc, hsmall⟩ : ∃ c ∈ tail, Text.smallAscii c = '.' := by
      rw [← List.mem_map, ← hrest]
      exact List.mem_map.2 ⟨'.', hmem, rfl⟩
    rw [smallAscii_eq_dot_iff.1 hsmall] at hc
    exact hd hc

/-- The letter case of a suffix does not change the extension. -/
theorem extname?_withSuffix {path : Path} {other : List Char}
    (h : Text.lowerAscii other = Text.lowerAscii path.suffix) :
    (path.withSuffix other).extname? = path.extname? := by
  have hsame : (path.withSuffix other).suffix = other := by
    rw [withSuffix, suffix, name_concat]
    rcases path.suffix_cases with hnone | ⟨hstem, tail, ht, hd, htail⟩
    · have hother : other = [] := by simpa [hnone, Text.lowerAscii] using h
      have hwhole := path.stem_append_suffix
      rw [hnone] at hwhole
      rw [hother, hwhole]
      exact hnone
    · rw [htail] at h
      obtain ⟨rest, hother, hlength, hrest⟩ := exists_tail_of_lowerAscii_eq h hd
      rw [hother, splitSuffix_append hstem (List.ne_nil_of_length_pos ?_) hrest]
      rw [hlength]
      exact List.length_pos_iff.2 ht
  rw [extname?, extname?, hsame, ← Text.lower_lowerAscii other, h, Text.lower_lowerAscii]
  have hempty : other = [] ↔ path.suffix = [] := by
    have hlength : other.length = path.suffix.length := by
      simpa [Text.lowerAscii] using congrArg List.length h
    rw [← List.length_eq_zero_iff, hlength, List.length_eq_zero_iff]
  simp only [hempty]

end Path

/-! ## Taking documents -/

namespace Options

variable {options : Options} {extension : String}

/-- The extension of a plain document is active for plain Markdown, whatever else. -/
theorem formatOf?_eq_md_iff :
    options.formatOf? extension = some .md ↔ extension ∈ options.active .md := by
  rw [formatOf?]
  by_cases hmd : extension ∈ options.active .md
  · simp [hmd]
  · by_cases hmdx : extension ∈ options.active .mdx <;> simp [hmd, hmdx]

/-- The extension of a document with components is active for those alone. -/
theorem formatOf?_eq_mdx_iff :
    options.formatOf? extension = some .mdx ↔
      extension ∈ options.active .mdx ∧ extension ∉ options.active .md := by
  rw [formatOf?]
  by_cases hmd : extension ∈ options.active .md
  · simp [hmd]
  · by_cases hmdx : extension ∈ options.active .mdx <;> simp [hmd, hmdx]

/-- An extension has a format exactly if it is active for one. -/
theorem exists_formatOf?_iff :
    (∃ format, options.formatOf? extension = some format) ↔
      extension ∈ options.active .md ++ options.active .mdx := by
  rw [List.mem_append]
  constructor
  · rintro ⟨_ | _, hformat⟩
    · exact .inl (formatOf?_eq_md_iff.1 hformat)
    · exact .inr (formatOf?_eq_mdx_iff.1 hformat).1
  · intro hactive
    by_cases hmd : extension ∈ options.active .md
    · exact ⟨.md, formatOf?_eq_md_iff.2 hmd⟩
    · exact ⟨.mdx, formatOf?_eq_mdx_iff.2 ⟨hactive.resolve_left hmd, hmd⟩⟩

end Options

namespace Document

/-- The format of a document, or the kind of the failure to find one. -/
def verdict (document : Document) (options : Options) : Except ErrorKind DocumentFormat :=
  (document.detectFormat options).mapError Failure.kind

/-- Without a pinned format, the documents that are taken are those whose extension is
announced. -/
theorem detectFormat_ok_iff_mem_advertised {document : Document} {options : Options}
    (h : options.pinnedFormat? = none) :
    (∃ format, document.detectFormat options = .ok format) ↔
      ∃ extension ∈ options.advertised, document.extname? = some extension := by
  simp only [detectFormat_eq_ok_iff h, Option.bind_eq_some_iff, Options.advertised, h,
    ← Options.exists_formatOf?_iff]
  constructor
  · rintro ⟨format, extension, hext, hformat⟩
    exact ⟨extension, ⟨format, hformat⟩, hext⟩
  · rintro ⟨extension, ⟨format, hformat⟩, hext⟩
    exact ⟨format, extension, hext, hformat⟩

/-- The extension is all that counts. -/
theorem verdict_congr {document other : Document} (options : Options)
    (h : document.extname? = other.extname?) :
    document.verdict options = other.verdict options := by
  unfold verdict detectFormat
  rw [h]
  cases options.pinnedFormat? with
  | some format => rfl
  | none =>
    dsimp only
    cases other.extname?.bind options.formatOf? with
    | some format => rfl
    | none => cases document.path <;> cases other.path <;> rfl

end Document

/-! ## Agreement -/

/-- How a dispatcher classifies documents, and what it announces. -/
structure Dispatcher.Classifies {P : Type} (dispatcher : Dispatcher P) : Prop where
  /-- Without a pinned format, a document is taken exactly if its extension is announced. -/
  taken_iff : dispatcher.options.pinnedFormat? = none → ∀ document : Document,
    (∃ format, document.detectFormat dispatcher.options = .ok format) ↔
      ∃ extension ∈ dispatcher.extensions, document.extname? = some extension
  /-- It is plain Markdown exactly if its extension is active for that, be it for the other
  format as well. -/
  md_iff : dispatcher.options.pinnedFormat? = none → ∀ document : Document,
    document.detectFormat dispatcher.options = .ok .md ↔
      ∃ extension ∈ dispatcher.options.active .md, document.extname? = some extension
  /-- It has components exactly if its extension is active for the other format alone. -/
  mdx_iff : dispatcher.options.pinnedFormat? = none → ∀ document : Document,
    document.detectFormat dispatcher.options = .ok .mdx ↔
      ∃ extension ∈ dispatcher.options.active .mdx,
        extension ∉ dispatcher.options.active .md ∧ document.extname? = some extension
  /-- Otherwise the configuration is at fault. -/
  refused : dispatcher.options.pinnedFormat? = none → ∀ document : Document,
    (∀ extension ∈ dispatcher.extensions, document.extname? ≠ some extension) →
      ∃ fault, document.detectFormat dispatcher.options = .error (.configuration fault)
  /-- A pinned format is that of every document. -/
  pinned : ∀ format, dispatcher.options.pinnedFormat? = some format → ∀ document : Document,
    document.detectFormat dispatcher.options = .ok format
  /-- Documents with one extension are classified alike. -/
  by_extension : ∀ document other : Document, document.extname? = other.extname? →
    document.verdict dispatcher.options = other.verdict dispatcher.options
  /-- A document may be in any directory. -/
  of_move : ∀ (document : Document) (path : Path) root directory, document.path = some path →
    { document with path := some (path.movedTo root directory) }.verdict dispatcher.options =
      document.verdict dispatcher.options
  /-- Its name may have any stem; without a suffix, one that does not bring one. -/
  of_stem : ∀ (document : Document) (path : Path) stem, document.path = some path → stem ≠ [] →
    (path.suffix = [] → (Path.splitSuffix stem).2 = []) →
    { document with path := some (path.withStem stem) }.verdict dispatcher.options =
      document.verdict dispatcher.options
  /-- Its suffix may be in any letter case. -/
  of_case : ∀ (document : Document) (path : Path) suffix, document.path = some path →
    Text.lowerAscii suffix = Text.lowerAscii path.suffix →
    { document with path := some (path.withSuffix suffix) }.verdict dispatcher.options =
      document.verdict dispatcher.options

/-- What a dispatcher announces and how it classifies documents agree, and of a document
only the extension counts. -/
theorem Dispatcher.classifies {P : Type} (dispatcher : Dispatcher P) :
    dispatcher.Classifies where
  taken_iff h document := Document.detectFormat_ok_iff_mem_advertised h
  md_iff h document := by
    rw [Document.detectFormat_eq_ok_iff h, Option.bind_eq_some_iff]
    simp only [Options.formatOf?_eq_md_iff]
    exact exists_congr fun extension => and_comm
  mdx_iff h document := by
    rw [Document.detectFormat_eq_ok_iff h, Option.bind_eq_some_iff]
    simp only [Options.formatOf?_eq_mdx_iff]
    exact exists_congr fun extension => by rw [and_comm, and_assoc]
  refused h document hno := by
    rcases document.detectFormat_cases dispatcher.options with htaken | hrefused
    · obtain ⟨extension, hmem, hext⟩ := (Document.detectFormat_ok_iff_mem_advertised h).1 htaken
      exact absurd hext (hno extension hmem)
    · exact hrefused
  pinned format h document := Document.detectFormat_of_pinned document h
  by_extension document other h := Document.verdict_congr _ h
  of_move document path root directory h :=
    Document.verdict_congr _ (by simp [Document.extname?, h, Path.extname?_movedTo])
  of_stem document path stem h hs hbare :=
    Document.verdict_congr _ (by simp [Document.extname?, h, Path.extname?_withStem hs hbare])
  of_case document path suffix h hcase :=
    Document.verdict_congr _ (by simp [Document.extname?, h, Path.extname?_withSuffix hcase])

end DocPress
