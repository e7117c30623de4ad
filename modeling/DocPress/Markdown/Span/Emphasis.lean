import DocPress.Markdown.Span.Rule

/-!
# Emphasis

Marks around a text give it weight: one asterisk or low line emphasises, two make
strong, three do both.  Tildes strike out or lower a text in the same way.  A
family of marks is a list of forms; the first form that matches at a mark is
taken, and inside of it only the forms behind it are looked for.
-/

namespace DocPress.Markdown.Span

/-! ## Forms -/

/-- How the groups of a form become elements: the second group inside one
element; inside two, with the third behind the inner one; or with the third
inside the inner one. -/
inductive Shape where
  | single (tag : String)
  | inner (outer tag : String) (rest : Bool)
  | outer (tag inner : String)

/-- A form: its pattern, whose second group is the text, and its shape. -/
structure Form where
  pattern : Pattern
  shape : Shape

mutual

/-- The element of a form. -/
def build : (fuel : Nat) → (mark : Char) → (later : List Form) → Shape → Match → Element
  | 0, _, _, _, m => .of "span" m.text
  | fuel + 1, mark, later, shape, m =>
    let inside := fun (index : Nat) =>
      content fuel mark later (.start (m.group index))
    match shape with
    | .single tag => .of tag (inside 2)
    | .inner outer tag rest =>
      .of outer (.element (.of tag (inside 2)) :: if rest then inside 3 else [])
    | .outer tag inner => .of tag (inside 2 ++ [.element (.of inner (inside 3))])

/-- A text with the forms in it as elements. -/
def content : (fuel : Nat) → (mark : Char) → List Form → Place → Prose
  | 0, _, _, place => place.after
  | fuel + 1, mark, forms, place =>
    match place.after with
    | [] => []
    | piece :: rest =>
      let next : Place := ⟨piece :: place.before, rest⟩
      if !piece.is mark then piece :: content fuel mark forms next
      else
        match atMark fuel mark forms place with
        | ([], _) => piece :: content fuel mark forms next
        | (made, stop) => made ++ content fuel mark forms stop

/-- The elements of the forms that match one behind the other from a mark on, and
the place behind them. -/
def atMark : (fuel : Nat) → (mark : Char) → List Form → Place → Prose × Place
  | 0, _, _, place => ([], place)
  | _, _, [], place => ([], place)
  | fuel + 1, mark, form :: later, place =>
    match form.pattern.matchAt place with
    | none => atMark fuel mark later place
    | some m =>
      let e := build fuel mark later form.shape m
      let (others, stop) := atMark fuel mark later m.stop
      (.element e :: others, stop)

end

/-- The first form that matches at a place. -/
def firstForm (fuel : Nat) (mark : Char) : List Form → Place → Option (Element × Place)
  | [], _ => none
  | form :: later, place =>
    match form.pattern.matchAt place with
    | some m => some (build fuel mark later form.shape m, m.stop)
    | none => firstForm fuel mark later place

/-- The rule for a family of forms. -/
def family (mark : Char) (forms : List Form) : Rule where
  pattern := .is mark
  act _ m := pure <|
    match firstForm (2 * m.start.after.length + 32) mark forms m.start with
    | some (e, stop) => .put [.element e] m.start stop
    | none => .pass

/-! ## Asterisks -/

/-- The mark of a family, remembered so that it can be asked for again. -/
def marked (mark : Char) : Pattern := .group 1 (.is mark)

/-- The remembered mark some times in a row. -/
def same : Nat → Pattern
  | 0 => .nothing
  | n + 1 => .again 1 ++ same n

/-- Some text. -/
def someText (index : Nat) : Pattern := .group index (.lazyPlus .any)

/-- Perhaps some text. -/
def anyText (index : Nat) : Pattern := .group index (.lazyStar .any)

/-- Three marks, then one, then two. -/
def strongOutside (mark : Char) : Pattern :=
  marked mark ++ same 2 ++ someText 2 ++ same 1 ++ anyText 3 ++ same 2

/-- Three marks, then two, then one. -/
def strongInside (mark : Char) : Pattern :=
  marked mark ++ same 2 ++ someText 2 ++ same 2 ++ anyText 3 ++ same 1

/-- The forms of asterisks. -/
def asteriskForms : List Form :=
  let text := Pattern.plus (.one fun piece => !piece.is '*')
  [⟨strongOutside '*', .inner "strong" "em" true⟩,
    ⟨strongInside '*', .inner "em" "strong" true⟩,
    ⟨marked '*' ++ same 1 ++ .absent (same 1) ++
      .group 2 (.lazyPlus (.one fun piece => !piece.is '*')) ++ same 1 ++ .absent (same 1) ++
      someText 3 ++ same 3, .outer "strong" "em"⟩,
    ⟨.group 1 (.exactly "**") ++ someText 2 ++ .again 1, .single "strong"⟩,
    ⟨marked '*' ++ .group 2 text ++ .again 1, .single "em"⟩]

/-! ## Low lines -/

/-- The forms of low lines, which weigh whole words only. -/
def lowLineForms : List Form :=
  [⟨strongOutside '_', .inner "strong" "em" true⟩,
    ⟨strongInside '_', .inner "em" "strong" true⟩,
    ⟨.notAfterWord ++ marked '_' ++ same 1 ++ .absent (same 1) ++ someText 2 ++ .notAfterWord ++
      same 1 ++ .absent (same 1) ++ someText 3 ++ same 3 ++ .notBeforeWord, .outer "strong" "em"⟩,
    ⟨.notAfterWord ++ .group 1 (.exactly "__") ++ .absent (.is '_') ++ someText 2 ++
      .notAfter '_' ++ .again 1 ++ .notBeforeWord, .single "strong"⟩,
    ⟨.notAfterWord ++ marked '_' ++ .absent (.is '_') ++ someText 2 ++ .notAfter '_' ++ .again 1 ++
      .notBeforeWord, .single "em"⟩]

/-! ## Tildes -/

/-- A tilde, or text without white space. -/
def lowered (index : Nat) : Pattern :=
  .group index (.is '~' <|> .lazyPlus .ink)

/-- Any text with the tildes at its end. -/
def struck (index : Nat) : Pattern :=
  .group index (.lazyPlus .any ++ .lazyStar (.is '~'))

/-- Not before white space. -/
def notBeforeBlank : Pattern := .absent .blank

/-- Between words: next to a low line, or to neither a word character nor a tilde. -/
def notAfterWordOrTilde : Pattern :=
  .behind (fun piece => piece.is '_' || !(piece.isWord || piece.is '~')) true

/-- Between words: next to a low line, or to neither a word character nor a tilde. -/
def notBeforeWordOrTilde : Pattern :=
  .ahead (.is '_') true <|> .absent (.one fun piece => piece.isWord || piece.is '~')

/-- The forms of tildes. -/
def tildeForms : List Form :=
  let three := Pattern.notAfter '~' ++ .group 1 (.exactly "~~~") ++ .absent (.one fun piece =>
    piece.isBlank || piece.is '~')
  [⟨.group 1 (.exactly "~~~") ++ notBeforeBlank ++ lowered 2 ++ .notAfterBlank ++ .again 1,
      .inner "del" "sub" false⟩,
    ⟨three ++ lowered 2 ++ .notAfterBlank ++ .exactly "~~" ++ notBeforeWordOrTilde ++ lowered 3 ++
      .notAfterBlank ++ .is '~', .inner "sub" "del" true⟩,
    ⟨three ++ lowered 2 ++ .notAfterBlank ++ .is '~' ++ notBeforeWordOrTilde ++ struck 3 ++
      .notAfterBlank ++ .exactly "~~", .inner "del" "sub" true⟩,
    ⟨notAfterWordOrTilde ++ .group 1 (.exactly "~~") ++ .absent (.one fun piece =>
        piece.isBlank || piece.is '~') ++ struck 2 ++ .notAfterBlank ++ .again 1 ++
        notBeforeWordOrTilde, .single "del"⟩,
    ⟨.group 1 (.is '~') ++ notBeforeBlank ++ lowered 2 ++ .notAfterBlank ++ .again 1,
      .single "sub"⟩]

end DocPress.Markdown.Span
