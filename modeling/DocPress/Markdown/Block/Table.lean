import DocPress.Markdown.Block.Rule

/-!
# Tables

A table is a row of cells between bars, a row of hyphens with colons for the
alignment of each column, and any number of further rows.  Bars inside of code
and escaped bars part no cells.

Main results:

- `length_cells`: a row has one more cell than bars that count.
-/

namespace DocPress.Markdown.Block.Table

/-! ## Cells of a row -/

/-- A run of accents, with the backslash in front of it if there is one: where it
starts, its last accent, its length, and whether it is escaped. -/
structure Accents where
  start : Nat
  stop : Nat
  size : Nat
  escaped : Bool

/-- What matters in a row: accents, and bars that are not escaped. -/
def marks : Pattern :=
  .group 1 (.exactly "\\\\") <|> .group 2 (.is '\\' ++ .plus (.is '\x60')) <|>
    .group 3 (.plus (.is '\x60')) <|> .group 4 (.exactly "\\|") <|> .group 5 (.is '|')

/-- The bars of a row and its runs of accents, by position. -/
def barsAndAccents (row : Prose) : List Nat × List Accents :=
  let found := marks.allMatches row
  let start := fun (m : Match) => m.start.before.length
  (found.filterMap fun m => if m.hasGroup 5 then some (start m) else none,
    found.filterMap fun m =>
      let length := m.text.length
      if m.hasGroup 2 then some ⟨start m, start m + length - 1, length - 1, true⟩
      else if m.hasGroup 3 then some ⟨start m, start m + length - 1, length, false⟩
      else none)

/-- The stretches of code between runs of accents of one length; the backslash of
an opening run shortens it. -/
def codeStretches : (fuel : Nat) → List Accents → List (Nat × Nat)
  | 0, _ => []
  | _, [] => []
  | fuel + 1, opening :: rest =>
    let size := if opening.escaped then opening.size - 1 else opening.size
    match rest.dropWhile fun a => a.size != size with
    | [] => codeStretches fuel rest
    | closing :: after =>
      if size = 0 then codeStretches fuel rest
      else (opening.start, closing.stop) :: codeStretches fuel after

/-- Whether a position lies in a stretch. -/
def isInside (stretches : List (Nat × Nat)) (position : Nat) : Bool :=
  stretches.any fun s => s.1 ≤ position && position ≤ s.2

/-- A row cut at positions, each of which is dropped. -/
def cutAt (row : Prose) (from_ : Nat) : List Nat → List Prose
  | [] => [row.drop from_]
  | position :: rest =>
    (row.drop from_).take (position - from_) :: cutAt row (position + 1) rest

/-- A row has one more cell than bars that count. -/
theorem length_cells (row : Prose) (from_ : Nat) (bars : List Nat) :
    (cutAt row from_ bars).length = bars.length + 1 := by
  induction bars generalizing from_ with
  | nil => simp [cutAt]
  | cons bar rest ih => simp [cutAt, ih]

/-- The cells of a row without its borders. -/
def innerCells (row : Prose) : List Prose :=
  let (bars, accents) := barsAndAccents row
  let code := codeStretches (accents.length + 1) accents
  cutAt row 0 (bars.filter fun bar => !isInside code bar)

/-- A bar at the end of a row, not escaped. -/
def endBorder : Pattern :=
  .notAfter '\\' ++ .star (.exactly "\\\\") ++ .is '|' ++ .textEnd

/-- A row without spaces at its ends. -/
def trimmed (row : Prose) : Prose :=
  Prose.trim (Piece.is ' ') row

/-- Whether a row starts or ends with a border. -/
def hasBorder (row : Prose) : Bool :=
  Prose.startsWith row ['|'] || endBorder.occurs row

/-- The cells of a row; borders are dropped where the first row of the table has
one. -/
def cells (bordered : Bool) (row : Prose) : List Prose :=
  if !bordered then innerCells row
  else
    let row := if Prose.startsWith row ['|'] then row.drop 1 else row
    match endBorder.search row with
    | some m => innerCells (m.preceding ++ m.rest)
    | none => innerCells row

/-! ## Columns -/

/-- The alignment of a column, from its cell in the second row. -/
def alignment (cell : Prose) : Option String :=
  let cell := trimmed cell
  match Prose.startsWith cell [':'], Prose.endsWith cell [':'] with
  | true, true => some "center"
  | true, false => some "left"
  | false, true => some "right"
  | false, false => none

/-- Whether a cell of the second row holds only what it may. -/
def isRuler (cell : Prose) : Bool :=
  cell.all (Piece.isIn "|:- ".toList.contains)

/-- The alignments of the columns, if some rows are those of a table.  A table of
one column needs a border on every row. -/
def columns? (rows : List Prose) : Option (List (Option String)) :=
  match rows with
  | first :: second :: others =>
    let bordered := hasBorder first
    let width := (cells bordered first).length
    let wide := decide (width > 1) ||
      (decide (width = 1) && bordered && (second :: others).all hasBorder)
    let rulers := cells bordered second
    if wide && rulers.length == width && rulers.all isRuler then some (rulers.map alignment)
    else none
  | _ => none

/-! ## Tables -/

/-- A cell of a row. -/
def cell (tag : String) (align : Option String) (text : Prose) : Element :=
  let e := ElementOf.of tag text
  match align with
  | none => e
  | some side => e.set "style" ("text-align: " ++ side ++ ";")

/-- A row with as many cells as there are columns. -/
def row (tag : String) (columns : List (Option String)) (texts : List Prose) : Element :=
  let padded := texts ++ List.replicate (columns.length - texts.length) []
  (List.zip columns padded).foldl
    (fun tr (align, text) => tr.addChild (cell tag align (trimmed text)))
    (.bare "tr")

/-- A table without rows gets an empty one, whose cells are not aligned. -/
def body (bordered : Bool) (columns : List (Option String)) : List Prose → List Element
  | [] => [row "td" (columns.map fun _ => none) []]
  | rows => rows.map fun text => row "td" columns (cells bordered (trimmed text))

/-- A table. -/
def rule : Rule := fun _ site =>
  let lines := Prose.lines site.block
  (columns? (lines.map trimmed)).map fun columns =>
    let header := trimmed (lines.headD [])
    let bordered := hasBorder header
    let head := (ElementOf.bare "thead").addChild (row "th" columns (cells bordered header))
    let tbody := (body bordered columns (lines.drop 2)).foldl ElementOf.addChild (.bare "tbody")
    let table := ((ElementOf.bare "table").addChild head).addChild tbody
    pure (site.parent.addChild table, site.rest)

end DocPress.Markdown.Block.Table
