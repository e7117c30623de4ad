import DocPress.Text.Lines

/-!
# Sources made uniform

Before anything is read out of a source its control marks are dropped, its line
ends become line feeds, its tabs become spaces and its blank lines become empty.
Two line feeds are put behind it, so that every block in it is followed by an
empty line.

Main results:

- `expandTabs_of_no_tab`: a text without tabs keeps its length and characters.
-/

namespace DocPress.Markdown.Source

/-- The width of a tab, and the indentation of everything nested. -/
def tabWidth : Nat := 4

/-- The marks that sources may not hold: start and end of text. -/
def isMark (c : Char) : Bool :=
  c.toNat == 2 || c.toNat == 3

/-- Spaces in place of tabs, up to the next multiple of the tab width. -/
def expandTabs (column : Nat) : List Char → List Char
  | [] => []
  | c :: rest =>
    if c = '\t' then
      let width := tabWidth - column % tabWidth
      List.replicate width ' ' ++ expandTabs (column + width) rest
    else if c = '\n' || c = '\r' then c :: expandTabs 0 rest
    else c :: expandTabs (column + 1) rest

/-- A text without tabs keeps its length and characters. -/
theorem expandTabs_of_no_tab {text : List Char} (h : '\t' ∉ text) (column : Nat) :
    expandTabs column text = text := by
  induction text generalizing column with
  | nil => rfl
  | cons c rest ih =>
    have hc : c ≠ '\t' := fun e => h (e ▸ List.mem_cons_self ..)
    have hr : '\t' ∉ rest := fun e => h (List.mem_cons_of_mem _ e)
    simp only [expandTabs, hc, if_false]
    split <;> simp [ih hr]

/-- Empty a line of spaces. -/
def emptied (line : List Char) : List Char :=
  if line.all (· == ' ') then [] else line

/-- The lines of a source, made uniform.  The first line keeps its spaces. -/
def lines (source : List Char) : List (List Char) :=
  let marked := source.filter fun c => !isMark c
  match Text.splitFeeds (expandTabs 0 (Text.unifyEndings marked ++ ['\n', '\n'])) with
  | [] => []
  | first :: rest => first :: rest.map emptied

end DocPress.Markdown.Source
