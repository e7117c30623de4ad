import DocPress.Proofs.ErrorGraph.Walking
import DocPress.Proofs.Text.Headline

/-!
# What the errors of a walk say

Every error that a walk meets says one line, the headline of its text, unless its text is
white space.  The messages of a graph are these lines in the order of the walk, and the hint
is the last of them.

Main results:

- `firstLine?_eq`: an error says the headline of its text.
- `tells_iff`: the lines that the errors at some places say are read off one by one.
- `messages_law`: the messages of every graph, whatever its links and texts are.
-/

namespace DocPress.ErrorGraph

/-! ## One error -/

/-- An error says the headline of its text. -/
theorem firstLine?_eq (text : String) :
    firstLine? text = (Text.headline? text.toList).map String.ofList := by
  have hite := Text.headline?_eq_ite text.toList
  have hfirst := Text.headD_splitLines (Text.strip text.toList)
  by_cases hempty : Text.strip text.toList = []
  · rw [if_pos hempty] at hite
    simp [firstLine?, hempty, hite]
  · rw [if_neg hempty] at hite
    have hne := Text.ne_nil_of_headline? hite
    rcases hlines : Text.splitLines (Text.strip text.toList) with _ | ⟨line, lines⟩
    · exact absurd hlines (Text.splitLines_ne_nil hempty)
    · rw [hlines, List.headD_cons] at hfirst
      rw [← hfirst] at hite hne
      simp only [firstLine?, hlines, if_neg hne, hite, Option.map_some]

/-- An error says nothing exactly if its text is white space. -/
theorem firstLine?_eq_none_iff {text : String} :
    firstLine? text = none ↔ ∀ c ∈ text.toList, Text.isBlank c = true := by
  rw [firstLine?_eq, Option.map_eq_none_iff, Text.headline?_eq_none_iff]

/-- An error says the headline of its text. -/
theorem firstLine?_eq_some_iff {text line : String} :
    firstLine? text = some line ↔ Text.headline? text.toList = some line.toList := by
  rw [firstLine?_eq, Option.map_eq_some_iff]
  constructor
  · rintro ⟨headline, hheadline, rfl⟩
    rw [hheadline, String.toList_ofList]
  · intro h
    exact ⟨line.toList, h, String.ofList_toList⟩

/-! ## Errors in a row -/

/-- The lines that the errors at some places say, one for each whose text is not white space,
in the same order. -/
inductive Tells (graph : ErrorGraph) : List Nat → List String → Prop where
  | nil : Tells graph [] []
  | silent {place : Nat} {node : ErrorNode} {places : List Nat} {lines : List String}
      (hnode : graph[place]? = some node) (hblank : ∀ c ∈ node.text.toList, Text.isBlank c = true)
      (hrest : Tells graph places lines) : Tells graph (place :: places) lines
  | speaks {place : Nat} {node : ErrorNode} {places : List Nat} {line : String}
      {lines : List String} (hnode : graph[place]? = some node)
      (hline : Text.headline? node.text.toList = some line.toList)
      (hrest : Tells graph places lines) : Tells graph (place :: places) (line :: lines)

/-- The lines that the errors at some places say. -/
def linesAt (graph : ErrorGraph) (places : List Nat) : List String :=
  places.filterMap fun place => graph[place]?.bind fun node => firstLine? node.text

variable {graph : ErrorGraph} {place : Nat} {places : List Nat} {lines : List String}
  {node : ErrorNode}

theorem messages_eq_linesAt (graph : ErrorGraph) : graph.messages = graph.linesAt graph.walk := rfl

theorem linesAt_cons (hnode : graph[place]? = some node) :
    graph.linesAt (place :: places) = (firstLine? node.text).toList ++ graph.linesAt places := by
  cases hline : firstLine? node.text <;> simp [linesAt, hnode, hline]

/-- The lines of errors are read off one by one. -/
theorem tells_iff (hplaces : ∀ place ∈ places, ∃ node, graph[place]? = some node) :
    Tells graph places lines ↔ graph.linesAt places = lines := by
  constructor
  · intro h
    induction h with
    | nil => rfl
    | silent hnode hblank hrest ih =>
      rw [linesAt_cons hnode, firstLine?_eq_none_iff.2 hblank,
        ih fun p hp => hplaces p (List.mem_cons_of_mem _ hp)]
      rfl
    | speaks hnode hline hrest ih =>
      rw [linesAt_cons hnode, firstLine?_eq_some_iff.2 hline,
        ih fun p hp => hplaces p (List.mem_cons_of_mem _ hp)]
      rfl
  · rintro rfl
    induction places with
    | nil => exact .nil
    | cons place places ih =>
      obtain ⟨⟨node, hnode⟩, hlater⟩ := List.forall_mem_cons.1 hplaces
      rw [linesAt_cons hnode]
      cases hline : firstLine? node.text with
      | none => exact .silent hnode (firstLine?_eq_none_iff.1 hline) (ih hlater)
      | some line => exact .speaks hnode (firstLine?_eq_some_iff.1 hline) (ih hlater)

/-- The messages are read off the walk one by one. -/
theorem tells_walk_iff : Tells graph graph.walk lines ↔ graph.messages = lines :=
  tells_iff fun _ hp => exists_node_of_mem_walk hp

/-- So are the lines of the errors behind the first. -/
theorem tells_tail_walk_iff :
    Tells graph graph.walk.tail lines ↔ graph.linesAt graph.walk.tail = lines :=
  tells_iff fun _ hp => exists_node_of_mem_walk (List.mem_of_mem_tail hp)

/-- A line is said by an error whose text it is the headline of. -/
theorem exists_headline_of_mem_linesAt {line : String} (h : line ∈ graph.linesAt places) :
    ∃ text, Text.headline? text = some line.toList := by
  obtain ⟨place, -, hplace⟩ := List.mem_filterMap.1 h
  obtain ⟨node, -, hline⟩ := Option.bind_eq_some_iff.1 hplace
  exact ⟨node.text.toList, firstLine?_eq_some_iff.1 hline⟩

/-- The lines that errors say have no boundaries in them. -/
theorem isBreak_of_mem_linesAt :
    ∀ line ∈ graph.linesAt places, ∀ c ∈ line.toList, Text.isBreak c = false := by
  intro line hline c hc
  obtain ⟨text, htext⟩ := exists_headline_of_mem_linesAt hline
  exact Text.isBreak_of_mem_headline? htext hc

/-- Errors say nothing exactly if all their texts are white space. -/
theorem linesAt_eq_nil_iff :
    graph.linesAt places = [] ↔ ∀ place ∈ places, ∀ node, graph[place]? = some node →
      ∀ c ∈ node.text.toList, Text.isBlank c = true := by
  simp only [linesAt, List.filterMap_eq_nil_iff, Option.bind_eq_none_iff, firstLine?_eq_none_iff]

/-! ## The law -/

/-- What is collected from a graph of errors. -/
structure MessagesLaw (graph : ErrorGraph) : Prop where
  /-- The errors that are met are those on the one way along the links that repeats none and
  stops only where a link is missing or leads to an error that was met. -/
  visits_iff : ∀ places, Visits graph places ↔ graph.walk = places
  /-- They are no more than there are errors. -/
  length_le : graph.walk.length ≤ graph.length
  /-- The messages are the headlines of their texts, in order, one for each text that is not
  white space. -/
  tells_iff : ∀ lines, Tells graph graph.walk lines ↔ graph.messages = lines
  /-- No message is empty. -/
  ne_empty : ∀ line ∈ graph.messages, line ≠ ""
  /-- None has a line boundary in it. -/
  single : ∀ line ∈ graph.messages, ∀ c ∈ line.toList, Text.isBreak c = false
  /-- The hint is the last message. -/
  hint_eq : graph.hint? = graph.messages.getLast?
  /-- There is none exactly if the texts of all errors that are met are white space. -/
  hint_eq_none_iff : graph.hint? = none ↔ ∀ place ∈ graph.walk, ∀ node,
    graph[place]? = some node → ∀ c ∈ node.text.toList, Text.isBlank c = true

/-- Collecting messages ends on every graph of errors, whatever its links are, and gives the
headlines of the errors that the links lead to. -/
theorem messages_law (graph : ErrorGraph) : MessagesLaw graph where
  visits_iff _ := ErrorGraph.visits_iff
  length_le := graph.length_walk_le
  tells_iff _ := tells_walk_iff
  ne_empty line hline := by
    rintro rfl
    obtain ⟨text, htext⟩ := exists_headline_of_mem_linesAt hline
    exact Text.ne_nil_of_headline? htext rfl
  single := isBreak_of_mem_linesAt
  hint_eq := rfl
  hint_eq_none_iff := by
    rw [hint?, List.getLast?_eq_none_iff, messages_eq_linesAt, linesAt_eq_nil_iff]

end DocPress.ErrorGraph
