import DocPress.Cli.Message
import DocPress.Proofs.ErrorGraph.Messages

/-!
# The chain of causes on the console

With high verbosity a warning or an error ends in a section on the errors behind the one
that it is about.  The section is meant to list the line of every error that is met after
that one.  It is made of all messages but the first, and so the first of these lines goes
missing where the error itself says nothing.

Main results:

- `rendered_eq`: what stands on the console, and which part of it is the section.
- `eq_nil_of_section_eq`: a section that goes without its first line reads otherwise.
- `chain_law`: when the section lists what it is meant to list, and what it lists at all.
-/

namespace DocPress.Cli

/-! ## The section -/

/-- A section on causes: its heading and an indented line for each, or nothing at all. -/
def causeSection : List String → List String
  | [] => []
  | lines => "caused by:" :: lines.map ("  " ++ ·)

/-- The lines of a message about an error that stand in front of the section. -/
def reportHead (level message : String) (graph : ErrorGraph) : List String :=
  (level ++ ": " ++ message) :: ("type: " ++ kindName graph) :: causeLine message graph

/-- A message about an error with a section on some lines, on the console. -/
def reported (level message : String) (graph : ErrorGraph) (lines : List String) : String :=
  printed ("\n".intercalate (reportHead level message graph ++ causeSection lines))

/-- The section lists the line of every error that is met after the first, and nothing
else. -/
def ListsCauses (state : State) (level message : String) (graph : ErrorGraph) : Prop :=
  ∃ lines, graph.Tells graph.walk.tail lines ∧
    rendered state level message (some graph) = reported level message graph lines

theorem length_causeSection (lines : List String) :
    (causeSection lines).length = if lines = [] then 0 else lines.length + 1 := by
  cases lines <;> simp [causeSection]

variable {state : State} {level message : String} {graph : ErrorGraph}

/-- From high verbosity on, the section is about all messages but the first. -/
theorem chainLines_eq {verbosity : Nat} (hv : 2 ≤ verbosity) (graph : ErrorGraph) :
    chainLines verbosity graph = causeSection graph.messages.tail := by
  rw [chainLines]
  cases graph.messages.tail with
  | nil => rfl
  | cons line lines => simp only [if_pos hv, causeSection]

/-- A message that is no information ends with the section. -/
theorem rendered_eq (hlevel : level ≠ "info") (hv : 2 ≤ state.verbosity) :
    rendered state level message (some graph) =
      reported level message graph graph.messages.tail := by
  have hloud : 1 ≤ state.verbosity := Nat.le_of_succ_le hv
  simp only [rendered, reported, reportHead, details, if_neg hlevel, if_pos hloud,
    chainLines_eq hv, List.cons_append]

/-! ## Counting lines -/

/-- How many line feeds a text has. -/
def feeds (text : String) : Nat :=
  text.toList.count '\n'

/-- Expanding tabs keeps the line feeds. -/
theorem count_expandTabs (column : Nat) (text : List Char) :
    (expandTabs column text).count '\n' = text.count '\n' := by
  induction text generalizing column with
  | nil => rfl
  | cons c rest ih =>
    rw [expandTabs]
    by_cases htab : c = '\t'
    · simp [htab, ih, List.count_replicate]
    · by_cases hfeed : c = '\n'
      · simp [hfeed, ih]
      · simp [htab, hfeed, ih]

/-- The console prints every line feed, and one more at the end. -/
theorem feeds_printed (text : String) : feeds (printed text) = feeds text + 1 := by
  have hkept : (text.toList.filter fun c => !isSilent c).count '\n' = text.toList.count '\n' :=
    List.count_filter (by decide)
  rw [feeds, printed, String.toList_append, String.toList_ofList, List.count_append,
    count_expandTabs, hkept]
  rfl

/-- Lines without line feeds add one line feed each to a text of lines. -/
theorem feeds_intercalate_append {front back : List String} (hfront : front ≠ [])
    (hback : ∀ line ∈ back, '\n' ∉ line.toList) :
    feeds ("\n".intercalate (front ++ back)) = feeds ("\n".intercalate front) + back.length := by
  induction back generalizing front with
  | nil => simp
  | cons line back ih =>
    obtain ⟨hline, hlater⟩ := List.forall_mem_cons.1 hback
    have hone : feeds ("\n".intercalate (front ++ [line])) = feeds ("\n".intercalate front) + 1 := by
      rw [String.intercalate_append_of_ne_nil hfront (List.cons_ne_nil _ _)]
      simp [feeds, List.count_eq_zero_of_not_mem hline]
    rw [List.append_cons, ih (by simp) hlater, hone, List.length_cons]
    omega

/-- A section on lines without boundaries has no line feeds in its lines. -/
theorem feed_not_mem_causeSection {lines : List String}
    (h : ∀ line ∈ lines, ∀ c ∈ line.toList, Text.isBreak c = false) :
    ∀ line ∈ causeSection lines, '\n' ∉ line.toList := by
  cases lines with
  | nil => simp [causeSection]
  | cons first lines =>
    intro line hline hfeed
    rcases List.mem_cons.1 hline with rfl | hmem
    · exact absurd hfeed (by decide)
    · obtain ⟨said, hsaid, rfl⟩ := List.mem_map.1 hmem
      rw [String.toList_append, List.mem_append] at hfeed
      rcases hfeed with hindent | hfeed
      · exact absurd hindent (by decide)
      · exact absurd (h said hsaid _ hfeed) (by decide)

/-- Sections that read alike on the console are equally long. -/
theorem length_causeSection_eq {lines others : List String}
    (hlines : ∀ line ∈ lines, ∀ c ∈ line.toList, Text.isBreak c = false)
    (hothers : ∀ line ∈ others, ∀ c ∈ line.toList, Text.isBreak c = false)
    (h : reported level message graph lines = reported level message graph others) :
    (causeSection lines).length = (causeSection others).length := by
  have hfeeds := congrArg feeds h
  have hhead : reportHead level message graph ≠ [] := List.cons_ne_nil _ _
  rw [reported, reported, feeds_printed, feeds_printed,
    feeds_intercalate_append hhead (feed_not_mem_causeSection hlines),
    feeds_intercalate_append hhead (feed_not_mem_causeSection hothers)] at hfeeds
  omega

/-- A section that goes without its first line reads otherwise. -/
theorem eq_nil_of_section_eq {lines : List String}
    (hlines : ∀ line ∈ lines, ∀ c ∈ line.toList, Text.isBreak c = false)
    (h : reported level message graph lines.tail = reported level message graph lines) :
    lines = [] := by
  have hlength := length_causeSection_eq (fun line hl => hlines line (List.mem_of_mem_tail hl))
    hlines h
  rw [length_causeSection, length_causeSection] at hlength
  rcases lines with _ | ⟨first, _ | ⟨second, later⟩⟩
  · rfl
  · simp at hlength
  · simp at hlength

/-! ## The law -/

/-- The error that a message is about says nothing. -/
def SaysNothing (graph : ErrorGraph) : Prop :=
  ∃ node, graph[0]? = some node ∧ ∀ c ∈ node.text.toList, Text.isBlank c = true

/-- The messages behind that of an error that says something are those of the errors behind
it. -/
theorem tail_messages (h : ¬ SaysNothing graph) :
    graph.messages.tail = graph.linesAt graph.walk.tail := by
  rw [ErrorGraph.messages_eq_linesAt]
  cases hnode : graph[0]? with
  | none => rw [ErrorGraph.walk, ErrorGraph.walkFrom_eq_nil (.inr hnode)]; rfl
  | some node =>
    cases hline : ErrorGraph.firstLine? node.text with
    | none => exact absurd ⟨node, hnode, ErrorGraph.firstLine?_eq_none_iff.1 hline⟩ h
    | some line =>
      rw [ErrorGraph.walk_eq_cons hnode, ErrorGraph.linesAt_cons hnode, hline]
      rfl

/-- All messages are those of the errors behind an error that says nothing. -/
theorem messages_of_saysNothing (h : SaysNothing graph) :
    graph.messages = graph.linesAt graph.walk.tail := by
  obtain ⟨node, hnode, hblank⟩ := h
  rw [ErrorGraph.messages_eq_linesAt, ErrorGraph.walk_eq_cons hnode,
    ErrorGraph.linesAt_cons hnode, ErrorGraph.firstLine?_eq_none_iff.2 hblank]
  rfl

/-- The section lists what it is meant to list unless the error itself says nothing and one
behind it says something. -/
theorem listsCauses_iff (hlevel : level ≠ "info") (hv : 2 ≤ state.verbosity) :
    ListsCauses state level message graph ↔
      ¬ SaysNothing graph ∨ graph.Tells graph.walk.tail [] := by
  simp only [ListsCauses, ErrorGraph.tells_tail_walk_iff, exists_eq_left', rendered_eq hlevel hv]
  by_cases hsilent : SaysNothing graph
  · rw [messages_of_saysNothing hsilent, or_iff_right (not_not_intro hsilent)]
    constructor
    · exact eq_nil_of_section_eq ErrorGraph.isBreak_of_mem_linesAt
    · intro hnone
      rw [hnone, List.tail_nil]
  · simp only [tail_messages hsilent, hsilent, not_false_eq_true, true_or]

/-- What the section on causes lists. -/
structure ChainLaw (state : State) (level message : String) (graph : ErrorGraph) : Prop where
  /-- It lists the line of every error that is met after the first, unless the first says
  nothing and another one says something. -/
  listsCauses_iff : ListsCauses state level message graph ↔
    ¬ SaysNothing graph ∨ graph.Tells graph.walk.tail []
  /-- In any case it lists the lines of all errors that are met but for the first of these
  lines. -/
  lists_tail : ∃ lines, graph.Tells graph.walk lines ∧
    rendered state level message (some graph) = reported level message graph lines.tail

/-- From high verbosity on, the section of a warning or an error lists all lines but the
first one, and so the causes unless it is a cause that says the first one. -/
theorem chain_law (hlevel : level ≠ "info") (hv : 2 ≤ state.verbosity) (message : String)
    (graph : ErrorGraph) : ChainLaw state level message graph where
  listsCauses_iff := Cli.listsCauses_iff hlevel hv
  lists_tail := ⟨graph.messages, ErrorGraph.tells_walk_iff.2 rfl, rendered_eq hlevel hv⟩

/-- A state of high verbosity. -/
def talkative : State :=
  { verbosity := 2 }

/-- An error with a silent cause and a cause behind it, which leads back to the first. -/
def roundabout : ErrorGraph :=
  [⟨.processing, some "compile failed", some 1, none⟩, ⟨.value, some " \n ", none, some 2⟩,
    ⟨.key, some "title", some 0, none⟩]

theorem chain_law_roundabout :
    "error" ≠ "info" ∧ 2 ≤ talkative.verbosity ∧
      ChainLaw talkative "error" "Not compiled" roundabout := by
  have hlevel : "error" ≠ "info" := by decide
  have hv : 2 ≤ talkative.verbosity := by decide
  exact ⟨hlevel, hv, chain_law hlevel hv "Not compiled" roundabout⟩

/-- An interruption by another error: it says nothing, and its cause does. -/
def interrupted : ErrorGraph :=
  [⟨.interrupt, none, some 1, none⟩, ⟨.value, some "first", none, none⟩]

/-- The cause of an interruption is not listed. -/
theorem not_listsCauses_interrupted :
    ¬ ListsCauses talkative "error" "Operation cancelled by user." interrupted := by
  have hsilent : SaysNothing interrupted := by
    refine ⟨⟨.interrupt, none, some 1, none⟩, rfl, ?_⟩
    rw [ErrorNode.text]
    simp
  rw [listsCauses_iff (by decide) (by decide), or_iff_right (not_not_intro hsilent),
    ErrorGraph.tells_tail_walk_iff]
  decide

end DocPress.Cli
