import DocPress.ErrorKind
import DocPress.Text.Blank
import DocPress.Text.Lines
import DocPress.Text.Quoted

/-!
# Chains of errors

An error may name another as its cause, and may have arisen while another was
handled, its context.  Following causes, and contexts where there is no cause,
leads from an error to its origin; links may form cycles.

Main results:

- `walk_nodup`: no error is met twice.
-/

namespace DocPress

/-- An error among others, which its links name by their place. -/
structure ErrorNode where
  kind : ErrorKind
  message : Option String
  cause : Option Nat
  context : Option Nat
deriving DecidableEq, Repr

/-- Errors linked to each other; the first is the one reported. -/
abbrev ErrorGraph := List ErrorNode

namespace ErrorNode

/-- The text of an error: its message, which errors of look-up give between quotes. -/
def text (node : ErrorNode) : String :=
  match node.message with
  | none => ""
  | some message => if node.kind = .key then Text.quotedString message else message

/-- The error to go on with: the cause, or else the context.  Every error counts as true here,
so one that is there is never passed over. -/
def next? (node : ErrorNode) : Option Nat :=
  node.cause.or node.context

end ErrorNode

namespace ErrorGraph

/-! ## Walking -/

/-- The places of the errors met from a place on, with some places already
visited and a bound on the number of steps. -/
def walkFrom (graph : ErrorGraph) : Nat → List Nat → Nat → List Nat
  | 0, _, _ => []
  | fuel + 1, visited, place =>
    if place ∈ visited then []
    else
      match graph[place]? with
      | none => []
      | some node =>
        match node.next? with
        | none => [place]
        | some next => place :: walkFrom graph fuel (place :: visited) next

/-- The places of the errors met from the first on; there are no more steps than
errors. -/
def walk (graph : ErrorGraph) : List Nat :=
  walkFrom graph (graph.length + 1) [] 0

/-- A walk leaves out what was visited before. -/
theorem not_mem_walkFrom_of_mem_visited {graph : ErrorGraph} {fuel place : Nat}
    {visited : List Nat} {p : Nat} (hp : p ∈ visited) :
    p ∉ walkFrom graph fuel visited place := by
  induction fuel generalizing visited place with
  | zero => simp [walkFrom]
  | succ fuel ih =>
    rw [walkFrom]
    split
    · simp
    · rename_i hv
      have hne : p ≠ place := fun h => hv (h ▸ hp)
      split
      · simp
      · split
        · simpa using hne
        · simpa using ⟨hne, ih (by simp [hp])⟩

/-- No error is met twice. -/
theorem walkFrom_nodup (graph : ErrorGraph) (fuel : Nat) (visited : List Nat) (place : Nat) :
    (walkFrom graph fuel visited place).Nodup := by
  induction fuel generalizing visited place with
  | zero => simp [walkFrom]
  | succ fuel ih =>
    rw [walkFrom]
    split
    · simp
    · split
      · simp
      · split
        · simp
        · exact List.nodup_cons.2 ⟨not_mem_walkFrom_of_mem_visited (by simp), ih _ _⟩

/-- No error is met twice. -/
theorem walk_nodup (graph : ErrorGraph) : graph.walk.Nodup :=
  walkFrom_nodup graph _ _ _

/-! ## Messages -/

/-- The first line of a text that is not blank, trimmed. -/
def firstLine? (text : String) : Option String :=
  match Text.splitLines (Text.strip text.toList) with
  | [] => none
  | line :: _ =>
    let trimmed := Text.strip line
    if trimmed = [] then none else some (String.ofList trimmed)

/-- The first lines of the errors met, in order. -/
def messages (graph : ErrorGraph) : List String :=
  graph.walk.filterMap fun place => graph[place]?.bind fun node => firstLine? node.text

/-- The message nearest to the origin. -/
def hint? (graph : ErrorGraph) : Option String :=
  graph.messages.getLast?

end ErrorGraph

end DocPress
