import DocPress.ErrorGraph
import Mathlib.Data.List.Nodup
import Mathlib.Data.List.Perm.Subperm

/-!
# Which errors a walk meets

Links lead from an error to the one that it is to go on with.  They may form cycles, also
from an error to itself, so a walk along them has to stop by itself.  It meets the errors
that the links reach one after another, and stops where a link is missing or leads to an
error that was met before.

Main results:

- `walkFrom_stops`: the bound on the steps of a walk is never what ends it.
- `visits_iff`: the walk is the one way of visiting errors along their links without
  repetition and without stopping early.
- `length_walk_le`: there are no more visits than errors.
-/

namespace DocPress.ErrorGraph

/-! ## Following links -/

/-- The place that is reached from a place by some number of links.  A link to a place
without an error is missing. -/
def reached? (graph : ErrorGraph) : Nat → Nat → Option Nat
  | 0, place => if place < graph.length then some place else none
  | links + 1, place => (graph[place]?.bind ErrorNode.next?).bind (reached? graph links)

/-- Places visited from the first error on. -/
structure Visits (graph : ErrorGraph) (places : List Nat) : Prop where
  /-- Each is reached by as many links as there are visits before it. -/
  follows : ∀ links place, places[links]? = some place → graph.reached? links 0 = some place
  /-- None is visited twice. -/
  nodup : places.Nodup
  /-- Visiting ends only where a link is missing or leads to a place that was visited. -/
  stops : ∀ place, graph.reached? places.length 0 = some place → place ∈ places

/-- There are no more different places than errors, if there is an error at each. -/
theorem length_le_of_nodup {graph : ErrorGraph} {places : List Nat} (hnodup : places.Nodup)
    (hplaces : ∀ place ∈ places, place < graph.length) : places.length ≤ graph.length := by
  have hsubset : places ⊆ List.range graph.length := fun place hp =>
    List.mem_range.2 (hplaces place hp)
  simpa using (hnodup.subperm hsubset).length_le

section Walking

variable {graph : ErrorGraph} {fuel place next : Nat} {visited : List Nat} {node : ErrorNode}

/-- An error that goes on is visited, and then those behind its link. -/
theorem walkFrom_of_next (hv : place ∉ visited) (hnode : graph[place]? = some node)
    (hnext : node.next? = some next) :
    walkFrom graph (fuel + 1) visited place = place :: walkFrom graph fuel (place :: visited) next := by
  simp only [walkFrom, if_neg hv, hnode, hnext]

/-- An error that leads nowhere is the last one. -/
theorem walkFrom_of_no_next (hv : place ∉ visited) (hnode : graph[place]? = some node)
    (hnext : node.next? = none) : walkFrom graph (fuel + 1) visited place = [place] := by
  simp only [walkFrom, if_neg hv, hnode, hnext]

/-- Nothing is visited from a place that was visited, or from one without an error. -/
theorem walkFrom_eq_nil (h : place ∈ visited ∨ graph[place]? = none) :
    walkFrom graph (fuel + 1) visited place = [] := by
  rw [walkFrom]
  split
  · rfl
  · rename_i hv
    simp only [h.resolve_left hv]

/-- Links lead from the link of an error on. -/
theorem reached?_succ (hnode : graph[place]? = some node) (links : Nat) :
    graph.reached? (links + 1) place = node.next?.bind (graph.reached? links) := by
  simp only [reached?, hnode, Option.bind_some]

/-- Without links an error is reached from itself. -/
theorem reached?_zero_eq_some_iff {other : Nat} :
    graph.reached? 0 place = some other ↔ place < graph.length ∧ place = other := by
  simp only [reached?, Option.ite_none_right_eq_some, Option.some.injEq]

/-- A walk visits places in the order of the links. -/
theorem walkFrom_follows {links other : Nat}
    (h : (walkFrom graph fuel visited place)[links]? = some other) :
    graph.reached? links place = some other := by
  induction fuel generalizing visited place links with
  | zero => simp [walkFrom] at h
  | succ fuel ih =>
    by_cases hv : place ∈ visited
    · simp [walkFrom_eq_nil (.inl hv)] at h
    cases hnode : graph[place]? with
    | none => simp [walkFrom_eq_nil (.inr hnode)] at h
    | some node =>
      have hplace : place < graph.length := (List.getElem?_eq_some_iff.1 hnode).1
      cases hnext : node.next? with
      | none =>
        rw [walkFrom_of_no_next hv hnode hnext, List.getElem?_singleton] at h
        obtain ⟨rfl, rfl⟩ : links = 0 ∧ place = other := by simpa using h
        exact reached?_zero_eq_some_iff.2 ⟨hplace, rfl⟩
      | some next =>
        rw [walkFrom_of_next hv hnode hnext] at h
        cases links with
        | zero =>
          obtain rfl : place = other := by simpa using h
          exact reached?_zero_eq_some_iff.2 ⟨hplace, rfl⟩
        | succ links =>
          rw [reached?_succ hnode, hnext]
          exact ih h

/-- With steps for all errors that were not visited, a walk ends only where a link is
missing or leads to a place that was visited. -/
theorem walkFrom_stops (hnodup : visited.Nodup) (hvisited : ∀ p ∈ visited, p < graph.length)
    (hfuel : graph.length < fuel + visited.length) {other : Nat}
    (h : graph.reached? (walkFrom graph fuel visited place).length place = some other) :
    other ∈ visited ∨ other ∈ walkFrom graph fuel visited place := by
  -- The errors that were not visited are the measure: every step visits one of them.
  induction fuel generalizing visited place with
  | zero =>
    have hle := length_le_of_nodup hnodup hvisited
    omega
  | succ fuel ih =>
    by_cases hv : place ∈ visited
    · rw [walkFrom_eq_nil (.inl hv)] at h
      obtain ⟨-, rfl⟩ := reached?_zero_eq_some_iff.1 h
      exact .inl hv
    cases hnode : graph[place]? with
    | none =>
      rw [walkFrom_eq_nil (.inr hnode)] at h
      have hplace := (reached?_zero_eq_some_iff.1 h).1
      exact absurd hplace (Nat.not_lt.2 (List.getElem?_eq_none_iff.1 hnode))
    | some node =>
      have hplace : place < graph.length := (List.getElem?_eq_some_iff.1 hnode).1
      cases hnext : node.next? with
      | none =>
        rw [walkFrom_of_no_next hv hnode hnext, List.length_singleton, reached?_succ hnode,
          hnext] at h
        cases h
      | some next =>
        rw [walkFrom_of_next hv hnode hnext] at h ⊢
        rw [List.length_cons, reached?_succ hnode, hnext, Option.bind_some] at h
        have hlater := ih (List.nodup_cons.2 ⟨hv, hnodup⟩)
          (List.forall_mem_cons.2 ⟨hplace, hvisited⟩)
          (by rw [List.length_cons]; omega) h
        rw [List.mem_cons] at hlater ⊢
        tauto

end Walking

/-! ## The walk -/

variable {graph : ErrorGraph} {places : List Nat}

/-- The walk visits errors along their links. -/
theorem visits_walk (graph : ErrorGraph) : Visits graph graph.walk where
  follows _ _ h := walkFrom_follows h
  nodup := graph.walk_nodup
  stops place h := by
    have hstops := walkFrom_stops List.nodup_nil (by simp) (by simp) h
    exact hstops.resolve_left (List.not_mem_nil)

/-- What is visited are errors. -/
theorem lt_of_reached? {links place other : Nat} (h : graph.reached? links place = some other) :
    other < graph.length := by
  induction links generalizing place with
  | zero =>
    obtain ⟨hplace, rfl⟩ := reached?_zero_eq_some_iff.1 h
    exact hplace
  | succ links ih =>
    obtain ⟨next, -, hnext⟩ := Option.bind_eq_some_iff.1 h
    exact ih hnext

theorem Visits.lt_of_mem (h : Visits graph places) {place : Nat} (hp : place ∈ places) :
    place < graph.length := by
  obtain ⟨links, hlinks⟩ := List.mem_iff_getElem?.1 hp
  exact lt_of_reached? (h.follows links place hlinks)

/-- Of two ways of visiting errors neither stops earlier. -/
theorem Visits.length_le {others : List Nat} (h : Visits graph places)
    (ho : Visits graph others) : others.length ≤ places.length := by
  by_contra hlonger
  rw [Nat.not_le] at hlonger
  -- Where one stops, the other goes on to a place that it has visited before.
  have hnext := ho.follows places.length _ (List.getElem?_eq_getElem hlonger)
  obtain ⟨links, hlinks⟩ := List.mem_iff_getElem?.1 (h.stops _ hnext)
  have hshorter := (List.getElem?_eq_some_iff.1 hlinks).1
  have hearlier := ho.follows links _ (List.getElem?_eq_getElem (Nat.lt_trans hshorter hlonger))
  rw [h.follows links _ hlinks] at hearlier
  have hsame := (List.Nodup.getElem_inj_iff ho.nodup).1 (Option.some.inj hearlier)
  omega

/-- Errors are visited along their links in one way. -/
theorem Visits.unique {others : List Nat} (h : Visits graph places) (ho : Visits graph others) :
    places = others := by
  apply List.ext_getElem (Nat.le_antisymm (ho.length_le h) (h.length_le ho))
  intro links hplaces hothers
  have hfirst := h.follows links _ (List.getElem?_eq_getElem hplaces)
  have hsecond := ho.follows links _ (List.getElem?_eq_getElem hothers)
  exact Option.some.inj (hfirst.symm.trans hsecond)

/-- The walk is the one way of visiting errors along their links. -/
theorem visits_iff : Visits graph places ↔ graph.walk = places := by
  constructor
  · exact graph.visits_walk.unique
  · rintro rfl
    exact graph.visits_walk

/-- There are no more visits than errors. -/
theorem length_walk_le (graph : ErrorGraph) : graph.walk.length ≤ graph.length :=
  length_le_of_nodup graph.walk_nodup fun _ hp => graph.visits_walk.lt_of_mem hp

/-- The walk starts with the first error, if there is one. -/
theorem walk_eq_cons {node : ErrorNode} (h : graph[0]? = some node) :
    graph.walk = 0 :: graph.walk.tail := by
  rw [walk]
  cases hnext : node.next? with
  | none => rw [walkFrom_of_no_next List.not_mem_nil h hnext, List.tail_cons]
  | some next => rw [walkFrom_of_next List.not_mem_nil h hnext, List.tail_cons]

/-- There is an error at every place of the walk. -/
theorem exists_node_of_mem_walk {place : Nat} (h : place ∈ graph.walk) :
    ∃ node, graph[place]? = some node :=
  ⟨_, List.getElem?_eq_getElem (graph.visits_walk.lt_of_mem h)⟩

end DocPress.ErrorGraph
