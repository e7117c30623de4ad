import DocPress.Value.Mapping
import DocPress.Yaml.Graph
import DocPress.Yaml.Scalar

/-!
# Contents of nodes

What the nodes of a graph denote.  Scalars are valued where they are met;
collections are filled afterwards, in the order in which they were met, so that
they may contain themselves.
-/

namespace DocPress.Yaml

/-! ## Merging -/

/-- The entries of a mapping node. -/
def Graph.entriesOf? (graph : Graph) (id : Nat) : Option (List (Nat × Nat)) :=
  match graph[id]? with
  | some (.mapping _ entries) => some entries
  | _ => none

/-- The tag of a node by number. -/
def Graph.tagOf (graph : Graph) (id : Nat) : Tag :=
  (graph[id]?.map Node.tag).getD .null

/-- Give a mapping node new entries. -/
def Graph.setEntries (graph : Graph) (id : Nat) (entries : List (Nat × Nat)) : Graph :=
  match graph[id]? with
  | some node => graph.replace id (.mapping node.tag entries)
  | none => graph

/-- Let a key that stands for the value itself be an ordinary text. -/
def Graph.untagKey (graph : Graph) (id : Nat) : Graph :=
  match graph[id]? with
  | some (.scalar .value text) => graph.replace id (.scalar .str text)
  | some (.sequence .value items) => graph.replace id (.sequence .str items)
  | some (.mapping .value entries) => graph.replace id (.mapping .str entries)
  | _ => graph

/-- The mappings that the value of a merge key names: itself, or the items of a
sequence with the last one first. -/
def Graph.mergedIds (graph : Graph) (id : Nat) : Reading (List Nat) :=
  match graph[id]? with
  | some (.mapping _ _) => .ok [id]
  | some (.sequence _ items) =>
    if items.all fun item => (graph.entriesOf? item).isSome then .ok items.reverse
    else .error .malformed
  | _ => .error .malformed

mutual

/-- Replace the merge keys of a mapping by the entries that they name, put in
front; the depth of merging is bounded. -/
def mergeEntries : Nat → Nat → Graph → Reading Graph
  | 0, _, _ => .error .malformed
  | fuel + 1, id, graph => do
    match graph.entriesOf? id with
    | none => throw .malformed
    | some entries =>
      let isMerge (entry : Nat × Nat) : Bool := graph.tagOf entry.1 == .merge
      let kept := entries.filter fun entry => !isMerge entry
      let graph := kept.foldl (fun graph entry => graph.untagKey entry.1) graph
      let sources ← (entries.filter isMerge).mapM fun entry => graph.mergedIds entry.2
      if sources = [] then return graph
      let (merged, graph) ← mergeAll fuel sources.flatten (graph.setEntries id kept)
      return graph.setEntries id (merged ++ kept)

/-- The entries of some mappings after merging, one after the other. -/
def mergeAll : Nat → List Nat → Graph → Reading (List (Nat × Nat) × Graph)
  | _, [], graph => .ok ([], graph)
  | 0, _, _ => .error .malformed
  | fuel + 1, id :: ids, graph => do
    let graph ← mergeEntries fuel id graph
    let entries := (graph.entriesOf? id).getD []
    let (rest, graph) ← mergeAll fuel ids graph
    return (entries ++ rest, graph)

end

/-! ## Filling -/

/-- What a node denotes, contained nodes given by number. -/
inductive Content where
  | scalar (value : Value)
  | list (items : List Nat)
  | pairs (entries : List (Nat × Nat))
  | set (keys : List Value)
  | map (entries : List (Value × Nat))

/-- The state of filling: the graph, the contents known, the nodes met, and the
collections still to be filled. -/
structure Filler where
  graph : Graph
  contents : List (Nat × Content) := []
  waiting : List Nat := []
  met : List Nat := []

/-- A step of filling. -/
abbrev Filling (α : Type) := StateT Filler (Except ReadFault) α

namespace Filler

/-- Whether nodes of a tag are collections. -/
def isCollection : Tag → Bool
  | .omap | .pairs | .set | .seq | .map => true
  | _ => false

/-- The text of a scalar node, or of the value that a mapping holds in place of
itself, with a bound on the depth. -/
def scalarText (graph : Graph) : Nat → Nat → Option (List Char)
  | 0, _ => none
  | fuel + 1, id =>
    match graph[id]? with
    | some (.scalar _ text) => some text
    | some (.mapping _ entries) =>
      match entries.find? fun entry => graph.tagOf entry.1 == .value with
      | some entry => scalarText graph fuel entry.2
      | none => none
    | _ => none

/-- Whether a node is a scalar. -/
def isScalarNode (graph : Graph) (id : Nat) : Bool :=
  match graph[id]? with
  | some (.scalar _ _) => true
  | _ => false

/-- Record what a node denotes. -/
def record (id : Nat) (content : Content) : Filling Unit :=
  modify fun filler => { filler with contents := (id, content) :: filler.contents }

/-- Meet a node: a scalar is valued, a collection waits to be filled. -/
def meet (id : Nat) : Filling Unit := do
  let filler ← get
  if filler.met.contains id then return
  set { filler with met := id :: filler.met }
  let tag := filler.graph.tagOf id
  if isCollection tag then
    modify fun filler => { filler with waiting := filler.waiting ++ [id] }
  else
    match scalarText filler.graph (filler.graph.length + 1) id with
    | none => throw .malformed
    | some text =>
      if tag = .timestamp && !isScalarNode filler.graph id then throw (.scalar .momentOfCollection)
      record id (.scalar (← scalarValue tag text))

/-- The value of a node as a key; collections are no keys. -/
def keyOf (id : Nat) : Filling Value := do
  meet id
  match (← get).contents.find? fun entry => entry.1 == id with
  | some (_, .scalar value) => return value
  | _ => throw .malformed

/-- Write a node to a key. -/
def insertNode (entries : List (Value × Nat)) (key : Value) (id : Nat) : List (Value × Nat) :=
  match entries with
  | [] => [(key, id)]
  | (k, i) :: rest =>
    if k.sameKey key then (k, id) :: rest else (k, i) :: insertNode rest key id

/-- Meet the entries of a mapping in order. -/
def meetEntries (known : List (Value × Nat)) : List (Nat × Nat) → Filling (List (Value × Nat))
  | [] => return known
  | (key, value) :: entries => do
    let keyValue ← keyOf key
    meet value
    meetEntries (insertNode known keyValue value) entries

/-- Meet the single entries of the mappings in a sequence. -/
def meetPairs : List Nat → Filling (List (Nat × Nat))
  | [] => return []
  | item :: items => do
    match (← get).graph.entriesOf? item with
    | some [(key, value)] =>
      meet key
      meet value
      return (key, value) :: (← meetPairs items)
    | _ => throw .malformed

/-- The number of places for nodes in a node. -/
def places : Node → Nat
  | .scalar _ _ => 1
  | .sequence _ items => items.length + 1
  | .mapping _ entries => entries.length + 1

/-- A bound on the steps of merging: every mapping loses its merge keys before
those that they name are merged. -/
def mergeBound (graph : Graph) : Nat :=
  let all := graph.foldl (fun sum node => sum + places node) 2
  all * all

/-- Fill a collection. -/
def fill (id : Nat) : Filling Unit := do
  let graph := (← get).graph
  let mapping : Filling (List (Value × Nat)) := do
    let graph ← mergeEntries (mergeBound graph) id graph
    modify fun filler => { filler with graph }
    meetEntries [] ((graph.entriesOf? id).getD [])
  match graph.tagOf id, graph[id]? with
  | .seq, some (.sequence _ items) =>
    items.forM meet
    record id (.list items)
  | .omap, some (.sequence _ items) | .pairs, some (.sequence _ items) =>
    record id (.pairs (← meetPairs items))
  | .set, some (.mapping _ _) => record id (.set ((← mapping).map Prod.fst))
  | .map, some (.mapping _ _) => record id (.map (← mapping))
  | _, _ => throw .malformed

/-- Fill the waiting collections, first come first served. -/
def fillAll : Nat → Filling Unit
  | 0 => return ()
  | fuel + 1 => do
    let filler ← get
    match filler.waiting with
    | [] => return ()
    | id :: waiting =>
      set { filler with waiting }
      fill id
      fillAll fuel

end Filler

/-! ## Values -/

/-- The value of a node, given the nodes around it: a node inside itself is a
cycle.  No chain of distinct nodes is longer than the bound. -/
def valueAt (contents : List (Nat × Content)) : Nat → List Nat → Nat → Value
  | 0, _, _ => .cycle
  | fuel + 1, around, id =>
    if around.contains id then .cycle
    else
      let inner := valueAt contents fuel (id :: around)
      match contents.find? fun entry => entry.1 == id with
      | some (_, .scalar value) => value
      | some (_, .list items) => .list (items.map inner)
      | some (_, .pairs entries) =>
        .list (entries.map fun entry => .tuple [inner entry.1, inner entry.2])
      | some (_, .set keys) => .set keys
      | some (_, .map entries) => .map (entries.map fun entry => (entry.1, inner entry.2))
      | none => .none

/-- The value of a text's root; a text without content denotes nothing. -/
def load (text : List Char) : Reading Value := do
  let (root, graph) ← compose text
  match root with
  | none => return .none
  | some root =>
    let ((), filler) ← (do
      Filler.meet root
      Filler.fillAll (graph.length + 1) : Filling Unit).run { graph }
    return valueAt filler.contents (graph.length + 1) [] root

end DocPress.Yaml
