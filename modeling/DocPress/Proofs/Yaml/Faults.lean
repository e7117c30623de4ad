import DocPress.Proofs.Yaml.Composing
import DocPress.Yaml.Content

/-!
# Where scalars denote no value

Loading a text composes its nodes and then gives them their values, merging and filling
mappings on the way.  However the nodes are rearranged, a scalar that denotes no value is
one that was composed.

Main results:

- `merges_mergeEntries`: merging rearranges entries, and does not meet scalars.
- `guards_fillAll`: filling all collections blames no node but those that were composed.
- `blames_of_load`: if a text is refused because a scalar denotes no value, then one of its
  tokens or one of its nodes is to blame.
- `IsBlameless.load_ne`: a text without such scalars is loaded or malformed.
-/

namespace DocPress.Yaml

/-! ## Nodes to blame -/

/-- A node is to blame for a fault: it is a scalar that denotes no value under its tag, or
a mapping that is tagged as what only a scalar can be. -/
inductive Node.Blames : Node → ScalarFault → Prop where
  | scalar {tag : Tag} {text : List Char} {fault : ScalarFault}
      (value_eq : scalarValue tag text = .error (.scalar fault)) :
      Blames (.scalar tag text) fault
  | mapping {tag : Tag} {entries : List (Nat × Nat)} {text : List Char} {fault : ScalarFault}
      (value_eq : scalarValue tag text = .error (.scalar fault)) :
      Blames (.mapping tag entries) fault
  | moment {entries : List (Nat × Nat)} : Blames (.mapping .timestamp entries) .momentOfCollection

/-- Some node of a graph is to blame. -/
def Graph.Blames (graph : Graph) (fault : ScalarFault) : Prop :=
  ∃ node ∈ graph, node.Blames fault

/-! ## Rearranged nodes -/

/-- A tag stands for another if it is the same, or if a key that stood for the value itself
has become an ordinary text. -/
def Tag.Yields (tag later : Tag) : Prop :=
  tag = later ∨ later = .str

theorem Tag.Yields.trans {tag later last : Tag} (h : tag.Yields later) (h' : later.Yields last) :
    tag.Yields last := by
  rcases h' with rfl | hstr
  · exact h
  · exact .inr hstr

/-- A node has become another: the form is the same, and so are the text of a scalar and the
items of a sequence; the entries of a mapping are others. -/
inductive Node.Becomes : Node → Node → Prop where
  | scalar {tag later : Tag} {text : List Char} (h : tag.Yields later) :
      Becomes (.scalar tag text) (.scalar later text)
  | sequence {tag later : Tag} {items : List Nat} (h : tag.Yields later) :
      Becomes (.sequence tag items) (.sequence later items)
  | mapping {tag later : Tag} {entries others : List (Nat × Nat)} (h : tag.Yields later) :
      Becomes (.mapping tag entries) (.mapping later others)

theorem Node.Becomes.refl (node : Node) : node.Becomes node := by
  cases node with
  | scalar tag text => exact .scalar (.inl rfl)
  | sequence tag items => exact .sequence (.inl rfl)
  | mapping tag entries => exact .mapping (.inl rfl)

theorem Node.Becomes.trans {node later last : Node} (h : node.Becomes later)
    (h' : later.Becomes last) : node.Becomes last := by
  cases h with
  | scalar h =>
    cases h' with
    | scalar h' => exact .scalar (h.trans h')
  | sequence h =>
    cases h' with
    | sequence h' => exact .sequence (h.trans h')
  | mapping h =>
    cases h' with
    | mapping h' => exact .mapping (h.trans h')

namespace Graph

/-- Every node of a graph was a node of another at the same place. -/
def Becomes (graph later : Graph) : Prop :=
  ∀ (id : Nat) (node : Node), later[id]? = some node →
    ∃ source : Node, graph[id]? = some source ∧ source.Becomes node

/-- There is nothing but a mapping at a place. -/
def HoldsMapping (graph : Graph) (id : Nat) : Prop :=
  ∀ node, graph[id]? = some node → ∃ tag entries, node = .mapping tag entries

variable {graph later last : Graph} {id : Nat}

theorem Becomes.refl (graph : Graph) : graph.Becomes graph :=
  fun _ node h => ⟨node, h, .refl node⟩

theorem Becomes.trans (h : graph.Becomes later) (h' : later.Becomes last) :
    graph.Becomes last := by
  intro id node hnode
  obtain ⟨middle, hmiddle, hbecomes⟩ := h' id node hnode
  obtain ⟨source, hsource, hbecame⟩ := h id middle hmiddle
  exact ⟨source, hsource, hbecame.trans hbecomes⟩

/-- A mapping stays a mapping. -/
theorem Becomes.holdsMapping (h : graph.Becomes later) (hm : graph.HoldsMapping id) :
    later.HoldsMapping id := by
  intro node hnode
  obtain ⟨source, hsource, hbecomes⟩ := h id node hnode
  obtain ⟨tag, entries, rfl⟩ := hm source hsource
  cases hbecomes
  exact ⟨_, _, rfl⟩

/-- A node may be replaced by one that it becomes. -/
theorem becomes_replace {node other : Node} (hnode : graph[id]? = some node)
    (h : node.Becomes other) : graph.Becomes (graph.replace id other) := by
  intro place found hfound
  rw [replace, List.getElem?_set] at hfound
  by_cases hplace : id = place
  · subst hplace
    have hlength : id < graph.length := (List.getElem?_eq_some_iff.1 hnode).1
    simp only [if_true, hlength] at hfound
    obtain rfl := Option.some.inj hfound
    exact ⟨node, hnode, h⟩
  · rw [if_neg hplace] at hfound
    exact ⟨found, hfound, .refl found⟩

/-- A key that stands for the value itself may become a text. -/
theorem becomes_untagKey (graph : Graph) (id : Nat) : graph.Becomes (graph.untagKey id) := by
  rw [untagKey]
  split
  case h_1 _ text hnode => exact becomes_replace hnode (.scalar (.inr rfl))
  case h_2 _ items hnode => exact becomes_replace hnode (.sequence (.inr rfl))
  case h_3 _ entries hnode => exact becomes_replace hnode (.mapping (.inr rfl))
  case h_4 => exact .refl graph

/-- So may all keys. -/
theorem becomes_foldl_untagKey (graph : Graph) (entries : List (Nat × Nat)) :
    graph.Becomes (entries.foldl (fun graph entry => graph.untagKey entry.1) graph) := by
  induction entries generalizing graph with
  | nil => exact .refl graph
  | cons entry entries ih => exact (becomes_untagKey graph entry.1).trans (ih _)

/-- A mapping may be given other entries. -/
theorem becomes_setEntries (hm : graph.HoldsMapping id) (entries : List (Nat × Nat)) :
    graph.Becomes (graph.setEntries id entries) := by
  rw [setEntries]
  cases hnode : graph[id]? with
  | none => exact .refl graph
  | some node =>
    obtain ⟨tag, others, rfl⟩ := hm node hnode
    exact becomes_replace hnode (.mapping (.inl rfl))

/-- What has entries is a mapping. -/
theorem holdsMapping_of_entriesOf? {entries : List (Nat × Nat)}
    (h : graph.entriesOf? id = some entries) : graph.HoldsMapping id := by
  intro node hnode
  rw [entriesOf?, hnode] at h
  cases node with
  | mapping tag others => exact ⟨tag, others, rfl⟩
  | scalar => cases h
  | sequence => cases h

end Graph

/-! ## Merging -/

/-- A reading only rearranges a graph. -/
structure Merges {α : Type} (graph : Graph) (graphOf : α → Graph) (reading : Reading α) :
    Prop where
  meetsNone : reading.MeetsNone
  becomes : ∀ result, reading = .ok result → graph.Becomes (graphOf result)

section Merging

variable {α β : Type} {graph : Graph} {graphOf : α → Graph} {laterOf : β → Graph}

theorem merges_pure {result : α} (h : graph.Becomes (graphOf result)) :
    Merges graph graphOf (pure result) where
  meetsNone := by rintro fault ⟨⟩
  becomes := by
    rintro _ ⟨⟩
    exact h

theorem merges_malformed : Merges graph graphOf (.error .malformed) where
  meetsNone := by rintro fault ⟨⟩
  becomes := by rintro result ⟨⟩

/-- Rearranging may begin with a rearranged graph. -/
theorem Merges.after {later : Graph} {reading : Reading α} (hl : graph.Becomes later)
    (h : Merges later graphOf reading) : Merges graph graphOf reading where
  meetsNone := h.meetsNone
  becomes result hresult := hl.trans (h.becomes result hresult)

/-- Rearranging goes on from what was rearranged. -/
theorem Merges.bind {reading : Reading α} {next : α → Reading β} (h : Merges graph graphOf reading)
    (hnext : ∀ result, graph.Becomes (graphOf result) →
      Merges (graphOf result) laterOf (next result)) :
    Merges graph laterOf (reading >>= next) := by
  cases hr : reading with
  | error fault =>
    cases fault with
    | malformed => exact merges_malformed
    | scalar fault => exact absurd hr (h.meetsNone fault)
  | ok result =>
    have hbecomes := h.becomes result hr
    exact (hnext result hbecomes).after hbecomes

/-- What is found out on the way does not matter. -/
theorem merges_bind_of_meetsNone {reading : Reading α} {next : α → Reading β}
    (h : reading.MeetsNone) (hnext : ∀ result, Merges graph laterOf (next result)) :
    Merges graph laterOf (reading >>= next) := by
  cases hr : reading with
  | error fault =>
    cases fault with
    | malformed => exact merges_malformed
    | scalar fault => exact absurd hr (h fault)
  | ok result => exact hnext result

end Merging

/-- The mappings that a merge key names are found without meeting scalars. -/
theorem meetsNone_mergedIds (graph : Graph) (id : Nat) : (graph.mergedIds id).MeetsNone := by
  intro fault
  rw [Graph.mergedIds]
  split
  · rintro ⟨⟩
  · split <;> rintro ⟨⟩
  · rintro ⟨⟩

/-- Merging one mapping, or some, only rearranges a graph. -/
theorem merges_of_fuel (fuel : Nat) :
    (∀ id graph, Merges graph (fun later => later) (mergeEntries fuel id graph)) ∧
      ∀ ids graph, Merges graph Prod.snd (mergeAll fuel ids graph) := by
  induction fuel with
  | zero =>
    refine ⟨fun id graph => merges_malformed, fun ids graph => ?_⟩
    cases ids with
    | nil => exact merges_pure (.refl graph)
    | cons id ids => exact merges_malformed
  | succ fuel ih =>
    obtain ⟨hone, hall⟩ := ih
    constructor
    · intro id graph
      rw [mergeEntries]
      cases hentries : graph.entriesOf? id with
      | none => exact merges_malformed
      | some entries =>
        dsimp only
        generalize hkept : entries.filter (fun entry => !(graph.tagOf entry.1 == .merge)) = kept
        have huntag := Graph.becomes_foldl_untagKey graph kept
        generalize kept.foldl (fun graph entry => graph.untagKey entry.1) graph = untagged at huntag ⊢
        have hmapping := huntag.holdsMapping (Graph.holdsMapping_of_entriesOf? hentries)
        have hset := Graph.becomes_setEntries hmapping kept
        have hsources (entry : Nat × Nat) : (untagged.mergedIds entry.2).MeetsNone :=
          meetsNone_mergedIds untagged entry.2
        refine merges_bind_of_meetsNone (meetsNone_mapM hsources _) fun sources => ?_
        split
        · exact merges_pure huntag
        · refine Merges.after (huntag.trans hset) ?_
          refine (hall sources.flatten _).bind fun result hresult => merges_pure ?_
          exact Graph.becomes_setEntries (hresult.holdsMapping (hset.holdsMapping hmapping)) _
    · intro ids graph
      cases ids with
      | nil => exact merges_pure (.refl graph)
      | cons id ids =>
        rw [mergeAll]
        refine (hone id graph).bind fun merged _ => ?_
        refine (hall ids merged).bind fun result _ => ?_
        exact merges_pure (.refl result.2)

theorem merges_mergeEntries (fuel id : Nat) (graph : Graph) :
    Merges graph (fun later => later) (mergeEntries fuel id graph) :=
  (merges_of_fuel fuel).1 id graph

/-! ## Scalars met while filling -/

namespace Filler

/-- A step of filling keeps to the nodes that were composed: it only rearranges them, and if
it meets a scalar that denotes no value, then a composed node is to blame. -/
abbrev Guards {α : Type} (origin : Graph) (step : Filling α) : Prop :=
  Keeps (fun filler => origin.Becomes filler.graph) origin.Blames step

theorem guards_record {origin : Graph} (id : Nat) (content : Content) :
    Guards origin (record id content) :=
  keeps_modify fun _ h => h

/-! ## Meeting a node -/

section Meeting

variable {origin graph : Graph} {fuel id : Nat} {text : List Char}

/-- A node that has a text is a scalar, or a mapping that holds one. -/
theorem node_of_scalarText (h : scalarText graph fuel id = some text) :
    (∃ tag, graph[id]? = some (.scalar tag text)) ∨
      ∃ tag entries, graph[id]? = some (.mapping tag entries) := by
  cases fuel with
  | zero => cases h
  | succ fuel =>
    rw [scalarText] at h
    cases hnode : graph[id]? with
    | none =>
      rw [hnode] at h
      cases h
    | some node =>
      cases node with
      | scalar tag found =>
        rw [hnode] at h
        cases h
        exact .inl ⟨tag, rfl⟩
      | sequence tag items =>
        rw [hnode] at h
        cases h
      | mapping tag entries => exact .inr ⟨tag, entries, rfl⟩

/-- The tag of a node. -/
theorem tagOf_eq {node : Node} (h : graph[id]? = some node) : graph.tagOf id = node.tag := by
  rw [Graph.tagOf, h]
  rfl

/-- An ordinary text denotes itself, so a fault shows the tag that was composed. -/
theorem eq_of_yields {tag later : Tag} {fault : ScalarFault} (h : tag.Yields later)
    (hvalue : scalarValue later text = .error (.scalar fault)) : tag = later := by
  rcases h with rfl | rfl
  · rfl
  · cases hvalue

/-- If the text of a node denotes no value under its tag, a composed node is to blame. -/
theorem blames_of_scalarValue (hgraph : origin.Becomes graph)
    (htext : scalarText graph fuel id = some text) {fault : ScalarFault}
    (hvalue : scalarValue (graph.tagOf id) text = .error (.scalar fault)) :
    origin.Blames fault := by
  rcases node_of_scalarText htext with ⟨tag, hnode⟩ | ⟨tag, entries, hnode⟩
  · obtain ⟨source, hsource, hbecomes⟩ := hgraph id _ hnode
    rw [tagOf_eq hnode] at hvalue
    cases hbecomes with
    | scalar h =>
      obtain rfl := eq_of_yields h hvalue
      exact ⟨_, List.mem_of_getElem? hsource, .scalar hvalue⟩
  · obtain ⟨source, hsource, hbecomes⟩ := hgraph id _ hnode
    rw [tagOf_eq hnode] at hvalue
    cases hbecomes with
    | mapping h =>
      obtain rfl := eq_of_yields h hvalue
      exact ⟨_, List.mem_of_getElem? hsource, .mapping hvalue⟩

/-- If a collection is tagged as a moment, it is to blame. -/
theorem blames_of_moment (hgraph : origin.Becomes graph)
    (htext : scalarText graph fuel id = some text) (htag : graph.tagOf id = .timestamp)
    (hnot : isScalarNode graph id = false) : origin.Blames .momentOfCollection := by
  rcases node_of_scalarText htext with ⟨tag, hnode⟩ | ⟨tag, entries, hnode⟩
  · rw [isScalarNode, hnode] at hnot
    cases hnot
  · obtain ⟨source, hsource, hbecomes⟩ := hgraph id _ hnode
    rw [tagOf_eq hnode] at htag
    cases hbecomes with
    | mapping h =>
      rcases h with rfl | hstr
      · obtain rfl : _ = Tag.timestamp := htag
        exact ⟨_, List.mem_of_getElem? hsource, .moment⟩
      · cases hstr.symm.trans htag

theorem guards_meet (id : Nat) : Guards origin (meet id) := by
  rw [meet]
  refine keeps_get_bind fun filler hfiller => ?_
  split
  · exact keeps_pure _
  · refine Keeps.bind (keeps_set ?_) fun _ => ?_
    · exact hfiller
    dsimp only
    split
    · exact keeps_modify fun _ h => h
    · cases htext : scalarText filler.graph (filler.graph.length + 1) id with
      | none => exact keeps_malformed
      | some text =>
        dsimp only
        have hvalue : Guards origin (do record id (.scalar (← scalarValue (filler.graph.tagOf id) text))) :=
          keeps_lift_bind (fun fault => blames_of_scalarValue hfiller htext)
            fun value _ => guards_record id (.scalar value)
        split
        case isTrue hmoment =>
          rw [Bool.and_eq_true, decide_eq_true_eq, Bool.not_eq_true'] at hmoment
          refine (keeps_throw fun met hmet => ?_).bind fun _ => hvalue
          cases hmet
          exact blames_of_moment hfiller htext hmoment.1 hmoment.2
        case isFalse => exact hvalue

theorem guards_keyOf (id : Nat) : Guards origin (keyOf id) := by
  rw [keyOf]
  refine (guards_meet id).bind fun _ => keeps_get_bind fun filler _ => ?_
  split
  · exact keeps_pure _
  · exact keeps_malformed

end Meeting

/-! ## Filling collections -/

section Filling

variable {origin : Graph}

theorem guards_meetEntries (known : List (Value × Nat)) (entries : List (Nat × Nat)) :
    Guards origin (meetEntries known entries) := by
  induction entries generalizing known with
  | nil => exact keeps_pure _
  | cons entry entries ih =>
    rw [meetEntries]
    refine (guards_keyOf entry.1).bind fun key => ?_
    refine (guards_meet entry.2).bind fun _ => ?_
    exact ih (insertNode known key entry.2)

theorem guards_meetPairs (items : List Nat) : Guards origin (meetPairs items) := by
  induction items with
  | nil => exact keeps_pure _
  | cons item items ih =>
    rw [meetPairs]
    refine keeps_get_bind fun filler _ => ?_
    split
    case h_1 key value _ =>
      refine (guards_meet key).bind fun _ => ?_
      refine (guards_meet value).bind fun _ => ?_
      exact ih.bind fun rest => keeps_pure _
    case h_2 => exact keeps_malformed

/-- Filling a collection keeps to the composed nodes. -/
theorem guards_fill (id : Nat) : Guards origin (fill id) := by
  rw [fill]
  refine keeps_get_bind fun filler hfiller => ?_
  have hmerges := merges_mergeEntries (mergeBound filler.graph) id filler.graph
  have hmapping : Guards origin (do
      let graph ← mergeEntries (mergeBound filler.graph) id filler.graph
      modify fun filler => { filler with graph }
      meetEntries [] ((graph.entriesOf? id).getD [])) := by
    refine keeps_lift_bind (fun fault hfault => absurd hfault (hmerges.meetsNone fault)) ?_
    intro graph hgraph
    have hbecomes := hfiller.trans (hmerges.becomes graph hgraph)
    have hmodify : Guards origin (modify fun filler => { filler with graph }) :=
      keeps_modify fun _ _ => hbecomes
    exact hmodify.bind fun _ => guards_meetEntries [] _
  dsimp only
  split
  · refine (keeps_forM guards_meet _).bind fun _ => guards_record id _
  · exact (guards_meetPairs _).bind fun pairs => guards_record id _
  · exact (guards_meetPairs _).bind fun pairs => guards_record id _
  · exact hmapping.bind fun entries => guards_record id _
  · exact hmapping.bind fun entries => guards_record id _
  · exact keeps_malformed

/-- Filling all collections keeps to the composed nodes. -/
theorem guards_fillAll (fuel : Nat) : Guards origin (fillAll fuel) := by
  induction fuel with
  | zero => exact keeps_pure _
  | succ fuel ih =>
    rw [fillAll]
    refine keeps_get_bind fun filler hfiller => ?_
    split
    · exact keeps_pure _
    · refine Keeps.bind (keeps_set ?_) fun _ => ?_
      · exact hfiller
      · exact (guards_fill _).bind fun _ => ih

end Filling

end Filler

/-! ## Loading -/

/-- If a text is refused because a scalar denotes no value, then one of its tokens stands for
that fault, or one of the nodes that were composed is to blame. -/
theorem blames_of_load {text : List Char} {fault : ScalarFault}
    (h : load text = .error (.scalar fault)) :
    (∃ found, tokens text = .ok found ∧ Token.fault fault ∈ found) ∨
      ∃ root graph, compose text = .ok (some root, graph) ∧ graph.Blames fault := by
  rw [load] at h
  cases hcompose : compose text with
  | error first =>
    rw [hcompose] at h
    cases h
    exact .inl (mem_tokens_of_compose hcompose)
  | ok composed =>
    obtain ⟨root, graph⟩ := composed
    rw [hcompose] at h
    cases root with
    | none => cases h
    | some root =>
      refine .inr ⟨root, graph, rfl, ?_⟩
      let steps : Filling Unit := do
        Filler.meet root
        Filler.fillAll (graph.length + 1)
      have hsteps : Filler.Guards graph steps :=
        (Filler.guards_meet root).bind fun _ => Filler.guards_fillAll _
      change (steps.run { graph } >>= fun filled =>
        pure (valueAt filled.2.contents (graph.length + 1) [] root)) = _ at h
      cases hrun : steps.run { graph } with
      | error first =>
        rw [hrun] at h
        cases h
        exact hsteps.known _ fault (.refl graph) hrun
      | ok filled =>
        rw [hrun] at h
        cases h

/-- A text in which no scalar is without a value: none of its tokens stands for a fault, and
none of its nodes is to blame. -/
structure IsBlameless (text : List Char) : Prop where
  cuts : ∀ found fault, tokens text = .ok found → Token.fault fault ∉ found
  denotes : ∀ root graph fault, compose text = .ok (root, graph) → ¬ graph.Blames fault

/-- Loading such a text gives a value, or finds the text malformed. -/
theorem IsBlameless.load_ne {text : List Char} (h : IsBlameless text) (fault : ScalarFault) :
    load text ≠ .error (.scalar fault) := by
  intro hload
  rcases blames_of_load hload with ⟨found, htokens, hmem⟩ | ⟨root, graph, hcompose, hblames⟩
  · exact h.cuts found fault htokens hmem
  · exact h.denotes (some root) graph fault hcompose hblames

end DocPress.Yaml
