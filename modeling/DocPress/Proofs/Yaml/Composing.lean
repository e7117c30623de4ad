import DocPress.Proofs.Yaml.Steps
import DocPress.Yaml.Graph

/-!
# Faults among the tokens

A token that stands for a fault refuses the text when building comes to it.  Building makes up
no faults of its own: it only moves over the tokens that were cut, so a fault that composing
meets is one of them.

Main results:

- `hearsNodes`: whatever node is built, only tokens that were cut are heard of.
- `mem_tokens_of_compose`: a fault met in composing is one of the tokens of the text.
-/

namespace DocPress.Yaml

/-! ## Cutting -/

namespace Lexer

theorem meetsNone_giveUp (lexer : Lexer) : lexer.giveUp.MeetsNone := by
  intro fault
  rw [giveUp]
  split
  · split <;> rintro ⟨⟩
  · rintro ⟨⟩

theorem meetsNone_giveUpStale (lexer : Lexer) : lexer.giveUpStale.MeetsNone := by
  intro fault
  rw [giveUpStale]
  split <;> rintro ⟨⟩

theorem meetsNone_leaveBlocks (lexer : Lexer) : lexer.leaveBlocks.MeetsNone :=
  (meetsNone_giveUp _).bind fun _ => meetsNone_pure _

/-- A fault does not end cutting but becomes the last token. -/
theorem meetsNone_run (fuel : Nat) (lexer : Lexer) : (run fuel lexer).MeetsNone := by
  induction fuel generalizing lexer with
  | zero => exact meetsNone_malformed
  | succ fuel ih =>
    rw [run]
    refine (meetsNone_giveUpStale _).bind fun kept => ?_
    dsimp only
    split
    · exact (meetsNone_leaveBlocks _).bind fun _ => meetsNone_pure _
    · split
      · exact ih _
      · exact meetsNone_malformed
      · exact meetsNone_pure _

end Lexer

/-- So no text is refused for a fault when it is cut into tokens. -/
theorem meetsNone_tokens (text : List Char) : (tokens text).MeetsNone := by
  rw [tokens]
  split
  · exact Lexer.meetsNone_run _ _
  · exact meetsNone_malformed

/-! ## Building -/

namespace Builder

/-- A step of building hears of nothing but some tokens: those ahead stay among them, and it
only passes on a fault that is one of them. -/
abbrev Hears {α : Type} (heard : List Token) (step : Building α) : Prop :=
  Keeps (fun builder => builder.tokens ⊆ heard) (fun fault => Token.fault fault ∈ heard) step

variable {heard : List Token}

/-! ### Moving over tokens -/

theorem hears_ahead : Hears heard ahead := by
  rw [ahead]
  refine keeps_get_bind fun builder hbuilder => ?_
  split
  case h_1 fault hhead =>
    refine keeps_throw fun met hmet => ?_
    cases hmet
    exact hbuilder (List.mem_of_mem_head? hhead)
  case h_2 => exact keeps_pure _

theorem hears_drop : Hears heard drop :=
  keeps_modify fun _ h _ htoken => h (List.mem_of_mem_tail htoken)

theorem hears_accept (token : Token) : Hears heard (accept token) := by
  rw [accept]
  refine hears_ahead.bind fun found => ?_
  split
  · exact hears_drop.bind fun _ => keeps_pure _
  · exact keeps_pure _

theorem hears_expect (token : Token) : Hears heard (expect token) := by
  rw [expect]
  refine (hears_accept token).bind fun accepted => ?_
  split
  · exact keeps_malformed
  · exact keeps_pure _

theorem hears_aheadIn (stops : List Token) : Hears heard (aheadIn stops) := by
  rw [aheadIn]
  refine hears_ahead.bind fun found => ?_
  split <;> exact keeps_pure _

/-! ### Adding nodes -/

theorem hears_add (node : Node) : Hears heard (add node) := by
  rw [add]
  refine keeps_get_bind fun builder hbuilder => ?_
  have hset : Hears heard (set { builder with graph := builder.graph ++ [node] }) :=
    keeps_set hbuilder
  exact hset.bind fun _ => keeps_pure _

theorem hears_addEmpty : Hears heard addEmpty :=
  hears_add _

theorem hears_nameNode (anchor : Option (List Char)) (id : Nat) :
    Hears heard (nameNode anchor id) := by
  cases anchor with
  | none => exact keeps_pure _
  | some name => exact keeps_modify fun _ h => h

theorem hears_complete (id : Nat) (node : Node) : Hears heard (complete id node) :=
  keeps_modify fun _ h => h

/-! ### Properties -/

theorem hears_anchorAhead : Hears heard anchorAhead := by
  rw [anchorAhead]
  refine hears_ahead.bind fun found => ?_
  split
  · exact hears_drop.bind fun _ => keeps_pure _
  · exact keeps_pure _

theorem hears_tagAhead : Hears heard tagAhead := by
  rw [tagAhead]
  refine hears_ahead.bind fun found => ?_
  split
  · exact hears_drop.bind fun _ => keeps_pure _
  · exact keeps_pure _

theorem hears_properties : Hears heard properties := by
  rw [properties]
  refine hears_anchorAhead.bind fun anchor => ?_
  split
  · exact hears_tagAhead.bind fun _ => keeps_pure _
  · refine hears_tagAhead.bind fun tag => ?_
    split
    · exact hears_anchorAhead.bind fun _ => keeps_pure _
    · exact keeps_pure _

theorem hears_fullName (tag : Option (List Char) × List Char) : Hears heard (fullName tag) := by
  rw [fullName]
  split
  · exact keeps_pure _
  · refine keeps_get_bind fun builder _ => ?_
    split
    · exact keeps_pure _
    · exact keeps_malformed

theorem hears_checkAnchor (anchor : Option (List Char)) : Hears heard (checkAnchor anchor) := by
  cases anchor with
  | none => exact keeps_pure _
  | some name =>
    refine keeps_get_bind fun builder _ => ?_
    split
    · exact keeps_malformed
    · exact keeps_pure _

/-! ### Nodes -/

/-- With some fuel, building a node of whatever kind hears of nothing but some tokens. -/
structure HearsNodes (heard : List Token) (fuel : Nat) : Prop where
  node : ∀ place, Hears heard (node fuel place)
  nodeUnless : ∀ place stops, Hears heard (nodeUnless fuel place stops)
  blockItems : Hears heard (blockItems fuel)
  indentlessItems : Hears heard (indentlessItems fuel)
  blockEntries : Hears heard (blockEntries fuel)
  flowItems : ∀ isFirst, Hears heard (flowItems fuel isFirst)
  flowEntries : ∀ isFirst, Hears heard (flowEntries fuel isFirst)

section Nodes

variable {fuel : Nat}

/-- A node, given the parts of collections. -/
theorem hears_node (h : HearsNodes heard fuel) (place : Place) :
    Hears heard (node (fuel + 1) place) := by
  rw [node]
  refine hears_ahead.bind fun token => ?_
  split
  · refine hears_drop.bind fun _ => keeps_get_bind fun builder _ => ?_
    split
    · exact keeps_pure _
    · exact keeps_malformed
  · refine hears_properties.bind fun front => ?_
    -- whether a tag has to be looked up or not, the same is done behind it
    extract_lets scalar rest
    have hscalar (tag : Tag) (text : List Char) : Hears heard (scalar tag text) := by
      refine (hears_checkAnchor front.anchor).bind fun _ => (hears_add _).bind fun id => ?_
      exact (hears_nameNode front.anchor id).bind fun _ => keeps_pure _
    have hrest (name : Option (List Char)) : Hears heard (rest name) := by
      dsimp -zeta only [rest]
      extract_lets collection sequence mapping
      have hcollection (usual : Tag) {build : Tag → Nat → Building Node}
          (hbuild : ∀ tag id, Hears heard (build tag id)) :
          Hears heard (collection usual build) := by
        refine (hears_checkAnchor front.anchor).bind fun _ => (hears_add _).bind fun id => ?_
        refine (hears_nameNode front.anchor id).bind fun _ => (hbuild _ id).bind fun content => ?_
        exact (hears_complete id content).bind fun _ => keeps_pure _
      have hsequence {items : Building (List Nat)} (hitems : Hears heard items) :
          Hears heard (sequence items) :=
        hcollection .seq fun tag _ => hitems.map _
      have hmapping {entries : Building (List (Nat × Nat))} (hentries : Hears heard entries) :
          Hears heard (mapping entries) :=
        hcollection .map fun tag _ => hentries.map _
      refine hears_ahead.bind fun opening => ?_
      split
      · exact hsequence h.indentlessItems
      · exact hears_drop.bind fun _ => hscalar _ _
      · exact hears_drop.bind fun _ => hsequence (h.flowItems true)
      · exact hears_drop.bind fun _ => hmapping (h.flowEntries true)
      · exact hears_drop.bind fun _ => hsequence h.blockItems
      · exact hears_drop.bind fun _ => hsequence h.blockItems
      · exact hears_drop.bind fun _ => hmapping h.blockEntries
      · exact hears_drop.bind fun _ => hmapping h.blockEntries
      · split
        · exact hscalar _ _
        · exact keeps_malformed
    split
    · exact ((hears_fullName _).map some).bind hrest
    · exact (keeps_pure _).bind hrest

theorem hears_nodeUnless (h : HearsNodes heard fuel) (place : Place) (stops : List Token) :
    Hears heard (nodeUnless (fuel + 1) place stops) := by
  rw [nodeUnless]
  refine (hears_aheadIn stops).bind fun stopped => ?_
  split
  · exact hears_addEmpty
  · exact h.node place

theorem hears_blockItems (h : HearsNodes heard fuel) : Hears heard (blockItems (fuel + 1)) := by
  rw [blockItems]
  refine (hears_accept _).bind fun accepted => ?_
  split
  · refine (h.nodeUnless _ _).bind fun item => ?_
    exact h.blockItems.bind fun items => keeps_pure _
  · exact (hears_expect _).bind fun _ => keeps_pure _

theorem hears_indentlessItems (h : HearsNodes heard fuel) :
    Hears heard (indentlessItems (fuel + 1)) := by
  rw [indentlessItems]
  refine (hears_accept _).bind fun accepted => ?_
  split
  · refine (h.nodeUnless _ _).bind fun item => ?_
    exact h.indentlessItems.bind fun items => keeps_pure _
  · exact keeps_pure _

theorem hears_blockEntries (h : HearsNodes heard fuel) :
    Hears heard (blockEntries (fuel + 1)) := by
  rw [blockEntries]
  refine (hears_accept _).bind fun accepted => ?_
  split
  · refine (h.nodeUnless _ _).bind fun key => (hears_accept _).bind fun hasValue => ?_
    refine keeps_either (h.nodeUnless _ _) hears_addEmpty fun value => ?_
    exact h.blockEntries.bind fun entries => keeps_pure _
  · exact (hears_expect _).bind fun _ => keeps_pure _

theorem hears_flowItems (h : HearsNodes heard fuel) (isFirst : Bool) :
    Hears heard (flowItems (fuel + 1) isFirst) := by
  rw [flowItems]
  refine (hears_accept _).bind fun ended => ?_
  split
  · exact keeps_pure _
  · refine keeps_unless (hears_expect _) fun _ => hears_ahead.bind fun token => ?_
    split
    · refine (hears_add _).bind fun id => hears_drop.bind fun _ => ?_
      refine (h.nodeUnless _ _).bind fun key => (hears_accept _).bind fun hasValue => ?_
      refine keeps_either (h.nodeUnless _ _) hears_addEmpty fun value => ?_
      refine (hears_complete id _).bind fun _ => ?_
      exact (h.flowItems false).bind fun items => keeps_pure _
    · refine (hears_accept _).bind fun ended => ?_
      split
      · exact keeps_pure _
      · refine (h.node .flow).bind fun item => ?_
        exact (h.flowItems false).bind fun items => keeps_pure _

theorem hears_flowEntries (h : HearsNodes heard fuel) (isFirst : Bool) :
    Hears heard (flowEntries (fuel + 1) isFirst) := by
  rw [flowEntries]
  refine (hears_accept _).bind fun ended => ?_
  split
  · exact keeps_pure _
  · refine keeps_unless (hears_expect _) fun _ => (hears_accept _).bind fun hasKey => ?_
    split
    · refine (h.nodeUnless _ _).bind fun key => (hears_accept _).bind fun hasValue => ?_
      refine keeps_either (h.nodeUnless _ _) hears_addEmpty fun value => ?_
      exact (h.flowEntries false).bind fun entries => keeps_pure _
    · refine (hears_accept _).bind fun ended => ?_
      split
      · exact keeps_pure _
      · refine (h.node .flow).bind fun key => hears_addEmpty.bind fun value => ?_
        exact (h.flowEntries false).bind fun entries => keeps_pure _

end Nodes

/-- Whatever node is built, only tokens that were cut are heard of. -/
theorem hearsNodes (heard : List Token) (fuel : Nat) : HearsNodes heard fuel := by
  induction fuel with
  | zero =>
    constructor
    case node => exact fun place => keeps_malformed
    case nodeUnless => exact fun place stops => keeps_malformed
    case blockItems => exact keeps_malformed
    case indentlessItems => exact keeps_malformed
    case blockEntries => exact keeps_malformed
    case flowItems => exact fun isFirst => keeps_malformed
    case flowEntries => exact fun isFirst => keeps_malformed
  | succ fuel ih =>
    constructor
    case node => exact hears_node ih
    case nodeUnless => exact hears_nodeUnless ih
    case blockItems => exact hears_blockItems ih
    case indentlessItems => exact hears_indentlessItems ih
    case blockEntries => exact hears_blockEntries ih
    case flowItems => exact hears_flowItems ih
    case flowEntries => exact hears_flowEntries ih

/-! ### Documents -/

theorem hears_directives (fuel : Nat) (versionSeen : Bool)
    (handles : List (List Char × List Char)) :
    Hears heard (directives fuel versionSeen handles) := by
  induction fuel generalizing versionSeen handles with
  | zero => exact keeps_malformed
  | succ fuel ih =>
    rw [directives]
    refine hears_ahead.bind fun token => ?_
    split
    · exact hears_drop.bind fun _ => keeps_unless keeps_malformed fun _ => ih _ _
    · exact hears_drop.bind fun _ => keeps_unless keeps_malformed fun _ => ih _ _
    · exact hears_drop.bind fun _ => ih _ _
    · exact keeps_pure _

theorem hears_skipEnds (fuel : Nat) : Hears heard (skipEnds fuel) := by
  induction fuel with
  | zero => exact keeps_pure _
  | succ fuel ih =>
    rw [skipEnds]
    refine (hears_accept _).bind fun accepted => ?_
    split
    · exact ih
    · exact keeps_pure _

theorem hears_document : Hears heard document := by
  rw [document]
  refine keeps_get_bind fun builder _ => ?_
  extract_lets fuel ending
  have hending (root : Option Nat) : Hears heard (ending root) :=
    (hears_skipEnds fuel).bind fun _ => hears_ahead.bind fun token =>
      keeps_unless keeps_malformed fun _ => keeps_pure _
  have hempty : Hears heard (some <$> addEmpty >>= ending) :=
    (hears_addEmpty.map some).bind hending
  have hnode : Hears heard (some <$> node fuel .block >>= ending) :=
    (((hearsNodes heard fuel).node .block).map some).bind hending
  refine hears_ahead.bind fun token => ?_
  split
  · exact (keeps_pure none).bind hending
  · extract_lets isOpening
    split
    · refine (hears_directives fuel false []).bind fun known => ?_
      have hmodify : Hears heard (modify fun builder =>
          { builder with handles := known ++ builder.handles }) :=
        keeps_modify fun _ h => h
      refine hmodify.bind fun _ => (hears_expect .documentStart).bind fun _ => ?_
      refine hears_ahead.bind fun opening => ?_
      split
      · exact hempty
      · split
        · exact hempty
        · exact hempty
        · exact hempty
        · exact hempty
        · exact hempty
        · exact hnode
    · exact hnode

end Builder

/-! ## Composing -/

/-- A fault met in composing is one of the tokens of the text. -/
theorem mem_tokens_of_compose {text : List Char} {fault : ScalarFault}
    (h : compose text = .error (.scalar fault)) :
    ∃ found, tokens text = .ok found ∧ Token.fault fault ∈ found := by
  rw [compose] at h
  cases htokens : tokens text with
  | error first =>
    rw [htokens] at h
    cases h
    exact absurd htokens (meetsNone_tokens text fault)
  | ok found =>
    refine ⟨found, rfl, ?_⟩
    rw [htokens] at h
    change (Builder.document.run { tokens := found } >>= fun built =>
      pure (built.1, built.2.graph)) = _ at h
    cases hbuilt : Builder.document.run { tokens := found } with
    | error first =>
      rw [hbuilt] at h
      cases h
      exact Builder.hears_document.known _ fault (List.Subset.refl found) hbuilt
    | ok built =>
      rw [hbuilt] at h
      cases h

end DocPress.Yaml
