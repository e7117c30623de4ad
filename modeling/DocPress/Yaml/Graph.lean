import DocPress.Yaml.Tag
import DocPress.Yaml.Token.Lexer

/-!
# Graphs of nodes

The nodes of a text, which refer to each other by number: an alias refers to the
node that its anchor names, so nodes may be shared and may contain themselves.

Main results:

- `length_replace`: a node put in the place of another leaves the number of nodes.
-/

namespace DocPress.Yaml

/-! ## Nodes -/

/-- A node: a scalar, or a collection of nodes given by number. -/
inductive Node where
  | scalar (tag : Tag) (text : List Char)
  | sequence (tag : Tag) (items : List Nat)
  | mapping (tag : Tag) (entries : List (Nat × Nat))
deriving DecidableEq, Repr

/-- The tag of a node. -/
def Node.tag : Node → Tag
  | .scalar tag _ => tag
  | .sequence tag _ => tag
  | .mapping tag _ => tag

/-- Nodes by number. -/
abbrev Graph := List Node

namespace Graph

/-- Put a node in the place of another. -/
def replace (graph : Graph) (id : Nat) (node : Node) : Graph :=
  graph.set id node

@[simp] theorem length_replace (graph : Graph) (id : Nat) (node : Node) :
    (graph.replace id node).length = graph.length := by
  simp [replace]

end Graph

/-! ## Building -/

/-- What building knows: the tokens ahead, the nodes so far, the nodes that
anchors name, and what tag handles stand for. -/
structure Builder where
  tokens : List Token
  graph : Graph := []
  anchors : List (List Char × Nat) := []
  handles : List (List Char × List Char) := [(['!'], ['!']), (['!', '!'], Tag.vocabulary)]

/-- A step of building. -/
abbrev Building (α : Type) := StateT Builder (Except ReadFault) α

namespace Builder

/-- The token ahead; a fault among the tokens is met here. -/
def ahead : Building (Option Token) := do
  match (← get).tokens.head? with
  | some (.fault fault) => throw (.scalar fault)
  | token => return token

/-- Move over a token. -/
def drop : Building Unit :=
  modify fun builder => { builder with tokens := builder.tokens.tail }

/-- Refuse the text. -/
def refuse {α : Type} : Building α :=
  throw .malformed

/-- Move over a token if it is a given one. -/
def accept (token : Token) : Building Bool := do
  if (← ahead) == some token then
    drop
    return true
  else return false

/-- Move over a given token, or refuse the text. -/
def expect (token : Token) : Building Unit := do
  if !(← accept token) then refuse

/-- Add a node and give its number. -/
def add (node : Node) : Building Nat := do
  let builder ← get
  set { builder with graph := builder.graph ++ [node] }
  return builder.graph.length

/-- Let an anchor name a node. -/
def nameNode (anchor : Option (List Char)) (id : Nat) : Building Unit :=
  match anchor with
  | none => return ()
  | some name => modify fun builder => { builder with anchors := (name, id) :: builder.anchors }

/-- Complete a node that was added before its content was known. -/
def complete (id : Nat) (node : Node) : Building Unit :=
  modify fun builder => { builder with graph := builder.graph.replace id node }

/-- The node of an empty place. -/
def addEmpty : Building Nat :=
  add (.scalar .null [])

/-! ## Properties -/

/-- The tag and the anchor in front of a node. -/
structure Properties where
  anchor : Option (List Char) := none
  tag : Option (Option (List Char) × List Char) := none

/-- Read an anchor if one is ahead. -/
def anchorAhead : Building (Option (List Char)) := do
  match ← ahead with
  | some (.anchor name) =>
    drop
    return some name
  | _ => return none

/-- Read a tag if one is ahead. -/
def tagAhead : Building (Option (Option (List Char) × List Char)) := do
  match ← ahead with
  | some (.tag handle suffix) =>
    drop
    return some (handle, suffix)
  | _ => return none

/-- Read an anchor and a tag, in either order. -/
def properties : Building Properties := do
  match ← anchorAhead with
  | some anchor => return ⟨some anchor, ← tagAhead⟩
  | none =>
    match ← tagAhead with
    | some tag => return ⟨← anchorAhead, some tag⟩
    | none => return {}

/-- The full name of a tag; its handle must be known. -/
def fullName (tag : Option (List Char) × List Char) : Building (List Char) := do
  match tag.1 with
  | none => return tag.2
  | some handle =>
    match (← get).handles.find? fun entry => entry.1 == handle with
    | some entry => return entry.2 ++ tag.2
    | none => refuse

/-- Check that an anchor is new. -/
def checkAnchor (anchor : Option (List Char)) : Building Unit := do
  match anchor with
  | none => return ()
  | some name => if (← get).anchors.any fun entry => entry.1 == name then refuse

/-- The tag of a scalar: the one in front of it, or by its form if it is plain
or marked as untagged. -/
def scalarTag (name : Option (List Char)) (plain : Bool) (text : List Char) : Tag :=
  match name with
  | some ['!'] => Tag.ofMarked text
  | some name => Tag.ofName name
  | none => if plain then Tag.ofPlain text else .str

/-- The tag of a collection: the one in front of it, or the usual one. -/
def collectionTag (name : Option (List Char)) (usual : Tag) : Tag :=
  match name with
  | none => usual
  | some ['!'] => usual
  | some name => Tag.ofName name

/-! ## Nodes -/

/-- Where a node stands: inside brackets, in a block, or in a block where the
items of a sequence need no further indentation. -/
inductive Place where
  | flow
  | block
  | indentless
deriving DecidableEq

/-- Whether the token ahead is one of some. -/
def aheadIn (tokens : List Token) : Building Bool := do
  match ← ahead with
  | some token => return tokens.contains token
  | none => return false

mutual

/-- The node ahead. -/
def node : Nat → Place → Building Nat
  | 0, _ => refuse
  | fuel + 1, place => do
    match ← ahead with
    | some (.alias name) =>
      drop
      match (← get).anchors.find? fun entry => entry.1 == name with
      | some entry => return entry.2
      | none => refuse
    | _ =>
      let front ← properties
      let name ← match front.tag with
        | some tag => some <$> fullName tag
        | none => pure none
      let collection (usual : Tag) (build : Tag → Nat → Building Node) : Building Nat := do
        checkAnchor front.anchor
        let tag := collectionTag name usual
        let id ← add (.scalar tag [])
        nameNode front.anchor id
        let content ← build tag id
        complete id content
        return id
      let scalar (tag : Tag) (text : List Char) : Building Nat := do
        checkAnchor front.anchor
        let id ← add (.scalar tag text)
        nameNode front.anchor id
        return id
      let sequence (items : Building (List Nat)) : Building Nat :=
        collection .seq fun tag _ => Node.sequence tag <$> items
      let mapping (entries : Building (List (Nat × Nat))) : Building Nat :=
        collection .map fun tag _ => Node.mapping tag <$> entries
      match ← ahead, place with
      | some .blockEntry, .indentless => sequence (indentlessItems fuel)
      | some (.scalar text plain), _ =>
        drop
        scalar (scalarTag name plain text) text
      | some .flowSequenceStart, _ =>
        drop
        sequence (flowItems fuel true)
      | some .flowMappingStart, _ =>
        drop
        mapping (flowEntries fuel true)
      | some .blockSequenceStart, .block | some .blockSequenceStart, .indentless =>
        drop
        sequence (blockItems fuel)
      | some .blockMappingStart, .block | some .blockMappingStart, .indentless =>
        drop
        mapping (blockEntries fuel)
      | _, _ =>
        if front.anchor.isSome || front.tag.isSome then
          scalar (scalarTag name (name.isNone || name == some ['!']) []) []
        else refuse

/-- A node, or an empty place if one of some tokens is ahead. -/
def nodeUnless : Nat → Place → List Token → Building Nat
  | 0, _, _ => refuse
  | fuel + 1, place, stops => do
    if (← aheadIn stops) then addEmpty else node fuel place

/-- The items of a block sequence and its end. -/
def blockItems : Nat → Building (List Nat)
  | 0 => refuse
  | fuel + 1 => do
    if (← accept .blockEntry) then
      let item ← nodeUnless fuel .block [.blockEntry, .blockEnd]
      return item :: (← blockItems fuel)
    else
      expect .blockEnd
      return []

/-- The items of a sequence that is not indented; it ends before anything else. -/
def indentlessItems : Nat → Building (List Nat)
  | 0 => refuse
  | fuel + 1 => do
    if (← accept .blockEntry) then
      let item ← nodeUnless fuel .block [.blockEntry, .key, .value, .blockEnd]
      return item :: (← indentlessItems fuel)
    else return []

/-- The entries of a block mapping and its end; a value without a key belongs to
an empty one only at the first place of an entry. -/
def blockEntries : Nat → Building (List (Nat × Nat))
  | 0 => refuse
  | fuel + 1 => do
    if (← accept .key) then
      let key ← nodeUnless fuel .indentless [.key, .value, .blockEnd]
      let value ←
        if (← accept .value) then nodeUnless fuel .indentless [.key, .value, .blockEnd]
        else addEmpty
      return (key, value) :: (← blockEntries fuel)
    else
      expect .blockEnd
      return []

/-- The items of a sequence in brackets, and the closing bracket. -/
def flowItems : Nat → Bool → Building (List Nat)
  | 0, _ => refuse
  | fuel + 1, isFirst => do
    if (← accept .flowSequenceEnd) then return []
    if !isFirst then expect .flowEntry
    match ← ahead with
    | some .key =>
      let id ← add (.scalar .map [])
      drop
      let key ← nodeUnless fuel .flow [.value, .flowEntry, .flowSequenceEnd]
      let value ←
        if (← accept .value) then nodeUnless fuel .flow [.flowEntry, .flowSequenceEnd]
        else addEmpty
      complete id (.mapping .map [(key, value)])
      return id :: (← flowItems fuel false)
    | _ =>
      if (← accept .flowSequenceEnd) then return []
      let item ← node fuel .flow
      return item :: (← flowItems fuel false)

/-- The entries of a mapping in braces, and the closing brace. -/
def flowEntries : Nat → Bool → Building (List (Nat × Nat))
  | 0, _ => refuse
  | fuel + 1, isFirst => do
    if (← accept .flowMappingEnd) then return []
    if !isFirst then expect .flowEntry
    if (← accept .key) then
      let key ← nodeUnless fuel .flow [.value, .flowEntry, .flowMappingEnd]
      let value ←
        if (← accept .value) then nodeUnless fuel .flow [.flowEntry, .flowMappingEnd]
        else addEmpty
      return (key, value) :: (← flowEntries fuel false)
    else if (← accept .flowMappingEnd) then return []
    else
      let key ← node fuel .flow
      let value ← addEmpty
      return (key, value) :: (← flowEntries fuel false)

end

/-! ## Documents -/

/-- Read the directives in front of a document: one version of the first
generation at most, and each tag handle once. -/
def directives : Nat → Bool → List (List Char × List Char) → Building (List (List Char × List Char))
  | 0, _, _ => refuse
  | fuel + 1, versionSeen, handles => do
    match ← ahead with
    | some (.version major _) =>
      drop
      if versionSeen || major != 1 then refuse
      directives fuel true handles
    | some (.tagHandle handle uri) =>
      drop
      if handles.any fun entry => entry.1 == handle then refuse
      directives fuel versionSeen ((handle, uri) :: handles)
    | some .otherDirective =>
      drop
      directives fuel versionSeen handles
    | _ => return handles

/-- Move over marks that end documents. -/
def skipEnds : Nat → Building Unit
  | 0 => return ()
  | fuel + 1 => do
    if (← accept .documentEnd) then skipEnds fuel

/-- The root of the only document, if there is one. -/
def document : Building (Option Nat) := do
  let fuel := 4 * (← get).tokens.length + 8
  let root ← match ← ahead with
    | none => pure none
    | some token =>
      let isOpening := match token with
        | .version _ _ | .tagHandle _ _ | .otherDirective | .documentStart => true
        | _ => false
      if isOpening then do
        let known ← directives fuel false []
        modify fun builder => { builder with handles := known ++ builder.handles }
        expect .documentStart
        match ← ahead with
        | none => some <$> addEmpty
        | some token =>
          match token with
          | .version _ _ | .tagHandle _ _ | .otherDirective | .documentStart | .documentEnd =>
            some <$> addEmpty
          | _ => some <$> node fuel .block
      else some <$> node fuel .block
  skipEnds fuel
  if (← ahead).isSome then refuse
  return root

end Builder

/-- The nodes of a text and its root, if it has content. -/
def compose (text : List Char) : Reading (Option Nat × Graph) := do
  let tokens ← tokens text
  let (root, builder) ← Builder.document.run { tokens }
  return (root, builder.graph)

end DocPress.Yaml
