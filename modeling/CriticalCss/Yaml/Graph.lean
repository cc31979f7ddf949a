import CriticalCss.Yaml.Lexer
import CriticalCss.Yaml.Tag

/-!
# The node graph of a document

A document as numbered nodes. A collection holds the numbers of its nodes, so that a node may stand in several places and even inside
itself: an anchor gives a node a name, and an alias puts the node of a name in another place.
-/

namespace CriticalCss.Yaml

/-- A node. -/
inductive Node
  | scalar (tag : Tag) (text : Text)
  | sequence (tag : Tag) (items : List Nat)
  | mapping (tag : Tag) (entries : List (Nat × Nat))
  deriving DecidableEq, Repr

/-- The nodes of a document. -/
abbrev Graph := Array Node

/-- What is known while the tokens of a document are read. -/
structure Reading where
  tokens : List Token
  nodes : Graph := #[]
  anchors : List (Text × Nat) := []
  /-- What the handles of tags stand for. -/
  handles : List (Text × Text) := []

/-- A step of reading a document. -/
abbrev Read := StateT Reading (Except Fault)

namespace Read

/-! ## Tokens -/

/-- Refuses the document. -/
def refuse : Read α := throw .malformed

/-- The next token, which is not taken. A place that cannot be read past is refused as soon as it comes next. -/
def peek : Read Token := do
  match (← get).tokens with
  | [] => refuse
  | .broken fault :: _ => throw fault
  | t :: _ => return t

/-- Takes the next token. -/
def drop : Read Unit := modify fun r => { r with tokens := r.tokens.drop 1 }

/-- Whether the next token is one of some. -/
def isAt (ts : List Token) : Read Bool := return ts.elem (← peek)

/-! ## Nodes -/

/-- Adds a node and gives its number. -/
def add (n : Node) : Read Nat := do
  let r ← get
  set { r with nodes := r.nodes.push n }
  return r.nodes.size

/-- Replaces a node. -/
def replace (number : Nat) (n : Node) : Read Unit := modify fun r => { r with nodes := r.nodes.setIfInBounds number n }

/-- An empty plain scalar. -/
def addEmpty : Read Nat := add (.scalar (.ofPlain []) [])

/-- Gives a node its name. -/
def nameNode (anchor : Option Text) (number : Nat) : Read Unit :=
  match anchor with
  | none => return ()
  | some name => modify fun r => { r with anchors := (name, number) :: r.anchors }

/-- The node of a name. -/
def named (name : Text) : Read Nat := do
  match (← get).anchors.lookup name with
  | some number => return number
  | none => refuse

/-- The name and the tag before a node, in either order. -/
def properties : Read (Option Text × Option (Option Text × Text)) := do
  match ← peek with
  | .anchor name => do
    drop
    match ← peek with
    | .tag handle suffix => do
      drop
      return (some name, some (handle, suffix))
    | _ => return (some name, none)
  | .tag handle suffix => do
    drop
    match ← peek with
    | .anchor name => do
      drop
      return (some name, some (handle, suffix))
    | _ => return (none, some (handle, suffix))
  | _ => return (none, none)

/-- The full name of a tag. -/
def fullTag : Option (Option Text × Text) → Read (Option Text)
  | none => return none
  | some (none, suffix) => return some suffix
  | some (some handle, suffix) => do
    match (← get).handles.lookup handle with
    | some replacement => return some (replacement ++ suffix)
    | none => refuse

/-- A tag that says nothing but that the form of the node decides. -/
def isOpen (tag : Option Text) : Bool := tag.isNone || tag == some ['!']

/-- The tag of a collection. -/
def collectionTag (own : Tag) (tag : Option Text) : Tag := if isOpen tag then own else Tag.ofName (tag.getD [])

/-- The tag of a scalar. -/
def scalarTag (tag : Option Text) (text : Text) (plain : Bool) : Tag :=
  match tag with
  | none => if plain then .ofPlain text else .text
  | some name => if name == ['!'] then .ofPlain text else .ofName name

/-! ## Collections -/

mutual

/-- The node that comes next. A collection that is shown by its indentation can come where `block` allows it, and one whose items are
not indented where `loose` does. -/
def node (fuel : Nat) (block loose : Bool) : Read Nat :=
  match fuel with
  | 0 => refuse
  | fuel + 1 => do
    match ← peek with
    | .alias name => do
      drop
      named name
    | _ => do
      let (anchor, written) ← properties
      let tag ← fullTag written
      let fresh ← match anchor with
        | some name => pure ((← get).anchors.lookup name).isNone
        | none => pure true
      let next ← peek
      let collection (start : Node) (inside : Read Node) : Read Nat := do
        if !fresh then refuse
        else
          let number ← add start
          nameNode anchor number
          replace number (← inside)
          return number
      let sequenceTag := collectionTag .sequence tag
      let mappingTag := collectionTag .mapping tag
      if loose && next == .blockEntry then
        collection (.sequence sequenceTag []) (do return .sequence sequenceTag (← looseItems fuel))
      else match next with
        | .scalar text plain => do
          drop
          if !fresh then refuse
          else
            let number ← add (.scalar (scalarTag tag text plain) text)
            nameNode anchor number
            return number
        | .flowSequenceStart => do
          drop
          collection (.sequence sequenceTag []) (do return .sequence sequenceTag (← flowItems fuel true))
        | .flowMappingStart => do
          drop
          collection (.mapping mappingTag []) (do return .mapping mappingTag (← flowEntries fuel true))
        | _ =>
          if block && next == .blockSequenceStart then do
            drop
            collection (.sequence sequenceTag []) (do return .sequence sequenceTag (← blockItems fuel))
          else if block && next == .blockMappingStart then do
            drop
            collection (.mapping mappingTag []) (do return .mapping mappingTag (← blockEntries fuel))
          else if anchor.isSome || tag.isSome then do
            if !fresh then refuse
            else
              let number ← add (.scalar (scalarTag tag [] true) [])
              nameNode anchor number
              return number
          else refuse

/-- A node, or an empty scalar if one of some tokens comes next. -/
def nodeUnless (fuel : Nat) (block loose : Bool) (stops : List Token) : Read Nat :=
  match fuel with
  | 0 => refuse
  | fuel + 1 => do
    if ← isAt stops then addEmpty else node fuel block loose

/-- The value behind a key, or an empty scalar if no colon comes next. -/
def valueUnless (fuel : Nat) (block : Bool) (stops : List Token) : Read Nat :=
  match fuel with
  | 0 => refuse
  | fuel + 1 => do
    if ← isAt [.value] then
      drop
      nodeUnless fuel block block stops
    else addEmpty

/-- The items of an indented sequence. -/
def blockItems (fuel : Nat) : Read (List Nat) :=
  match fuel with
  | 0 => refuse
  | fuel + 1 => do
    match ← peek with
    | .blockEntry => do
      drop
      let item ← nodeUnless fuel true false [.blockEntry, .blockEnd]
      return item :: (← blockItems fuel)
    | .blockEnd => do
      drop
      return []
    | _ => refuse

/-- The items of a sequence that is not indented, which ends with its last item. -/
def looseItems (fuel : Nat) : Read (List Nat) :=
  match fuel with
  | 0 => refuse
  | fuel + 1 => do
    match ← peek with
    | .blockEntry => do
      drop
      let item ← nodeUnless fuel true false [.blockEntry, .key, .value, .blockEnd]
      return item :: (← looseItems fuel)
    | _ => return []

/-- The entries of an indented mapping. -/
def blockEntries (fuel : Nat) : Read (List (Nat × Nat)) :=
  match fuel with
  | 0 => refuse
  | fuel + 1 => do
    match ← peek with
    | .key => do
      drop
      let key ← nodeUnless fuel true true [.key, .value, .blockEnd]
      let value ← valueUnless fuel true [.key, .value, .blockEnd]
      return (key, value) :: (← blockEntries fuel)
    | .blockEnd => do
      drop
      return []
    | _ => refuse

/-- The items of a sequence between brackets. A single entry of a mapping may stand as an item. -/
def flowItems (fuel : Nat) (first : Bool) : Read (List Nat) :=
  match fuel with
  | 0 => refuse
  | fuel + 1 => do
    if ← isAt [.flowSequenceEnd] then
      drop
      return []
    else
      if !first then
        if ← isAt [.flowEntry] then drop else refuse
      match ← peek with
      | .flowSequenceEnd => do
        drop
        return []
      | .key => do
        drop
        let number ← add (.mapping .mapping [])
        let key ← nodeUnless fuel false false [.value, .flowEntry, .flowSequenceEnd]
        let value ← valueUnless fuel false [.flowEntry, .flowSequenceEnd]
        replace number (.mapping .mapping [(key, value)])
        return number :: (← flowItems fuel false)
      | _ => do
        let item ← node fuel false false
        return item :: (← flowItems fuel false)

/-- The entries of a mapping between braces. A node without a colon is a key with an empty value. -/
def flowEntries (fuel : Nat) (first : Bool) : Read (List (Nat × Nat)) :=
  match fuel with
  | 0 => refuse
  | fuel + 1 => do
    if ← isAt [.flowMappingEnd] then
      drop
      return []
    else
      if !first then
        if ← isAt [.flowEntry] then drop else refuse
      match ← peek with
      | .flowMappingEnd => do
        drop
        return []
      | .key => do
        drop
        let key ← nodeUnless fuel false false [.value, .flowEntry, .flowMappingEnd]
        let value ← valueUnless fuel false [.flowEntry, .flowMappingEnd]
        return (key, value) :: (← flowEntries fuel false)
      | _ => do
        let key ← node fuel false false
        let value ← addEmpty
        return (key, value) :: (← flowEntries fuel false)

end

/-! ## Documents -/

/-- What the handles stand for unless a directive says otherwise. -/
def defaultHandles : List (Text × Text) := [(['!'], ['!']), (['!', '!'], Tag.namespaceText)]

/-- Reads the directives before a document. There may be one version, of the first generation, and one directive for each handle. -/
def directives : Nat → (versioned : Bool) → List (Text × Text) → Read (List (Text × Text))
  | 0, _, _ => refuse
  | fuel + 1, versioned, handles => do
    match ← peek with
    | .directive (.version major) => do
      drop
      if versioned || Text.decimalNumber? major != some 1 then refuse else directives fuel true handles
    | .directive (.tag handle replacement) => do
      drop
      if (handles.lookup handle).isSome then refuse else directives fuel versioned ((handle, replacement) :: handles)
    | .directive .other => do
      drop
      directives fuel versioned handles
    | _ => return handles

/-- Passes over the ends of documents up to the end of the source. Anything else would be a second document. -/
def closing : Nat → Read Unit
  | 0 => refuse
  | fuel + 1 => do
    match ← peek with
    | .documentEnd => do
      drop
      closing fuel
    | .streamEnd => return ()
    | _ => refuse

/-- The only document of a source, by the number of its outermost node; nothing if there is no document. -/
def document : Read (Option Nat) := do
  let fuel := 4 * (← get).tokens.length + 8
  modify fun r => { r with handles := defaultHandles }
  match ← peek with
  | .streamEnd => return none
  | .directive _ | .documentStart => do
    let own ← directives fuel false []
    modify fun r => { r with handles := own ++ defaultHandles }
    if ← isAt [.documentStart] then
      drop
      let stops ← match ← peek with
        | .directive _ | .documentStart | .documentEnd | .streamEnd => pure true
        | _ => pure false
      let root ← if stops then addEmpty else node fuel true false
      closing fuel
      return some root
    else refuse
  | _ => do
    let root ← node fuel true false
    closing fuel
    return some root

end Read

/-- The node graph of a source and the number of its outermost node, if it has one. -/
def Graph.ofSource (source : Text) : Except Fault (Graph × Option Nat) := do
  let (root, r) ← Read.document.run { tokens := Token.ofSource source }
  return (r.nodes, root)

end CriticalCss.Yaml
