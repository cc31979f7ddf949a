import CriticalCss.Yaml.Graph

/-!
# The value of a document

The nodes of a document are turned into values level by level: first the outermost node, then what it holds, then what that holds. So
of two nodes that have no value the one nearer to the outermost node is reported, and of two on one level the one that comes first.
-/

namespace CriticalCss.Yaml

namespace Tag

/-- Whether a tag asks for a collection. -/
def isCollection : Tag → Bool
  | .sequence | .mapping | .set | .orderedMap | .pairs => true
  | _ => false

end Tag

namespace Graph

/-- The tag of a node. -/
def tagOf (g : Graph) (number : Nat) : Tag :=
  match g[number]? with
  | some (.scalar tag _) => tag
  | some (.sequence tag _) => tag
  | some (.mapping tag _) => tag
  | none => .unknown

/-! ## Merging -/

/-- The entries of a mapping with those it merges before its own; of several merged mappings the first comes last. A mapping that
merges itself adds its own entries. `path` holds the mappings that are being merged. -/
def entriesOf (g : Graph) : Nat → List Nat → Nat → Except Fault (List (Nat × Nat))
  | 0, _, _ => .error .malformed
  | fuel + 1, path, number =>
    match g[number]? with
    | some (.mapping _ entries) => do
      let own := entries.filter fun e => g.tagOf e.1 != .merge
      if path.elem number then return own
      let merged ← (entries.filter fun e => g.tagOf e.1 == .merge).mapM fun (e : Nat × Nat) =>
        match g[e.2]? with
        | some (.mapping _ _) => entriesOf g fuel (number :: path) e.2
        | some (.sequence _ items) => do
          return (← items.mapM (entriesOf g fuel (number :: path))).reverse.flatten
        | _ => .error .malformed
      return merged.flatten ++ own
    | _ => .error .malformed

/-- The entries of a mapping with those it merges. -/
def mergedEntries (g : Graph) (number : Nat) : Except Fault (List (Nat × Nat)) := g.entriesOf (g.size + 1) [] number

/-! ## Scalars -/

/-- The text of a node that is used as a scalar. A mapping is one if it has an entry that says so. -/
def scalarText? (g : Graph) : Nat → Nat → Option Text
  | 0, _ => none
  | fuel + 1, number =>
    match g[number]? with
    | some (.scalar _ text) => some text
    | some (.mapping _ entries) =>
      match entries.find? fun e => g.tagOf e.1 == .default with
      | some e => scalarText? g fuel e.2
      | none => none
    | _ => none

/-- The value of a node whose tag asks for no collection. -/
def scalarAt (g : Graph) (number : Nat) : Except Fault Value :=
  match g.scalarText? (g.size + 1) number with
  | some text => scalarValue (g.tagOf number) text
  | none => .error .malformed

/-- The value of a node that is a key. A key that stands for the value of a mapping is a text here. -/
def keyAt (g : Graph) (number : Nat) : Except Fault Value :=
  if g.tagOf number == .default then
    match g.scalarText? (g.size + 1) number with
    | some text => .ok (.text text)
    | none => .error .malformed
  else if (g.tagOf number).isCollection then .error .malformed
  else g.scalarAt number

/-! ## Checking -/

/-- The single entry of a mapping that is an item of a list of pairs. -/
def pairAt (g : Graph) (number : Nat) : Except Fault (Nat × Nat) :=
  match g[number]? with
  | some (.mapping _ [entry]) => .ok entry
  | _ => .error .malformed

/-- The nodes that a collection holds, in the order in which their values are made. Keys have to have a value that can be compared. -/
def contents (g : Graph) (number : Nat) : Except Fault (List (Nat × Bool)) :=
  match g[number]?, g.tagOf number with
  | some (.sequence _ items), .sequence => .ok (items.map fun i => (i, false))
  | some (.sequence _ items), .orderedMap | some (.sequence _ items), .pairs => do
    return (← items.mapM g.pairAt).flatMap fun e => [(e.1, false), (e.2, false)]
  | some (.mapping _ _), .mapping | some (.mapping _ _), .set => do
    return (← g.mergedEntries number).flatMap fun e => [(e.1, true), (e.2, false)]
  | _, _ => .error .malformed

/-- Checks some nodes of a level and gives the collections among them that have not been seen. -/
def checkNodes (g : Graph) : List Nat → List (Nat × Bool) → Except Fault (List Nat)
  | _, [] => .ok []
  | seen, (number, isKey) :: rest =>
    if isKey then do
      let _ ← g.keyAt number
      checkNodes g seen rest
    else if (g.tagOf number).isCollection then
      if seen.elem number then checkNodes g seen rest
      else do
        let more ← checkNodes g (number :: seen) rest
        return number :: more
    else do
      let _ ← g.scalarAt number
      checkNodes g seen rest

/-- Checks collections one after the other; what they hold is checked after those that are waiting. -/
def checkAll (g : Graph) : Nat → List Nat → List Nat → Except Fault Unit
  | 0, _, _ => .ok ()
  | _, _, [] => .ok ()
  | fuel + 1, seen, number :: waiting => do
    let found ← g.checkNodes seen (← g.contents number)
    checkAll g fuel (found ++ seen) (waiting ++ found)

/-- Checks that every node of a document has a value. -/
def check (g : Graph) (root : Nat) : Except Fault Unit := do
  let found ← g.checkNodes [] [(root, false)]
  g.checkAll (g.size + 1) found found

/-! ## Values -/

/-- A container around a place: the number of its node and whether it is a mapping; nothing for a pair. -/
abbrev Around := Option (Nat × Bool)

/-- How many levels around a place a node is, if it is around it, and whether it is a mapping. -/
def levelOf (number : Nat) : List Around → Option (Nat × Bool)
  | [] => none
  | some (n, isMapping) :: rest =>
    if n = number then some (0, isMapping) else (levelOf number rest).map fun r => (r.1 + 1, r.2)
  | none :: rest => (levelOf number rest).map fun r => (r.1 + 1, r.2)

/-- The value of a node inside some containers. Nodes without a value do not come here. -/
def valueAt (g : Graph) : Nat → List Around → Nat → Value
  | 0, _, _ => .null
  | fuel + 1, around, number =>
    match levelOf number around with
    | some (level, isMapping) => .enclosing level isMapping
    | none =>
      let inList : List Around := some (number, false) :: around
      let inMapping : List Around := some (number, true) :: around
      let key (k : Nat) : Value := (g.keyAt k).toOption.getD .null
      match g[number]?, g.tagOf number with
      | some (.sequence _ items), .sequence => .list (items.map (valueAt g fuel inList))
      | some (.sequence _ items), .orderedMap | some (.sequence _ items), .pairs =>
        .list (items.map fun i => match g.pairAt i with
          | .ok e => .pair (valueAt g fuel (none :: inList) e.1) (valueAt g fuel (none :: inList) e.2)
          | .error _ => .null)
      | some (.mapping _ _), .mapping =>
        .mapping (((g.mergedEntries number).toOption.getD []).foldl
          (fun entries e => Value.put (key e.1) (valueAt g fuel inMapping e.2) entries) [])
      | some (.mapping _ _), .set =>
        .set ((((g.mergedEntries number).toOption.getD []).foldl
          (fun entries e => Value.put (key e.1) .null entries) []).map (·.1))
      | _, _ => (g.scalarAt number).toOption.getD .null

end Graph

/-- The value of a source. A source without a document has the value null. -/
def load (source : Text) : Except Fault Value := do
  let (g, root) ← Graph.ofSource source
  match root with
  | none => return .null
  | some root => do
    g.check root
    return g.valueAt (g.size + 1) [] root

end CriticalCss.Yaml
