/-
# AdmissionGate.Yaml.Load -- the values that a document stands for

The values of a document are built from its nodes, the scalars at first sight and
the containers later, in the order in which they come to sight: so of two faults
in a document the one further out is met first.

A merge key puts the entries of other maps in front of those of its map, where an
entry further back wins; entries that are merged keep their nodes.  Merging
rewrites the nodes, once for each map that is built or merged.
-/
import AdmissionGate.Yaml.Document
import AdmissionGate.Yaml.Graph
import AdmissionGate.Value.Slots
import AdmissionGate.Yaml.Scalar

namespace AdmissionGate

namespace Yaml

structure Build where
  nodes : Array Node
  /-- The values that have come to sight; a container is empty until its turn. -/
  cells : Array (Option Cell)
  /-- The containers that wait for their turn. -/
  waiting : List Nat := []

abbrev Building (α : Type) := StateT Build (Except Fault) α

namespace Build

def refuse {α : Type} : Building α := throw .malformed

def node (number : Nat) : Building Node :=
  return ((← get).nodes[number]?).getD .empty

def setNode (number : Nat) (n : Node) : Building Unit :=
  modify fun b => { b with nodes := b.nodes.setIfInBounds number n }

/-- The value at a number, if it has come to sight. -/
def cell? (number : Nat) : Building (Option Cell) := return ((← get).cells[number]?).join

def setCell (number : Nat) (c : Cell) : Building Unit :=
  modify fun b => { b with cells := b.cells.setIfInBounds number (some c) }

/-- Add a value that is no node's; its number. -/
def addCell (c : Cell) : Building Nat := do
  let b ← get
  set { b with cells := b.cells.push (some c) }
  return b.cells.size

/-! ## Merging -/

def entriesOf (number : Nat) : Building (List (Nat × Nat)) := do
  match (← node number).content with
  | .map entries => return entries
  | _ => refuse

def setEntries (number : Nat) (entries : List (Nat × Nat)) : Building Unit := do
  setNode number { (← node number) with content := .map entries }

def nameDefaults (number : Nat) : Building Unit := do
  (← entriesOf number).forM fun (k, _) => do
    let key ← node k
    if key.tag = .default then setNode k { key with tag := .text }

/-- The entries up to the first with a merge key, its value, and the entries after it. -/
def splitMerge : List (Nat × Nat) → Building (Option (List (Nat × Nat) × Nat × List (Nat × Nat)))
  | [] => return none
  | (k, v) :: entries => do
    if (← node k).tag = .merge then return some ([], v, entries)
    match ← splitMerge entries with
    | none => return none
    | some (before, value, after) => return some ((k, v) :: before, value, after)

/-- Merge what the merge keys of a map ask for, and in the maps that are merged.  Each step removes
a merge key, so as many steps as there are merge keys suffice. -/
def merge : (fuel : Nat) → (number : Nat) → Building Unit
  | 0, _ => return
  | fuel + 1, number => do
    nameDefaults number
    match ← splitMerge (← entriesOf number) with
    | none => return
    | some (before, value, after) =>
      setEntries number (before ++ after)
      let mergedFrom (source : Nat) : Building (List (Nat × Nat)) := do
        let _ ← entriesOf source
        merge fuel source
        entriesOf source
      let merged ←
        match (← node value).content with
        | .scalar _ => refuse
        | .map _ => mergedFrom value
        | .list sources => do
          let parts ← sources.mapM mergedFrom
          pure parts.reverse.flatten
      merge fuel number
      setEntries number (merged ++ (← entriesOf number))

def countMerges (nodes : Array Node) : Nat :=
  nodes.foldl (fun count n =>
    match n.content with
    | .map entries =>
      count + (entries.filter fun (k, _) => (nodes[k]?).any (·.tag = .merge)).length
    | _ => count) 0

/-- Merge what the merge keys of a map ask for. -/
def mergeAll (number : Nat) : Building Unit := do
  merge (countMerges (← get).nodes + 1) number

/-! ## Scalars -/

/-- The text of a scalar; a map stands for the value at its default key. -/
def scalarText : (fuel : Nat) → (number : Nat) → Building Text
  | 0, _ => throw .endlessDefault
  | fuel + 1, number => do
    match (← node number).content with
    | .scalar t => return t
    | .list _ => refuse
    | .map entries =>
      let defaults ← entries.filterM fun (k, _) => return (← node k).tag = .default
      match defaults with
      | [] => refuse
      | (_, v) :: _ => scalarText fuel v

def scalar (number : Nat) (n : Node) : Building Value := do
  match n.tag with
  | .merge | .default | .other => refuse
  | tag =>
    let t ← scalarText ((← get).nodes.size + 1) number
    match n.content, tag with
    | .map _, .timestamp => throw .timeOfMap
    | _, _ => Scalar.value tag t

/-- The empty container of a tag. -/
def emptyCell? : Tag → Option Cell
  | .list | .orderedMap | .pairs => some (.list [])
  | .map => some (.map [])
  | .set => some (.set [])
  | _ => none

/-- Bring a node to sight. -/
def reach (number : Nat) : Building Unit := do
  if (← cell? number).isSome then return
  let n ← node number
  match emptyCell? n.tag with
  | some c =>
    setCell number c
    modify fun b => { b with waiting := b.waiting ++ [number] }
  | none => setCell number (.scalar (← scalar number n))

/-! ## Containers -/

structure Key where
  number : Nat
  value : Value
  /-- The key is the undefined number, and by its name. -/
  isUndefinedByName : Bool

/-- Whether two keys are the same.  Of two undefined numbers that are not at one place of the
document both have to be so by name. -/
def Key.same (k l : Key) : Bool :=
  k.number == l.number ||
    (k.value.same l.value && (!k.value.isUndefined || (k.isUndefinedByName && l.isUndefinedByName)))

def keyAt (number : Nat) : Building Key := do
  match ← cell? number with
  | some (.scalar v) =>
    if !v.isUndefined then return ⟨number, v, false⟩
    try
      let t ← scalarText ((← get).nodes.size + 1) number
      return ⟨number, v, Scalar.namesUndefined t⟩
    catch _ => return ⟨number, v, false⟩
  | _ => refuse

/-- Set the value at a key among some entries: the first of equal keys stays. -/
def insertEntry (k : Key) (v : Nat) : List (Key × Nat) → List (Key × Nat)
  | [] => [(k, v)]
  | (l, w) :: entries =>
    if l.same k then (l, v) :: entries else (l, w) :: insertEntry k v entries

/-- The entries of a map, merged and with the last value of each key. -/
def mapEntries (number : Nat) : Building (List (Nat × Nat)) := do
  let _ ← entriesOf number
  mergeAll number
  let entries ← (← entriesOf number).foldlM (fun entries (k, v) => do
    reach k
    let key ← keyAt k
    reach v
    return insertEntry key v entries) []
  return entries.map fun (k, v) => (k.number, v)

/-- The members of a set, which are the keys of a map. -/
def setItems (number : Nat) : Building (List Nat) := do
  let keys ← (← mapEntries number).mapM fun (k, _) => keyAt k
  return (Slots.inOrder Key.value keys).map Key.number

def listItems (number : Nat) : Building (List Nat) := do
  match (← node number).content with
  | .list items =>
    items.forM reach
    return items
  | _ => refuse

/-- The pairs of a list of maps with one entry. -/
def pairItems (number : Nat) : Building (List Nat) := do
  match (← node number).content with
  | .list items =>
    items.mapM fun x => do
      match (← node x).content with
      | .map [(k, v)] =>
        reach k
        reach v
        addCell (.tuple [k, v])
      | _ => refuse
  | _ => refuse

def fill (number : Nat) : Building Unit := do
  match (← node number).tag with
  | .map => setCell number (.map (← mapEntries number))
  | .set => setCell number (.set (← setItems number))
  | .orderedMap | .pairs => setCell number (.list (← pairItems number))
  | _ => setCell number (.list (← listItems number))

/-- Fill the containers that wait, and those that come to sight meanwhile.  A node waits only
once. -/
def fillAll : (fuel : Nat) → Building Unit
  | 0 => return
  | fuel + 1 => do
    match (← get).waiting with
    | [] => return
    | number :: waiting =>
      modify fun b => { b with waiting := waiting }
      fill number
      fillAll fuel

end Build

/-- The values that a document stands for. -/
def Graph.ofDocument (d : Document) : Except Fault Graph := do
  let build : Building Unit := do
    Build.reach d.root
    Build.fillAll (d.nodes.size + 1)
  let (_, b) ← build.run ⟨d.nodes, Array.replicate d.nodes.size none, []⟩
  return ⟨b.cells.map (·.getD (.scalar .null)), d.root⟩

/-- The values that a text stands for, if it holds one document and no code point that no document
may hold. -/
def Graph.ofText (t : Text) : Except Fault Graph :=
  if t.all isAllowed then do
    let d ← Document.ofTokens (Tokens.ofText t)
    Graph.ofDocument d
  else .error .malformed

end Yaml

end AdmissionGate
