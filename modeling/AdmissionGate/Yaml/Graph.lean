/-
# AdmissionGate.Yaml.Graph -- the values of a document

The values that the nodes of a document stand for: a table of cells that refer to
one another by number.  Two places of the document hold the same container exactly
if they have the same number, and a container may hold itself.

`Graph.value` spells the value at a number out.  A container that is met inside
itself is not spelled out again (`Value.enclosing`), so the value is a finite tree.
-/
import AdmissionGate.Value.Outline

namespace AdmissionGate

namespace Yaml

/-- A value whose parts are cells. -/
inductive Cell where
  | scalar (v : Value)
  | list (items : List Nat)
  | tuple (items : List Nat)
  | set (items : List Nat)
  | map (entries : List (Nat × Nat))

/-- A table of values. -/
structure Graph where
  cells : Array Cell
  root : Nat

namespace Graph

def cell (g : Graph) (number : Nat) : Cell := (g.cells[number]?).getD (.scalar .null)

/-- The value at a number that stands inside the containers on a path; each step goes one container
further in. -/
def valueInside (g : Graph) : (fuel : Nat) → (path : List Nat) → (number : Nat) → Value
  | 0, _, _ => .null
  | fuel + 1, path, number =>
    let inside := g.valueInside fuel (number :: path)
    let isInside := path.contains number
    match g.cell number with
    | .scalar v => v
    | .list items => if isInside then .enclosing .list else .list (items.map inside)
    | .tuple items => if isInside then .enclosing .tuple else .tuple (items.map inside)
    | .set items => .set (items.map inside)
    | .map entries =>
      if isInside then .enclosing .map
      else .map (entries.map fun (k, v) => (inside k, inside v))

/-- The value at a number.  No path is longer than the table. -/
def value (g : Graph) (number : Nat) : Value := g.valueInside (g.cells.size + 1) [] number

def isText (g : Graph) (t : Text) (number : Nat) : Bool :=
  match g.cell number with
  | .scalar (.text s) => s = t
  | _ => false

end Graph

/-- A value in a table. -/
structure Spot where
  graph : Graph
  number : Nat

namespace Spot

def cell (s : Spot) : Cell := s.graph.cell s.number

def typeName (s : Spot) : Text :=
  match s.cell with
  | .scalar v => v.qualifiedTypeName
  | .list _ => "list"
  | .tuple _ => "tuple"
  | .set _ => "set"
  | .map _ => "dict"

def isMap (s : Spot) : Bool :=
  match s.cell with
  | .scalar v => v.isMap
  | .map _ => true
  | _ => false

def isTruthy (s : Spot) : Bool :=
  match s.cell with
  | .scalar v => v.isTruthy
  | .list items | .tuple items | .set items => !items.isEmpty
  | .map entries => !entries.isEmpty

/-- The number of the member of a map at a text key. -/
def member? (s : Spot) (name : Text) : Option Spot :=
  match s.cell with
  | .map entries =>
    (entries.find? fun (k, _) => s.graph.isText name k).map fun (_, v) => { s with number := v }
  | _ => none

def elements (s : Spot) : Except AdmissionGate.Fault (List Value) :=
  match s.cell with
  | .scalar v => v.elements
  | .list items | .tuple items | .set items => .ok (items.map s.graph.value)
  | .map entries => .ok (entries.map fun (k, _) => s.graph.value k)

instance : Outline Spot where
  typeName := typeName
  isMap := isMap
  isTruthy := isTruthy
  member? := member?
  elements := elements
  value s := s.graph.value s.number

end Spot

end Yaml

end AdmissionGate
