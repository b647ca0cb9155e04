/-
# AdmissionGate.Yaml.Print.Graph -- values as a document

A document of values in blocks, two columns for each level, entries and items in
their order; only empty containers are written in brackets.  A list that is the
value of a key without a mark needs no indentation of its own.

A container or a time that is met a second time is written as an alias, and the
anchors are numbered in the order in which they turn out to be needed.
-/
import AdmissionGate.Yaml.Graph
import AdmissionGate.Yaml.Print.Scalar

namespace AdmissionGate

namespace Yaml

namespace Print

/-! ## Values that are met twice -/

/-- Whether a value is written only once. -/
def isShareable : Cell → Bool
  | .scalar (.date _) | .scalar (.dateTime _) => true
  | .scalar _ => false
  | .tuple items => !items.isEmpty
  | .list _ | .set _ | .map _ => true

/-- The numbers of the parts of a value, keys before their values. -/
def parts : Cell → List Nat
  | .scalar _ => []
  | .list items | .tuple items | .set items => items
  | .map entries => entries.flatMap fun (k, v) => [k, v]

/-- The values met so far, and those of them that were met again, in order. -/
structure Survey where
  met : List Nat := []
  again : List Nat := []

/-- Go through a value; each level of the recursion meets a new one. -/
def survey (g : Graph) : (fuel : Nat) → Survey → (number : Nat) → Survey
  | 0, s, _ => s
  | fuel + 1, s, number =>
    let c := g.cell number
    if !isShareable c then s
    else if s.met.contains number then
      if s.again.contains number then s else { s with again := s.again ++ [number] }
    else (parts c).foldl (survey g fuel) { s with met := number :: s.met }

/-- The values that get an anchor, in the order of their anchors. -/
def anchored (g : Graph) : List Nat := (survey g (g.cells.size + 1) {} g.root).again

/-! ## Writing them -/

structure Sheet where
  pen : Pen := {}
  /-- The values with an anchor that have been written. -/
  done : List Nat := []

abbrev Printing (α : Type) := StateT Sheet (Except Integer.Fault) α

def draw (f : Pen → Pen) : Printing Unit := modify fun s => { s with pen := f s.pen }

inductive Role where
  | root
  | item
  /-- A key without a mark. -/
  | key
  /-- The value of a key, or a key with a mark. -/
  | value
  deriving DecidableEq, Repr

/-- The indentation of a collection inside another one. -/
def deeper : Option Nat → Nat
  | none => 0
  | some indent => indent + 2

def anchor? (shared : List Nat) (number : Nat) : Option Text :=
  (shared.findIdx? (· = number)).map fun i => "id" ++ Text.padded 3 (i + 1)

def scalar (v : Value) : Printing Scalar :=
  match Scalar.ofValue v with
  | .ok s => return s
  | .error fault => throw fault

/-- Whether a key needs no mark: an alias or a short scalar. -/
def isSimpleKey (g : Graph) (shared : List Nat) (number : Nat) : Printing Bool := do
  let anchorLength := ((anchor? shared number).getD []).length
  if (← get).done.contains number then return anchorLength < keyLimit
  match g.cell number with
  | .scalar v => return (← scalar v).isSimpleKey anchorLength
  | _ => return false

/-- Writing a value in a role inside a collection with an indentation. -/
abbrev NodePrinter := (role : Role) → (indent : Option Nat) → (number : Nat) → Printing Unit

def items (write : NodePrinter) (role : Role) (indent : Option Nat) (xs : List Nat) :
    Printing Unit := do
  if xs.isEmpty then draw (·.mark "[]")
  else
    let isLoose := role = .value && !(← get).pen.isOpen
    let inner := if isLoose then indent.getD 0 else deeper indent
    xs.forM fun x => do
      draw fun p => (p.indentTo inner).markOpen "-"
      write .item (some inner) x

/-- Write a key with the mark in front of its value. -/
def key (write : NodePrinter) (indent : Nat) (isSimple : Bool) (number : Nat) :
    Printing Unit := do
  draw (·.indentTo indent)
  if isSimple then
    write .key (some indent) number
    draw (·.follow ":")
  else
    draw (·.markOpen "?")
    write .value (some indent) number
    draw fun p => (p.indentTo indent).markOpen ":"

/-- Write the entries of a map; a value that is not given is null. -/
def entries (g : Graph) (shared : List Nat) (write : NodePrinter) (indent : Option Nat)
    (es : List (Nat × Option Nat)) : Printing Unit := do
  if es.isEmpty then draw (·.mark "\x7b\x7d")
  else
    let inner := deeper indent
    es.forM fun (k, v) => do
      key write inner (← isSimpleKey g shared k) k
      match v with
      | some v => write .value (some inner) v
      | none => draw (·.mark "null")

/-- Write a value that is not an alias. -/
def content (g : Graph) (shared : List Nat) (write : NodePrinter) (role : Role)
    (indent : Option Nat) : Cell → Printing Unit
  | .scalar v => do
    let s ← scalar v
    draw (s.write (role = .key) ((indent.map (· + 2)).getD 2))
  | .list xs | .tuple xs => items write role indent xs
  | .set xs => do
    draw (·.mark Tag.set.written)
    entries g shared write indent (xs.map fun k => (k, none))
  | .map es => entries g shared write indent (es.map fun (k, v) => (k, some v))

/-- Write a value; each level of the recursion writes a new collection. -/
def node (g : Graph) (shared : List Nat) : (fuel : Nat) → NodePrinter
  | 0, _, _, _ => return
  | fuel + 1, role, indent, number => do
    match anchor? shared number with
    | none => content g shared (node g shared fuel) role indent (g.cell number)
    | some name =>
      if (← get).done.contains number then
        draw (·.mark ("*" ++ name))
      else
        draw (·.mark ("&" ++ name))
        modify fun s => { s with done := number :: s.done }
        content g shared (node g shared fuel) role indent (g.cell number)

end Print

/-- The document that spells the value at the root, which is a container. -/
def Graph.print (g : Graph) : Except Integer.Fault Text := do
  let (_, s) ← (Print.node g (Print.anchored g) (g.cells.size + 1) .root none g.root).run {}
  return (s.pen.indentTo 0).text

end Yaml

end AdmissionGate
