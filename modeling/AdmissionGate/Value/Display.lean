/-
# AdmissionGate.Value.Display -- values as text

Log lines, reasons and messages show values.  A text at the top is shown as it
is; everything else, and every text inside a container, is shown so that its
type can be read off: texts in quotes, lists in brackets, tuples in parentheses
(a lone item with a comma after it), sets and maps in braces.  A container inside
itself is shown as three dots in its brackets.

A client model is shown at the top as its attributes, each as `name=value` with a
space between.  Inside a value it is shown like a map of its attributes that is
wrapped, with the entries of every map in it by rising key.

An integer with more digits than `Integer.maxDigits` cannot be shown, alone or
inside a container.
-/
import AdmissionGate.Text.Sketch
import AdmissionGate.Value.Basic

namespace AdmissionGate

namespace Value

/-- A container inside itself. -/
def showEnclosing : Shape → Text
  | .list => "[...]"
  | .tuple => "(...)"
  | .map => "\x7b...\x7d"

/-- Items in braces. -/
def showSet (items : List Sketch) : Text :=
  if items.isEmpty then "set()" else "\x7b" ++ Text.join ", " (Sketch.lineItems items) ++ "\x7d"

/-- The entries of a map in a model, by rising key as far as the keys are texts. -/
def byKey (entries : List (Value × Text × Sketch)) : List (Value × Text × Sketch) :=
  entries.mergeSort fun a b =>
    match a.1, b.1 with
    | .text s, .text t => Text.le s t
    | _, _ => true

mutual

/-- What is shown of a value inside another one, which is part of a model or not. -/
def sketch (inModel : Bool) : Value → Except Integer.Fault Sketch
  | null => .ok (.atom "None")
  | bool b => .ok (.atom (if b then "True" else "False"))
  | int n => .atom <$> Integer.write n
  | float x => .ok (.atom (Floating.write .display x))
  | text t => .ok (.words t)
  | bytes b => .ok (.atom b.quoted)
  | date d => .ok (.atom d.quoted)
  | dateTime t => .ok (.atom t.quoted)
  | list items => .list <$> sketchItems inModel items
  | tuple items => .tuple <$> sketchItems inModel items
  | set items => (fun parts => .atom (showSet parts)) <$> sketchItems inModel items
  | map entries => do
    let parts ← sketchEntries inModel entries
    return .map ((if inModel then byKey parts else parts).map (·.2))
  | model _ attributes => do
    let parts ← sketchAttributes true attributes
    let members : Sketch := .map (parts.map fun (name, part) => (name.quoted, part))
    return if inModel then members else .atom members.wrapped
  | enclosing shape => .ok (.atom (showEnclosing shape))

def sketchItems (inModel : Bool) : List Value → Except Integer.Fault (List Sketch)
  | [] => .ok []
  | x :: xs => do
    let part ← sketch inModel x
    let parts ← sketchItems inModel xs
    return part :: parts

/-- The entries of a map, each with its key and the key as it is shown. -/
def sketchEntries (inModel : Bool) :
    List (Value × Value) → Except Integer.Fault (List (Value × Text × Sketch))
  | [] => .ok []
  | (k, v) :: rest => do
    let key ← sketch inModel k
    let value ← sketch inModel v
    let parts ← sketchEntries inModel rest
    return (k, key.line, value) :: parts

def sketchAttributes (inModel : Bool) :
    List (Text × Value) → Except Integer.Fault (List (Text × Sketch))
  | [] => .ok []
  | (name, v) :: rest => do
    let part ← sketch inModel v
    let parts ← sketchAttributes inModel rest
    return (name, part) :: parts

end

def quoted (v : Value) : Except Integer.Fault Text := Sketch.line <$> v.sketch false

/-- A value as it is shown at the top. -/
def display : Value → Except Integer.Fault Text
  | text t => .ok t
  | date d => .ok d.iso
  | dateTime t => .ok (t.iso ' ')
  | model _ attributes => do
    let parts ← sketchAttributes false attributes
    return Text.join " " (parts.map fun (name, part) => name ++ "=" ++ part.line)
  | v => v.quoted

end Value

end AdmissionGate
