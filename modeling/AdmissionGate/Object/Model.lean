/-
# AdmissionGate.Object.Model -- objects that are client models

A client model has one attribute per member of the document it stands for.  In the
document an attribute without a value is absent, the others stand under their
document names in their order, and dates are texts.  The
same holds inside lists, tuples and maps, whose structure and keys are kept.

A set has no form in a document, so a client refuses a value in which one stands.
-/
import AdmissionGate.Fault

namespace AdmissionGate

namespace Model

/-- The rest of a document name: the code point after an underscore is a capital letter. -/
def capitalize : (afterUnderscore : Bool) → Text → Text
  | _, [] => []
  | afterUnderscore, c :: t =>
    if c = '_' then capitalize true t
    else
      let c := if afterUnderscore && 97 ≤ c.val && c.val ≤ 122 then c - 32 else c
      c :: capitalize false t

def memberName (name : Text) : Text := capitalize false name

def members (attributes : List (Text × Value)) : Entries :=
  attributes.map fun (name, v) => (.text (memberName name), v)

mutual

/-- A value in which every model is a map and every date a text. -/
def plain : Value → Value
  | .date d => .text d.iso
  | .dateTime t => .text (t.iso 'T')
  | .list items => .list (plainItems items)
  | .tuple items => .tuple (plainItems items)
  | .map entries => .map (plainEntries entries)
  | .model _ attributes => .map (members (plainAttributes attributes))
  | v => v

def plainItems : List Value → List Value
  | [] => []
  | x :: xs => plain x :: plainItems xs

/-- The entries of a map, with their keys as they are. -/
def plainEntries : List (Value × Value) → List (Value × Value)
  | [] => []
  | (k, v) :: rest => (k, plain v) :: plainEntries rest

/-- The attributes that have a value. -/
def plainAttributes : List (Text × Value) → List (Text × Value)
  | [] => []
  | (name, v) :: rest =>
    match v with
    | .null => plainAttributes rest
    | v => (name, plain v) :: plainAttributes rest

end

mutual

/-- Whether a set stands in a value, as far as models are looked for. -/
def holdsSet : Value → Bool
  | .set _ => true
  | .list items | .tuple items => itemsHoldSet items
  | .map entries => entriesHoldSet entries
  | .model _ attributes => attributesHoldSet attributes
  | _ => false

def itemsHoldSet : List Value → Bool
  | [] => false
  | x :: xs => holdsSet x || itemsHoldSet xs

def entriesHoldSet : List (Value × Value) → Bool
  | [] => false
  | (_, v) :: rest => holdsSet v || entriesHoldSet rest

def attributesHoldSet : List (Text × Value) → Bool
  | [] => false
  | (_, v) :: rest => holdsSet v || attributesHoldSet rest

end

/-- The document of a model or of a plain map; of any other value it is empty. -/
def document (v : Value) : Value :=
  match plain v with
  | .map entries => .map entries
  | _ => .map []

/-- Check that a client takes a value.  It looks for a model in whatever is neither a container nor
written as it is, and a set has none of the attributes of one. -/
def check (v : Value) : Except Fault Unit :=
  if holdsSet v then .error (.noAttribute "set" "openapi_types") else .ok ()

/-- The document that a client makes of a value. -/
def adapt (v : Value) : Except Fault Value := do
  check v
  return document v

end Model

end AdmissionGate
