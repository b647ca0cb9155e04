/-
# AdmissionGate.Value.Basic -- the values that documents are made of

Reviews, object documents and settings are dynamic data: nothing forces the
member that should hold a name to hold a text.  `Value` is the one type of such
data in this library.  A map is a list of entries in order of insertion in which
no two keys are the same; `Value.same` says when two keys are, and `insert`
keeps the first position and takes the last value.

A value may come from a document in which a container holds itself.  Such a
container is spelled out once, and `enclosing` stands for it inside itself.
-/
import AdmissionGate.Number.Floating
import AdmissionGate.Calendar

namespace AdmissionGate

/-- The kinds of container that can stand inside themselves. -/
inductive Shape where
  | list
  | tuple
  | map
  deriving DecidableEq, Repr

/-- The client models that an object state may be given as. -/
inductive ModelClass where
  | objectMeta
  | configMap
  | secret
  | namespace
  deriving DecidableEq, Repr

inductive Value where
  | null
  | bool (b : Bool)
  | int (n : Int)
  | float (x : Float)
  | text (t : Text)
  | bytes (b : Bytes)
  | date (d : Date)
  | dateTime (t : DateTime)
  | list (items : List Value)
  | tuple (items : List Value)
  | set (items : List Value)
  | map (entries : List (Value × Value))
  /-- A client model with all of its attributes, those without a value null. -/
  | model (cls : ModelClass) (attributes : List (Text × Value))
  /-- A container that this value stands inside. -/
  | enclosing (shape : Shape)
  deriving Inhabited

/-- The entries of a map, in order of insertion. -/
abbrev Entries := List (Value × Value)

instance : Coe Text Value := ⟨Value.text⟩
instance : Coe String Value := ⟨fun s => .text s⟩

def ModelClass.name : ModelClass → Text
  | .objectMeta => "V1ObjectMeta"
  | .configMap => "V1ConfigMap"
  | .secret => "V1Secret"
  | .namespace => "V1Namespace"

/-- The names of the attributes of a client model, in order. -/
def ModelClass.attributes : ModelClass → List Text
  | .objectMeta => [
    "annotations", "creation_timestamp", "deletion_grace_period_seconds", "deletion_timestamp",
    "finalizers", "generate_name", "generation", "labels", "managed_fields", "name", "namespace",
    "owner_references", "resource_version", "self_link", "uid"]
  | .configMap => ["api_version", "binary_data", "data", "immutable", "kind", "metadata"]
  | .secret => ["api_version", "data", "immutable", "kind", "metadata", "string_data", "type"]
  | .namespace => ["api_version", "kind", "metadata", "spec", "status"]

def Shape.typeName : Shape → Text
  | .list => "list"
  | .tuple => "tuple"
  | .map => "dict"

namespace Value

/-- The client model with some attributes; the others have no value. -/
def ofModel (cls : ModelClass) (given : List (Text × Value)) : Value :=
  .model cls (cls.attributes.map fun name => (name, (given.lookup name).getD .null))

/-- The name of a value's type.  Messages about the form of a document give this name. -/
def typeName : Value → Text
  | null => "NoneType"
  | bool _ => "bool"
  | int _ => "int"
  | float _ => "float"
  | text _ => "str"
  | bytes _ => "bytes"
  | date _ => "date"
  | dateTime _ => "datetime"
  | list _ => "list"
  | tuple _ => "tuple"
  | set _ => "set"
  | map _ => "dict"
  | model cls _ => cls.name
  | enclosing shape => shape.typeName

/-- The name of a value's type with the module that it belongs to, if there is one.  Messages about
what a value cannot do give this name. -/
def qualifiedTypeName : Value → Text
  | date _ => "datetime.date"
  | dateTime _ => "datetime.datetime"
  | v => v.typeName

/-- Whether a value counts as given: neither null, false, zero nor empty. -/
def isTruthy : Value → Bool
  | null => false
  | bool b => b
  | int n => n != 0
  | float x => x != 0
  | text t => !t.isEmpty
  | bytes b => !b.isEmpty
  | list items => !items.isEmpty
  | tuple items => !items.isEmpty
  | set items => !items.isEmpty
  | map entries => !entries.isEmpty
  | date _ | dateTime _ | model _ _ | enclosing _ => true

def isMap : Value → Bool
  | map _ => true
  | _ => false

def isText : Value → Bool
  | text _ => true
  | _ => false

def isUndefined : Value → Bool
  | float x => x.isNaN
  | _ => false

/-- Whether a floating-point number is this integer. -/
def floatIsInt (x : Float) (n : Int) : Bool :=
  if x.isNaN || x.isInf then false
  else if x == 0 then n == 0
  else
    let b := Floating.toBinary x
    Floating.isNegative x == decide (n < 0) &&
      match b.exponent with
      | .ofNat e => b.mantissa * Nat.pow 2 e == n.natAbs
      | .negSucc e => b.mantissa == n.natAbs * Nat.pow 2 (e + 1)

/-- The integer that a number without a fractional type is; truth values are 0 and 1. -/
def integer? : Value → Option Int
  | bool b => some (if b then 1 else 0)
  | int n => some n
  | _ => none

mutual

/-- Whether two keys are the same.  Numbers of any type are compared by amount, with the undefined
number as one of them, and times by instant; containers that cannot be keys are never the same. -/
def same : Value → Value → Bool
  | null, w => match w with | null => true | _ => false
  | text s, w => match w with | text t => s == t | _ => false
  | bytes s, w => match w with | bytes t => s == t | _ => false
  | date d, w => match w with | date e => d == e | _ => false
  | dateTime s, w => match w with | dateTime t => s.same t | _ => false
  | tuple xs, w => match w with | tuple ys => sameItems xs ys | _ => false
  | float x, w =>
    match w with
    | float y => x == y || (x.isNaN && y.isNaN)
    | w => w.integer?.any (floatIsInt x)
  | bool b, w =>
    match w with
    | float y => floatIsInt y (if b then 1 else 0)
    | w => w.integer? == some (if b then 1 else 0)
  | int n, w =>
    match w with
    | float y => floatIsInt y n
    | w => w.integer? == some n
  | list _, _ | set _, _ | map _, _ | model _ _, _ | enclosing _, _ => false

/-- Whether two lists of keys are the same, position by position. -/
def sameItems : List Value → List Value → Bool
  | [], ys => ys.isEmpty
  | x :: xs, ys =>
    match ys with
    | [] => false
    | y :: ys => same x y && sameItems xs ys

end

mutual

/-- The type that keeps a value from being a key or a member of a set, if one does. -/
def unhashable? : Value → Option Text
  | list _ => some "list"
  | set _ => some "set"
  | map _ => some "dict"
  | model cls _ => some cls.name
  | tuple items => unhashableItem? items
  | enclosing shape => some shape.typeName
  | _ => none

/-- The first such type among the items of a tuple. -/
def unhashableItem? : List Value → Option Text
  | [] => none
  | x :: xs => (unhashable? x).or (unhashableItem? xs)

end

/-- The members of a value that can be walked: items, keys, code points, bytes, or the attributes of
a model with their names. -/
def elements? : Value → Option (List Value)
  | list items | tuple items | set items => some items
  | map entries => some (entries.map (·.1))
  | text t => some (t.map fun c => .text [c])
  | bytes b => some (b.map fun n => .int n.toNat)
  | model _ attributes => some (attributes.map fun (name, v) => .tuple [.text name, v])
  | _ => none

end Value

namespace Entries

def get? (entries : Entries) (key : Text) : Option Value :=
  match entries with
  | [] => none
  | (k, v) :: rest =>
    match k with
    | .text t => if t = key then some v else Entries.get? rest key
    | _ => Entries.get? rest key

/-- Set the value at a key: an entry with the same key keeps its place and its key, and a new
entry goes to the end. -/
def insert (entries : Entries) (key value : Value) : Entries :=
  match entries with
  | [] => [(key, value)]
  | (k, v) :: rest =>
    if k.same key then (k, value) :: rest else (k, v) :: Entries.insert rest key value

def erase (entries : Entries) (key : Text) : Entries :=
  match entries with
  | [] => []
  | (k, v) :: rest =>
    match k with
    | .text t => if t = key then rest else (k, v) :: Entries.erase rest key
    | _ => (k, v) :: Entries.erase rest key

def ofList (pairs : List (Value × Value)) : Entries :=
  pairs.foldl (fun entries (k, v) => entries.insert k v) []

end Entries

end AdmissionGate
