/-
# AdmissionGate.Session -- working with a live object

A client works with one live object: it reads and sets labels and annotations,
changes maps that it has in hand, and puts the object before the gate.

A map in hand may be the client's own, or it may be the one that the object holds,
and then a change to it is a change to the object; `Held` says which of the two it
is.  Reading a document gives a copy of its map, and setting takes one.  Object
metadata hand out the map that they hold; they have no setters, and their members
are fixed.
-/
import AdmissionGate.Gate.Validator

namespace AdmissionGate

inductive Held where
  | nothing
  /-- A value of its own. -/
  | copy (v : Value)
  /-- The map at a member of the object. -/
  | shared (field : MapField)

/-- A client at work with an object. -/
structure Session where
  object : LiveObject
  /-- What was read last. -/
  got : Held := .nothing
  /-- What was passed to a setter last. -/
  passed : Held := .nothing

namespace Session

inductive Step where
  | get (field : MapField)
  | set (field : MapField) (value : Value)
  /-- Change an entry of the map that was read last. -/
  | changeGot (key value : Value)
  /-- Change an entry of the map that was passed last. -/
  | changePassed (key value : Value)
  /-- Replace a member of the object. -/
  | assign (member value : Value)
  | extract
  /-- Put the object before a gate, as the state after an operation. -/
  | decide (operation username users : Value)

inductive Answer where
  | nothing
  | value (v : Value)
  | maps (labels annotations : Value)
  /-- There is no map in hand that could be changed. -/
  | noMap
  | verdict (v : Verdict)

/-- Change an entry of a value, if it is a map. -/
def changeEntry (v key value : Value) : Except Fault (Option Value) :=
  match v with
  | .map entries =>
    match key.unhashable? with
    | some typeName => .error (.unhashable typeName)
    | none => .ok (some (.map (Entries.insert entries key value)))
  | _ => .ok none

/-- What a client has in hand after it read a map: a document gives a copy. -/
def heldAfterGet (object : LiveObject) (field : MapField) (v : Value) : Held :=
  match object with
  | .document _ _ => .copy v
  | .metadata _ => .shared field

/-- What a client has in hand after it passed a value to a setter: a document keeps a copy, and
object metadata keep nothing. -/
def heldAfterSet (v : Value) : Held := .copy v

def mapAt (object : LiveObject) (field : MapField) : Value :=
  match object with
  | .metadata m => m.get field
  | .document (.map entries) _ =>
    match Metadata.member entries "metadata" with
    | .map members => Metadata.member members field.name
    | _ => .null
  | .document _ _ => .null

def withMapAt (object : LiveObject) (field : MapField) (v : Value) : LiveObject :=
  match object with
  | .metadata m => .metadata (m.set field v)
  | .document (.map entries) beside =>
    match Metadata.member entries "metadata" with
    | .map members =>
      .document (.map (Entries.insert entries (.text "metadata")
        (.map (Entries.insert members (.text field.name) v)))) beside
    | _ => object
  | .document _ _ => object

def valueOf (object : LiveObject) : Held → Value
  | .nothing => .null
  | .copy v => v
  | .shared field => mapAt object field

/-- The object and what is in hand, after the value in hand has become another. -/
def replace (object : LiveObject) (held : Held) (v : Value) : LiveObject × Held :=
  match held with
  | .nothing => (object, .nothing)
  | .copy _ => (object, .copy v)
  | .shared field => (withMapAt object field v, .shared field)

/-- Change an entry of the value in hand, if it is a map. -/
def change (object : LiveObject) (held : Held) (key value : Value) :
    Except Fault Answer × LiveObject × Held :=
  match changeEntry (valueOf object held) key value with
  | .ok (some v) => (.ok .nothing, replace object held v)
  | .ok none => (.ok .noMap, object, held)
  | .error fault => (.error fault, object, held)

/-- The verdict on the object as the state after an operation. -/
def verdict (object : LiveObject) (operation username users : Value) : Except Fault Verdict := do
  let validator ← Validator.ofUsers users
  let decision ← validator.handle 0 {
    operation := operation
    kind := { kind := "K" }
    name := "n"
    «namespace» := "ns"
    username := username
    new := .ofLive object }
  return decision.verdict

/-- The answer to a step that changed the object or failed to. -/
def answerSet : Option Fault → Except Fault Answer
  | none => .ok .nothing
  | some fault => .error fault

def step (s : Session) : Step → Except Fault Answer × Session
  | .get field =>
    match s.object.get field with
    | .ok v => (.ok (.value v), { s with got := heldAfterGet s.object field v })
    | .error fault => (.error fault, s)
  | .set field value =>
    let (object, fault) := s.object.set field value
    (answerSet fault, { s with object := object, passed := heldAfterSet value })
  | .changeGot key value =>
    let (answer, object, got) := change s.object s.got key value
    (answer, { s with object := object, got := got })
  | .changePassed key value =>
    let (answer, object, passed) := change s.object s.passed key value
    (answer, { s with object := object, passed := passed })
  | .assign member value =>
    let (object, fault) := s.object.assign member value
    (answerSet fault, { s with object := object })
  | .extract =>
    match (ObjectState.ofLive s.object).extract with
    | .ok (labels, annotations) => (.ok (.maps labels annotations), s)
    | .error fault => (.error fault, s)
  | .decide operation username users =>
    match verdict s.object operation username users with
    | .ok v => (.ok (.verdict v), s)
    | .error fault => (.error fault, s)

end Session

end AdmissionGate
