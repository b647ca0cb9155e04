/-
# AdmissionGate.Review -- admission requests captured as documents

A captured review is a document with an object `request`.  Its members become the
members of a `Request`: absent ones are empty, `userInfo` holds name and groups of
the user, and the two object states are encoded again as the bytes of JSON
documents, so that the gate sees what a server would send.

The document is anything with an `Outline`.
-/
import AdmissionGate.Gate.Validator
import AdmissionGate.Value.Outline

namespace AdmissionGate

namespace Review

variable {α : Type} [Outline α]

def textMember (d : α) (name : Text) : Value :=
  match Outline.member? d name with
  | some v => Outline.value v
  | none => .text []

/-- The member of a map, if it counts as given. -/
def given? (d : α) (name : Text) : Option α := (Outline.member? d name).filter Outline.isTruthy

/-- Members are looked up in maps only. -/
def checkMap (d : α) : Except Fault Unit :=
  if Outline.isMap d then .ok () else .error (.noAttribute (Outline.typeName d) "get")

/-- The kind at a member, if one is given. -/
def readKind (d : α) (name : Text) : Except Fault (Option ResourceKind) :=
  match given? d name with
  | none => .ok none
  | some k => do
    checkMap k
    return some ⟨textMember k "group", textMember k "version", textMember k "kind"⟩

/-- The name and the groups of the user, if there is one. -/
def readUser : Option α → Except Fault (Value × List Value)
  | none => .ok (.text [], [])
  | some user => do
    checkMap user
    let groups ←
      match given? user "groups" with
      | none => pure []
      | some groups => Outline.elements groups
    return (textMember user "username", groups)

/-- The state that a value is encoded again as; null is no state. -/
def encodeState (v : Value) : Except Fault ObjectState :=
  match v with
  | .null => .ok {}
  | v =>
    match Json.write v with
    | .ok t => .ok (.ofRaw (Encoding.asciiBytes t))
    | .error cause => .error (.write cause)

/-- The state at a member, encoded again; an absent one is no state. -/
def readState (d : α) (name : Text) : Except Fault ObjectState :=
  encodeState (((Outline.member? d name).map Outline.value).getD .null)

def requestOf (review : α) : Except Fault α :=
  match (Outline.member? review "request").filter Outline.isMap with
  | some r => .ok r
  | none => .error .noRequest

def read (review : α) : Except Fault Request := do
  let r ← requestOf review
  let kind ← readKind r "kind"
  let requestKind ← readKind r "requestKind"
  let (username, groups) ← readUser (given? r "userInfo")
  let new ← readState r "object"
  let old ← readState r "oldObject"
  return {
    operation := textMember r "operation"
    kind := kind.getD {}
    name := textMember r "name"
    «namespace» := textMember r "namespace"
    username := username
    groups := .list groups
    new := new
    old := old
    requestKind := requestKind
    subResource := textMember r "subResource"
    uid := textMember r "uid" }

end Review

end AdmissionGate
