/-
# AdmissionGate.Gate.Validator -- the gate

An object is managed if its labels or its annotations map `managed-by` to `arm`.
Managed objects are mirrored from elsewhere: a request that creates or updates one
passes only if its user is whitelisted.  Every other operation passes, and so does
every request whose object is not managed afterwards; what it was before does not
matter, but it has to be readable.

`evaluate` decides over metadata that have been read, `Validator.handle` over a
request, with the entry that it adds to the log.
-/
import AdmissionGate.Gate.Log
import AdmissionGate.Gate.Request
import AdmissionGate.Gate.Verdict
import AdmissionGate.Gate.Whitelist

namespace AdmissionGate

def markerKey : Text := "managed-by"

def markerValue : Text := "arm"

def isManaged (m : Value) : Except Fault Bool :=
  if m.isTruthy then do
    let entries ← m.lookedUp
    return match entries.get? markerKey with
      | some (.text t) => t = markerValue
      | _ => false
  else .ok false

def denialReason (kind : ResourceKind) (name space : Value) : Except Fault Text := do
  let kind ← kind.shown
  let name ← name.shown
  let space ← space.shown
  return "resource " ++ kind ++ " \"" ++ name ++ "\" in namespace \"" ++ space ++
    "\" is managed by ARM and can only be modified by whitelisted users"

def isGuarded (operation : Value) : Except Fault Bool :=
  Whitelist.contains [.text "CREATE", .text "UPDATE"] operation

/-- Labels and annotations among the parts of some metadata; no parts and no metadata at all give
null for both. -/
def metadataParts : Option (List Value) → Except Fault (Value × Value)
  | none | some [] => .ok (.null, .null)
  | some [labels, annotations] => .ok (labels, annotations)
  | some [_] => .error (.tooFewParts 1)
  | some _ => .error .tooManyParts

/-- Whether labels or annotations have the marker; the annotations are looked at only if the labels
do not. -/
def anyManaged (labels annotations : Value) : Except Fault Bool := do
  if ← isManaged labels then return true
  isManaged annotations

/-- The parts of some metadata; null stands for no metadata. -/
def partsOf (metadata : Value) : Except Fault (Option (List Value)) :=
  match metadata with
  | .null => .ok none
  | metadata => some <$> metadata.elements

/-- What the gate is asked to decide, apart from who may pass. -/
structure Question where
  operation : Value
  /-- Labels and annotations of the object after the operation. -/
  new : Option (List Value)
  requester : Value
  kind : ResourceKind
  name : Value
  «namespace» : Value

def judge (q : Question) (w : Whitelist) : Except Fault Verdict := do
  if ← w.contains q.requester then return .allow (.text [])
  let reason ← denialReason q.kind q.name q.namespace
  return .deny (.text reason)

def needsWhitelist (q : Question) : Except Fault Bool := do
  if ← isGuarded q.operation then
    let (labels, annotations) ← metadataParts q.new
    anyManaged labels annotations
  else return false

/-- The verdict on a question, and what is left of the source of users; the source is consulted only
if the whitelist decides. -/
def evaluate (q : Question) (users : Users) : Except Fault Verdict × Users :=
  match needsWhitelist q with
  | .error fault => (.error fault, users)
  | .ok false => (.ok (.allow (.text [])), users)
  | .ok true =>
    let (whitelist, users) := users.consult
    (whitelist >>= judge q, users)

structure Validator where
  whitelist : Whitelist

/-- A verdict with what it adds to the log. -/
structure Decision where
  verdict : Verdict
  log : Text

namespace Validator

/-- The gate that lets the given users pass. -/
def ofUsers (users : Value) : Except Fault Validator := do
  let whitelist ← Whitelist.ofValue users
  return ⟨whitelist⟩

def logFields (r : Request) (name : Value) : List Log.Field := [
  ("user", r.username.shown),
  ("groups", r.groups.shown),
  ("operation", r.operation.shown),
  ("GVK", r.shownKind.shown),
  ("subResource", r.subResource.shown),
  ("namespacedName", name.shown)
]

/-- The labels and annotations after the operation; those before it are read as well, second. -/
def extractBoth (r : Request) : Except Fault (Value × Value) := do
  let new ← r.new.extract
  let _ ← r.old.extract
  return new

/-- The verdict on a request whose metadata have been read. -/
def decide (v : Validator) (r : Request) (labels annotations : Value) : Except Fault Verdict :=
  (evaluate {
    operation := r.operation
    new := some [labels, annotations]
    requester := r.username
    kind := r.kind
    name := r.name
    «namespace» := r.namespace } (.given (.set v.whitelist))).1

/-- Decide on a request.  An object that cannot be decoded makes the verdict an error; a request of
the wrong types is a fault. -/
def handle (v : Validator) (verbosity : Nat) (r : Request) : Except Fault Decision := do
  let name ← r.namespacedName
  let fields := logFields r name
  if ← isGuarded r.operation then
    match extractBoth r with
    | .error (.decode cause) =>
      let log ← Log.emit verbosity 2 "failed to get labels and annotations"
        (("err", .ok cause.message) :: fields)
      return ⟨.error (.int 500) cause.message, log⟩
    | .error fault => throw fault
    | .ok (labels, annotations) =>
      let verdict ← v.decide r labels annotations
      let log ←
        if verdict.isAllowed then Log.emit verbosity 3 "managed resource request allowed" fields
        else Log.emit verbosity 2 "managed resource request denied" fields
      return ⟨verdict, log⟩
  else
    let log ← Log.emit verbosity 3 "operation is not guarded, allowing" fields
    return ⟨.allow (.text []), log⟩

end Validator

end AdmissionGate
