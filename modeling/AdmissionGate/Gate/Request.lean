/-
# AdmissionGate.Gate.Request -- admission requests

A request says who wants to do what to which resource, with the states of the
object before and after.  Its members come from documents that nobody has
checked, so each is a `Value`; well-typed ones are texts.

A resource kind has three shapes as text: the kind alone without group and
version, `version, Kind=kind` without a group, `group/version, Kind=kind` with one.
-/
import AdmissionGate.Object.State

namespace AdmissionGate

/-- The kind of a resource: an API group, a version of it and a kind in that. -/
structure ResourceKind where
  group : Value := .text []
  version : Value := .text []
  kind : Value := .text []
  deriving Inhabited

def ResourceKind.shown (k : ResourceKind) : Except Fault Text :=
  if k.group.isTruthy then do
    let group ← k.group.shown
    let version ← k.version.shown
    let kind ← k.kind.shown
    return group ++ "/" ++ version ++ ", Kind=" ++ kind
  else if k.version.isTruthy then do
    let version ← k.version.shown
    let kind ← k.kind.shown
    return version ++ ", Kind=" ++ kind
  else
    match k.kind with
    | .text t => .ok t
    | v => .error (.kindNotText v.qualifiedTypeName)

structure Request where
  operation : Value
  kind : ResourceKind := {}
  name : Value := .text []
  «namespace» : Value := .text []
  username : Value := .text []
  groups : Value := .list []
  /-- The state of the object after the operation. -/
  new : ObjectState := {}
  /-- The state of the object before the operation. -/
  old : ObjectState := {}
  /-- The kind that the client asked for, if it was converted. -/
  requestKind : Option ResourceKind := none
  subResource : Value := .text []
  uid : Value := .text []

namespace Request

/-- The name, after the namespace and a slash if there is a namespace. -/
def namespacedName (r : Request) : Except Fault Value :=
  if r.namespace.isTruthy then do
    let space ← r.namespace.shown
    let name ← r.name.shown
    return .text (space ++ "/" ++ name)
  else .ok r.name

/-- The kind that logs give: the one asked for, or the request's own. -/
def shownKind (r : Request) : ResourceKind := r.requestKind.getD r.kind

end Request

end AdmissionGate
