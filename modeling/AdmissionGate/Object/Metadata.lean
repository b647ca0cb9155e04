/-
# AdmissionGate.Object.Metadata -- name, namespace, labels and annotations

The gate looks at nothing of an object but its metadata.  `Metadata.ofDocument`
takes them from a document of any kind of resource: the document has to be an
object, and its member `metadata` absent, null or an object in which name and
namespace are texts and labels and annotations maps from text to text, each of
them absent or null if need be.  The members are checked in that order and the
entries of a map in theirs, so the first misfit is the one reported.

`decode` does the same for the bytes of a JSON document.
-/
import AdmissionGate.Fault

namespace AdmissionGate

/-- A member of object metadata that is a map. -/
inductive MapField where
  | labels
  | annotations
  deriving DecidableEq, Repr

def MapField.name : MapField → Text
  | .labels => "labels"
  | .annotations => "annotations"

def MapField.getter (field : MapField) : Text := "get_" ++ field.name

def MapField.setter (field : MapField) : Text := "set_" ++ field.name

/-- Object metadata.  A name that is absent is empty and a map that is absent is null. -/
structure Metadata where
  name : Value := .text []
  «namespace» : Value := .text []
  labels : Value := .null
  annotations : Value := .null
  deriving Inhabited

namespace Metadata

def get (m : Metadata) : MapField → Value
  | .labels => m.labels
  | .annotations => m.annotations

def set (m : Metadata) (field : MapField) (v : Value) : Metadata :=
  match field with
  | .labels => { m with labels := v }
  | .annotations => { m with annotations := v }

def checkEntries (field : MapField) : Entries → Except Fault Unit
  | [] => .ok ()
  | (k, v) :: rest =>
    if k.isText && v.isText then checkEntries field rest
    else
      match k.quoted with
      | .ok key => .error (.decode (.entry field.name key v.typeName))
      | .error cause => .error (.integer cause)

/-- A member that is a map from text to text, or null. -/
def readMap (field : MapField) : Value → Except Fault Value
  | .null => .ok .null
  | .map entries =>
    match checkEntries field entries with
    | .ok () => .ok (.map entries)
    | .error fault => .error fault
  | v => .error (.decode (.map field.name v.typeName))

/-- A member that is a text; null counts as empty. -/
def readText (field : Text) : Value → Except Fault Value
  | .null => .ok (.text [])
  | .text t => .ok (.text t)
  | v => .error (.decode (.text field v.typeName))

def member (entries : Entries) (name : Text) : Value := (entries.get? name).getD .null

/-- The metadata in the member `metadata` of a document. -/
def ofEntries (entries : Entries) : Except Fault Metadata := do
  let name ← readText "name" (member entries "name")
  let space ← readText "namespace" (member entries "namespace")
  let labels ← readMap .labels (member entries "labels")
  let annotations ← readMap .annotations (member entries "annotations")
  return ⟨name, space, labels, annotations⟩

def ofDocument : Value → Except Fault Metadata
  | .map document =>
    match member document "metadata" with
    | .null => .ok {}
    | .map entries => ofEntries entries
    | v => .error (.decode (.metadata v.typeName))
  | v => .error (.decode (.document v.typeName))

/-- The metadata of the bytes of a JSON document. -/
def decode (bytes : Bytes) : Except Fault Metadata :=
  match Json.readBytes .standard bytes with
  | .ok document => ofDocument document
  | .error cause => .error (.decode (.json cause))

end Metadata

end AdmissionGate
