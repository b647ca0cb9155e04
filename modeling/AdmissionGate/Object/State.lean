/-
# AdmissionGate.Object.State -- the state of an object in a request

A request carries the state of its object before and after the operation, each as
a live object, as the bytes of a JSON document, as both or as neither.  A live
object wins over bytes, and no bytes count as no state.  `extract` reads labels
and annotations from whatever there is; nothing gives null for both.
-/
import AdmissionGate.Object.Live
import AdmissionGate.Object.Model

namespace AdmissionGate

structure ObjectState where
  live : Option LiveObject := none
  raw : Bytes := []

namespace ObjectState

def empty : ObjectState := {}

def ofLive (object : LiveObject) : ObjectState := { live := some object }

def ofRaw (raw : Bytes) : ObjectState := { raw := raw }

/-- The state of a client model or a plain document; of null there is none. -/
def ofModel : Value → ObjectState
  | .null => empty
  | v => ofLive (.document (Model.document v))

/-- The state that a client makes of a model or a plain document. -/
def adapt (v : Value) : Except Fault ObjectState := do
  Model.check v
  return ofModel v

def isEmpty (s : ObjectState) : Bool := s.live.isNone && s.raw.isEmpty

def extract (s : ObjectState) : Except Fault (Value × Value) :=
  match s.live with
  | some object => do
    let labels ← object.get .labels
    let annotations ← object.get .annotations
    return (labels, annotations)
  | none =>
    if s.raw.isEmpty then .ok (.null, .null)
    else do
      let m ← Metadata.decode s.raw
      return (m.labels, m.annotations)

end ObjectState

end AdmissionGate
