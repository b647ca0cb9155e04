/-
# AdmissionGate.Value.Outline -- documents whose members can be looked up

A review may be a plain value or a place in a document whose containers can hold
themselves; `Outline` is what both offer.
-/
import AdmissionGate.Fault

namespace AdmissionGate

/-- A document whose members can be looked up. -/
class Outline (α : Type) where
  /-- The name of the type of a place, with its module. -/
  typeName : α → Text
  isMap : α → Bool
  isTruthy : α → Bool
  /-- The member of a map at a text key; a place that is no map has none. -/
  member? : α → Text → Option α
  /-- The elements of a place that can be walked. -/
  elements : α → Except Fault (List Value)
  /-- The whole value at a place. -/
  value : α → Value

instance : Outline Value where
  typeName := Value.qualifiedTypeName
  isMap := Value.isMap
  isTruthy := Value.isTruthy
  member? v name := match v with | .map entries => Entries.get? entries name | _ => none
  elements := Value.elements
  value := id

end AdmissionGate
