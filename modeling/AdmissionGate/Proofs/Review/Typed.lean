/-
# AdmissionGate.Proofs.Review.Typed -- captured reviews with members of their types

A captured request is typed if its members are: texts, kinds, a user and two
objects, each of them absent or null where that is allowed (`IsTyped`).  This can be
decided, whatever the document.  What such a request says is read off the document:
the texts at its members, the user and the kinds, and labels and annotations of the
captured objects.
-/
import AdmissionGate.Proofs.Gate.Decision
import AdmissionGate.Proofs.Json.Exact
import AdmissionGate.Review
import AdmissionGate.Yaml.Graph

namespace AdmissionGate

set_option autoImplicit false

namespace Value

theorem all_isText_iff {items : List Value} :
    items.all isText = true ↔ ∃ names : List Text, items = names.map .text := by
  induction items with
  | nil => exact ⟨fun _ => ⟨[], rfl⟩, fun _ => rfl⟩
  | cons x rest ih =>
      rw [List.all_cons, Bool.and_eq_true, isText_iff, ih]
      constructor
      · rintro ⟨⟨t, rfl⟩, names, rfl⟩
        exact ⟨t :: names, rfl⟩
      · rintro ⟨names, same⟩
        obtain ⟨t, names, rfl, rfl, rfl⟩ := List.map_eq_cons_iff.1 same.symm
        exact ⟨⟨t, rfl⟩, names, rfl⟩

instance (v : Value) : Decidable (v = .null) :=
  match v with
  | .null => .isTrue rfl
  | .bool _ | .int _ | .float _ | .text _ | .bytes _ | .date _ | .dateTime _ | .list _ | .tuple _
  | .set _ | .map _ | .model _ _ | .enclosing _ => .isFalse nofun

end Value

namespace Review

/-- A member is a text, or absent. -/
def HasText (d : Yaml.Spot) (name : Text) : Prop := ∃ t, textMember d name = .text t

instance (d : Yaml.Spot) (name : Text) : Decidable (HasText d name) :=
  decidable_of_iff _ Value.isText_iff

/-- The text at a member; an absent one is empty. -/
def textAt (d : Yaml.Spot) (name : Text) : Text :=
  match textMember d name with
  | .text t => t
  | _ => []

/-- The value at a member; an absent one is null. -/
def valueAt (d : Yaml.Spot) (name : Text) : Value :=
  ((Outline.member? d name).map Outline.value).getD .null

/-- A member is absent, null, or something of which a property holds. -/
def HoldsAt (d : Yaml.Spot) (name : Text) (P : Yaml.Spot → Prop) : Prop :=
  ∀ m, Outline.member? d name = some m → Outline.value m = .null ∨ P m

instance (d : Yaml.Spot) (name : Text) (P : Yaml.Spot → Prop) [DecidablePred P] :
    Decidable (HoldsAt d name P) :=
  match found : Outline.member? d name with
  | none => .isTrue fun m impossible => by rw [found] at impossible; cases impossible
  | some m => decidable_of_iff (Outline.value m = .null ∨ P m) (by simp [HoldsAt, found])

/-- A map with the texts of a kind. -/
def IsKind (d : Yaml.Spot) : Prop :=
  Outline.isMap d = true ∧ HasText d "group" ∧ HasText d "version" ∧ HasText d "kind"

instance : DecidablePred IsKind := fun _ => inferInstanceAs (Decidable (_ ∧ _))

def AreNames (d : Yaml.Spot) : Prop :=
  ∃ names : List Text, Outline.value d = .list (names.map .text)

instance : DecidablePred AreNames := fun d =>
  match listed : Outline.value d with
  | .list items => decidable_of_iff (items.all Value.isText = true) <| by
      rw [AreNames, listed]
      simp only [Value.list.injEq, Value.all_isText_iff]
  | .null | .bool _ | .int _ | .float _ | .text _ | .bytes _ | .date _ | .dateTime _ | .tuple _
  | .set _ | .map _ | .model _ _ | .enclosing _ => .isFalse <| by
      rintro ⟨names, same⟩
      simp [listed] at same

/-- A map with the name and the groups of a user. -/
def IsUser (d : Yaml.Spot) : Prop :=
  Outline.isMap d = true ∧ HasText d "username" ∧ HoldsAt d "groups" AreNames

instance : DecidablePred IsUser := fun _ => inferInstanceAs (Decidable (_ ∧ _))

/-- A captured object: a tree that survives being written, at most 600 deep. -/
def IsObject (v : Value) : Prop := Json.isExact v = true ∧ Json.depth v ≤ 600

instance : DecidablePred IsObject := fun _ => inferInstanceAs (Decidable (_ ∧ _))

/-- A captured request whose members have their types. -/
structure IsTyped (r : Yaml.Spot) : Prop where
  uid : HasText r "uid"
  operation : HasText r "operation"
  subResource : HasText r "subResource"
  name : HasText r "name"
  «namespace» : HasText r "namespace"
  kind : HoldsAt r "kind" IsKind
  requestKind : HoldsAt r "requestKind" IsKind
  userInfo : HoldsAt r "userInfo" IsUser
  object : IsObject (valueAt r "object")
  oldObject : IsObject (valueAt r "oldObject")

instance (r : Yaml.Spot) : Decidable (IsTyped r) :=
  decidable_of_iff ((HasText r "uid" ∧ HasText r "operation" ∧ HasText r "subResource" ∧
      HasText r "name" ∧ HasText r "namespace") ∧
    (HoldsAt r "kind" IsKind ∧ HoldsAt r "requestKind" IsKind ∧ HoldsAt r "userInfo" IsUser) ∧
    IsObject (valueAt r "object") ∧ IsObject (valueAt r "oldObject"))
    ⟨fun ⟨⟨uid, operation, subResource, name, space⟩, ⟨kind, requestKind, userInfo⟩, new, old⟩ =>
      ⟨uid, operation, subResource, name, space, kind, requestKind, userInfo, new, old⟩,
    fun t => ⟨⟨t.uid, t.operation, t.subResource, t.name, t.namespace⟩,
      ⟨t.kind, t.requestKind, t.userInfo⟩, t.object, t.oldObject⟩⟩

/-! ## What it says -/

def usernameOf (r : Yaml.Spot) : Text :=
  match Outline.member? r "userInfo" with
  | some user => textAt user "username"
  | none => []

def kindAt (r : Yaml.Spot) (name : Text) : TypedKind :=
  match Outline.member? r name with
  | some k => ⟨textAt k "group", textAt k "version", textAt k "kind"⟩
  | none => {}

/-- Labels and annotations of a captured object; of null there are none. -/
def mapsOf (v : Value) : Except Fault (Value × Value) :=
  match v with
  | .null => .ok (.null, .null)
  | v => (Metadata.ofDocument v).map fun m => (m.labels, m.annotations)

end Review

end AdmissionGate
