/-
# AdmissionGate.Proofs.Review.Readable -- what reading a captured review can end in

Reading a review ends in a fault of its types if a member that is looked into is no
map, if the groups cannot be walked, or if the first thing in a captured object that
cannot be written is a key without a name (`IsReadable`).  It ends in a fault of a
value if a captured object holds an integer that is too large, or itself.  All other
reviews with a request are read (`read_cases`), whatever the types of their members:
these are left for the gate to look at.
-/
import AdmissionGate.Proofs.Json.Written
import AdmissionGate.Proofs.Gate.Answered
import AdmissionGate.Proofs.Review.Typed

namespace AdmissionGate

set_option autoImplicit false

namespace Review

variable {r : Yaml.Spot}

def IsWalkable (d : Yaml.Spot) : Prop := (Outline.value d).elements? ≠ none

/-- A user in a review: a map whose groups, if they are given, can be walked. -/
def IsReadableUser (d : Yaml.Spot) : Prop :=
  Outline.isMap d = true ∧ ∀ groups, given? d "groups" = some groups → IsWalkable groups

/-- The members of a captured request are of types in which they can be read. -/
structure IsReadable (r : Yaml.Spot) : Prop where
  kind : ∀ k, given? r "kind" = some k → Outline.isMap k = true
  requestKind : ∀ k, given? r "requestKind" = some k → Outline.isMap k = true
  userInfo : ∀ user, given? r "userInfo" = some user → IsReadableUser user
  object : Json.isMisnamed (valueAt r "object") = false
  /-- The old object is looked at only if the new one can be written. -/
  oldObject : Json.isWritable (valueAt r "object") = true →
    Json.isMisnamed (valueAt r "oldObject") = false

def AreEncodable (r : Yaml.Spot) : Prop :=
  Json.isWritable (valueAt r "object") = true ∧ Json.isWritable (valueAt r "oldObject") = true

/-! ## Steps of reading -/

/-- Something is read if its types and its values allow it; otherwise it is refused for a type, or,
if all types are right, for a value. -/
def ReadIf {α : Type} (typed usable : Prop) (post : α → Prop) (x : Except Fault α) : Prop :=
  (typed ∧ usable ∧ ∃ a, x = .ok a ∧ post a) ∨
    (typed ∧ ¬ usable ∧ ∃ fault, x = .error fault ∧ fault.isOfValue = true) ∨
    ¬ typed ∧ ∃ fault, x = .error fault ∧ fault.isOfValue = false

namespace ReadIf

variable {α β : Type} {typed usable alsoTyped alsoUsable : Prop} {p : α → Prop} {q : β → Prop}
  {x : Except Fault α}

theorem pure {a : α} (holds : p a) : ReadIf True True p (.ok a) :=
  .inl ⟨trivial, trivial, a, rfl, holds⟩

theorem refused {fault : Fault} (ofTypes : fault.isOfValue = false) :
    ReadIf False True p (.error fault) := .inr (.inr ⟨id, fault, rfl, ofTypes⟩)

/-- What is read later is looked at only if what is read first is. -/
theorem bind {f : α → Except Fault β} (read : ReadIf typed usable p x)
    (next : ∀ a, p a → ReadIf alsoTyped alsoUsable q (f a)) :
    ReadIf (typed ∧ (usable → alsoTyped)) (usable ∧ alsoUsable) q (x >>= f) := by
  rcases read with ⟨right, can, a, rfl, holds⟩ | ⟨right, cannot, fault, rfl, ofValue⟩ |
    ⟨wrong, fault, rfl, ofTypes⟩
  · rcases next a holds with ⟨alsoRight, alsoCan, more⟩ | ⟨alsoRight, cannot, more⟩ | ⟨wrong, more⟩
    · exact .inl ⟨⟨right, fun _ => alsoRight⟩, ⟨can, alsoCan⟩, more⟩
    · exact .inr (.inl ⟨⟨right, fun _ => alsoRight⟩, fun both => cannot both.2, more⟩)
    · exact .inr (.inr ⟨fun both => wrong (both.2 can), more⟩)
  · exact .inr (.inl ⟨⟨right, fun can => absurd can cannot⟩, fun both => cannot both.1, fault, rfl,
      ofValue⟩)
  · exact .inr (.inr ⟨fun both => wrong both.1, fault, rfl, ofTypes⟩)

theorem congr {same sameUsable : Prop} (read : ReadIf typed usable p x) (iff : typed ↔ same)
    (usableIff : usable ↔ sameUsable) : ReadIf same sameUsable p x := by
  rwa [propext iff, propext usableIff] at read

end ReadIf

/-! ## The members -/

/-- Nothing is asked of what is read. -/
abbrev anything {α : Type} : α → Prop := fun _ => True

theorem readIf_elements (d : Yaml.Spot) :
    ReadIf (IsWalkable d) True anything (Outline.elements d) := by
  have opened : Outline.elements d = d.elements := rfl
  have spelled : Outline.value d = d.graph.value d.number := rfl
  rw [IsWalkable, opened, spelled, Yaml.Spot.elements, Yaml.Graph.value, Yaml.Graph.valueInside,
    Yaml.Spot.cell]
  cases d.graph.cell d.number with
  | scalar v =>
      simp only [Value.elements]
      cases v.elements? with
      | none => exact (ReadIf.refused rfl).congr (by simp) Iff.rfl
      | some items => exact (ReadIf.pure trivial).congr (by simp) Iff.rfl
  | _ => exact (ReadIf.pure trivial).congr (by simp [Value.elements?]) Iff.rfl

theorem readIf_checkMap (d : Yaml.Spot) :
    ReadIf (Outline.isMap d = true) True anything (checkMap d) := by
  unfold checkMap
  split
  · exact (ReadIf.pure trivial).congr (by simp [*]) Iff.rfl
  · exact (ReadIf.refused rfl).congr (by simp [*]) Iff.rfl

theorem readIf_readKind (r : Yaml.Spot) (name : Text) :
    ReadIf (∀ k, given? r name = some k → Outline.isMap k = true) True anything
      (readKind r name) := by
  unfold readKind
  cases given? r name with
  | none => exact (ReadIf.pure trivial).congr (by simp) Iff.rfl
  | some k =>
      exact ((readIf_checkMap k).bind fun _ _ => .pure trivial).congr (by simp) (by simp)

theorem readIf_readUser (d : Option Yaml.Spot) :
    ReadIf (∀ user, d = some user → IsReadableUser user) True anything (readUser d) := by
  cases d with
  | none => exact (ReadIf.pure trivial).congr (by simp) Iff.rfl
  | some user =>
      cases given : given? user "groups" with
      | none =>
          have opened : readUser (some user) =
              checkMap user >>= fun _ => .ok (textMember user "username", []) := by
            simp only [readUser, given]
            rfl
          rw [opened]
          refine ((readIf_checkMap user).bind fun _ _ => .pure trivial).congr ?_ (by simp)
          simp [IsReadableUser, given]
      | some groups =>
          have opened : readUser (some user) = checkMap user >>= fun _ =>
              Outline.elements groups >>= fun items => .ok (textMember user "username", items) := by
            simp only [readUser, given]
            rfl
          rw [opened]
          refine ((readIf_checkMap user).bind fun _ _ =>
            (readIf_elements groups).bind fun _ _ => .pure trivial).congr ?_ (by simp)
          simp [IsReadableUser, given]

/-- A captured object is encoded, or it is refused for a key without a name or for a value. -/
theorem readIf_encodeState (v : Value) :
    ReadIf (Json.isMisnamed v = false) (Json.isWritable v = true) (·.live = none)
      (encodeState v) := by
  unfold encodeState
  split
  · exact .inl ⟨rfl, rfl, {}, rfl, rfl⟩
  · rcases Json.writtenIf_write v with ⟨writable, named, t, written⟩ |
      ⟨unwritable, misnamed, typeName, refused⟩ | ⟨unwritable, named, refused | refused⟩
    · rw [written]
      exact .inl ⟨named, writable, _, rfl, rfl⟩
    · rw [refused]
      exact .inr (.inr ⟨by simp [misnamed], _, rfl, rfl⟩)
    · rw [refused]
      exact .inr (.inl ⟨named, Bool.eq_false_iff.1 unwritable, _, rfl, rfl⟩)
    · rw [refused]
      exact .inr (.inl ⟨named, Bool.eq_false_iff.1 unwritable, _, rfl, rfl⟩)

/-- **What becomes of a review with a request.**  It is read if its members can be read and its
objects written; if its objects cannot be written it is refused for a value, and if its members
cannot be read for a type. -/
theorem readIf_read {review : Yaml.Spot} (found : requestOf review = .ok r) :
    ReadIf (IsReadable r) (AreEncodable r) Request.IsEncoded (read review) := by
  rw [read, found]
  refine ((readIf_readKind r "kind").bind fun kind _ =>
    (readIf_readKind r "requestKind").bind fun requestKind _ =>
    (readIf_readUser (given? r "userInfo")).bind fun user _ =>
    (readIf_encodeState (valueAt r "object")).bind fun new newRaw =>
    (readIf_encodeState (valueAt r "oldObject")).bind fun old oldRaw =>
    .pure ⟨newRaw, oldRaw⟩).congr ?_ ?_
  · simp only [true_imp_iff, imp_true_iff, and_true]
    exact ⟨fun ⟨kind, requestKind, userInfo, object, oldObject⟩ =>
      ⟨kind, requestKind, userInfo, object, oldObject⟩,
      fun h => ⟨h.kind, h.requestKind, h.userInfo, h.object, h.oldObject⟩⟩
  · simp only [true_and, and_true, AreEncodable]

end Review

end AdmissionGate
