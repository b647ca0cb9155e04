/-
# AdmissionGate.Proofs.Object.Refused -- setting that fails

Setting a map makes sure first that there are metadata, and only what comes after that
can fail: the value may spell no entries, and the metadata may be no map
(`set_fails_iff`).  Nothing has been stored by then, so a failing call leaves the object
as it was, or a document without metadata with empty ones behind its other members
(`LeftBy`).

Whoever reads takes absent metadata for empty ones.  So each map is read as before, and
the gate, which does nothing but read, answers as before, whatever the fault was
(`set_failed_unseen`).
-/
import AdmissionGate.Proofs.Gate.Presented
import AdmissionGate.Proofs.Object.Setting
import AdmissionGate.Session

namespace AdmissionGate

set_option autoImplicit false

/-! ## Members that are absent -/

namespace Entries

variable {entries : Entries} {name : Text}

theorem same_eq_false_of_absent (absent : entries.get? name = none) :
    ∀ entry ∈ entries, entry.1.same (.text name) = false := by
  induction entries with
  | nil => simp
  | cons entry rest ih =>
      obtain ⟨k, v⟩ := entry
      rw [get?_cons] at absent
      cases same : k.same (.text name) with
      | true => simp [same] at absent
      | false =>
          simp only [same, Bool.false_eq_true, if_false] at absent
          exact List.forall_mem_cons.2 ⟨same, ih absent⟩

/-- A new entry goes behind the others. -/
theorem insert_of_absent (absent : entries.get? name = none) (v : Value) :
    entries.insert (.text name) v = entries ++ [(.text name, v)] :=
  Json.insert_of_fresh (same_eq_false_of_absent absent) v

end Entries

namespace Document

open Entries Metadata

/-- A document with empty metadata behind its members. -/
def withEmptyMetadata (entries : Entries) : Entries := entries ++ [(.text "metadata", .map [])]

variable {entries : Entries} {field : MapField} {value : Value}

/-! ## When setting fails -/

/-- A map can be stored in metadata, or removed from them, if they are a map. -/
theorem changed_fails_iff {metadata : Value} :
    (∃ fault, changed field value metadata = .error fault) ↔
      metadata.isMap = false ∨ value ≠ .null ∧ ∃ fault, Entries.ofValue value = .error fault := by
  have stores (new : Entries) :
      (∃ fault, storeMap field new metadata = .error fault) ↔ metadata.isMap = false := by
    cases metadata <;> simp [storeMap, Value.isMap]
  have erases : (∃ fault, eraseMap field metadata = .error fault) ↔ metadata.isMap = false := by
    cases metadata <;> simp [eraseMap, Value.isMap]
  by_cases null : value = .null
  · subst null
    simp only [changed, erases, ne_eq, not_true_eq_false, false_and, or_false]
  · cases spelled : Entries.ofValue value with
    | ok new =>
        have stored : changed field value metadata = storeMap field new metadata := by
          cases value with
          | null => exact absurd rfl null
          | _ => simp only [changed, spelled]
        rw [stored]
        simp [stores]
    | error fault =>
        have refused : changed field value metadata = .error fault := by
          cases value with
          | null => exact absurd rfl null
          | _ => simp only [changed, spelled]
        rw [refused]
        simp [null]

/-- The metadata that setting starts from are a map exactly if they can be set. -/
theorem isMap_withMetadata : (withMetadata entries).2.isMap = true ↔ AreSettable entries := by
  unfold withMetadata AreSettable
  cases entries.get? "metadata" with
  | none => simp [Value.isMap]
  | some metadata => cases metadata <;> simp [Value.isMap]

theorem set_map (entries : Entries) (field : MapField) (value : Value) :
    set (.map entries) field value =
      match changed field value (withMetadata entries).2 with
      | .ok metadata =>
        (.map ((withMetadata entries).1.insert (.text "metadata") metadata), none)
      | .error fault => (.map (withMetadata entries).1, some fault) := rfl

/-- **Setting fails exactly if the metadata are there and no map, or the value spells no
entries.** -/
theorem set_fails_iff :
    (∃ after fault, set (.map entries) field value = (after, some fault)) ↔
      ¬ AreSettable entries ∨ value ≠ .null ∧ ∃ fault, Entries.ofValue value = .error fault := by
  rw [← isMap_withMetadata, Bool.not_eq_true, ← changed_fails_iff, set_map]
  cases changed field value (withMetadata entries).2 with
  | ok metadata => simp
  | error fault => simp

/-! ## What it leaves -/

theorem withMetadata_cases (entries : Entries) :
    (withMetadata entries).1 = entries ∨
      entries.get? "metadata" = none ∧
        (withMetadata entries).1 = withEmptyMetadata entries := by
  unfold withMetadata
  cases found : entries.get? "metadata" with
  | none => exact .inr ⟨rfl, insert_of_absent found _⟩
  | some metadata => exact .inl rfl

/-- A failing call has done no more than make sure that there are metadata. -/
theorem set_failed {content after : Value} {fault : Fault}
    (failed : set content field value = (after, some fault)) :
    after = content ∨
      ∃ entries : Entries, content = .map entries ∧ entries.get? "metadata" = none ∧
        after = .map (withEmptyMetadata entries) := by
  cases content with
  | map entries =>
      rw [set_map] at failed
      cases stored : changed field value (withMetadata entries).2 with
      | ok metadata => simp [stored] at failed
      | error cause =>
          rw [stored] at failed
          cases failed
          rcases withMetadata_cases entries with same | ⟨absent, appended⟩
          · exact .inl (congrArg Value.map same)
          · exact .inr ⟨entries, rfl, absent, congrArg Value.map appended⟩
  | _ =>
      cases failed
      exact .inl rfl

/-- Absent metadata are read like empty ones. -/
theorem get_append_metadata (absent : entries.get? "metadata" = none) (field : MapField) :
    get (.map (withEmptyMetadata entries)) field = get (.map entries) field := by
  rw [withEmptyMetadata, ← insert_of_absent absent, get_insert, get_eq, member, member, absent]
  rfl

end Document

namespace LiveObject

/-- What a failing call may leave of an object: the object itself, or a document that had no
metadata with empty ones behind its other members. -/
inductive LeftBy (object : LiveObject) : LiveObject → Prop
  | unchanged : LeftBy object object
  | emptied {entries : Entries} {beside : List (Text × Value)}
      (held : object = .document (.map entries) beside)
      (absent : entries.get? "metadata" = none) :
      LeftBy object (.document (.map (Document.withEmptyMetadata entries)) beside)

variable {object after : LiveObject} {field : MapField} {value : Value} {fault : Fault}

theorem leftBy_of_set_failed (failed : object.set field value = (after, some fault)) :
    LeftBy object after := by
  cases object with
  | metadata m =>
      cases failed
      exact .unchanged
  | document content beside =>
      rw [set] at failed
      split at failed
      · cases done : Document.set content field value with
        | mk left outcome =>
            rw [done] at failed
            cases failed
            rcases Document.set_failed done with rfl | ⟨entries, rfl, absent, rfl⟩
            · exact .unchanged
            · exact .emptied rfl absent
      · cases failed
        exact .unchanged

/-- Both maps are read as before. -/
theorem LeftBy.get_eq (left : LeftBy object after) (field : MapField) :
    after.get field = object.get field := by
  cases left with
  | unchanged => rfl
  | emptied held absent =>
      subst held
      rw [get, get, Document.get_append_metadata absent]

/-- What stands at either map is what stood there, of whatever type it is. -/
theorem LeftBy.mapAt_eq (left : LeftBy object after) (field : MapField) :
    Session.mapAt after field = Session.mapAt object field := by
  cases left with
  | unchanged => rfl
  | emptied held absent =>
      subst held
      rw [Document.withEmptyMetadata, ← Entries.insert_of_absent absent, Session.mapAt,
        Session.mapAt, Metadata.member, Metadata.member, Entries.get?_insert_self, absent]
      rfl

theorem LeftBy.extract_eq (left : LeftBy object after) (raw : Bytes) :
    ObjectState.extract ⟨some after, raw⟩ = ObjectState.extract ⟨some object, raw⟩ := by
  simp only [ObjectState.extract, left.get_eq]

/-- **A call that fails is not seen.**  Setting a map of a document fails exactly if the metadata
are there and no map, or the value spells no entries.  Whatever the object is and whatever is set,
a failing call leaves the object as it was, or a document that had no metadata with empty ones
behind its other members.  So what stands at each map still stands there and both maps are read as
before, with the same fault if reading them fails; and the gate answers every request alike, whether
the object is its new or its old state. -/
theorem set_failed_unseen :
    (∀ (entries : Entries) (field : MapField) (value : Value),
      (∃ after fault, set (.document (.map entries)) field value = (after, some fault)) ↔
        ¬ Document.AreSettable entries ∨
          value ≠ .null ∧ ∃ fault, Entries.ofValue value = .error fault) ∧
    ∀ (object after : LiveObject) (field : MapField) (value : Value) (fault : Fault),
      object.set field value = (after, some fault) →
        LeftBy object after ∧
        (∀ other, Session.mapAt after other = Session.mapAt object other) ∧
        (∀ other, after.get other = object.get other) ∧
        (∀ raw, ObjectState.extract ⟨some after, raw⟩ = ObjectState.extract ⟨some object, raw⟩) ∧
        ∀ (v : Validator) (verbosity : Nat) (r : Request) (raw : Bytes),
          v.handle verbosity { r with new := ⟨some after, raw⟩ } =
              v.handle verbosity { r with new := ⟨some object, raw⟩ } ∧
            v.handle verbosity { r with old := ⟨some after, raw⟩ } =
              v.handle verbosity { r with old := ⟨some object, raw⟩ } := by
  refine ⟨fun entries field value => ?_, fun object after field value fault failed => ?_⟩
  · have opened : set (.document (.map entries)) field value =
        (.document (Document.set (.map entries) field value).1,
          (Document.set (.map entries) field value).2) := rfl
    rw [← @Document.set_fails_iff entries field value, opened]
    simp [Prod.ext_iff]
  · have left := leftBy_of_set_failed failed
    refine ⟨left, left.mapAt_eq, left.get_eq, left.extract_eq, fun v verbosity r raw => ?_⟩
    have same := left.extract_eq raw
    exact ⟨v.handle_congr verbosity r same rfl, v.handle_congr verbosity r rfl same⟩

/-- A list of entries of which only the first is a pair. -/
def brokenPairs : Value := .list [.tuple [.text "managed-by", .text "arm"], .int 5]

theorem set_failed_unseen_brokenPairs :
    let pod : LiveObject := .document (.map [("kind", "Pod")])
    let left : LiveObject := .document (.map [("kind", "Pod"), ("metadata", .map [])])
    (pod.set .labels brokenPairs = (left, some (.entryNotPair 1)) ∧
        ¬ ∃ after,
          pod.set .labels (.map [("managed-by", "arm")]) = (after, some (.entryNotPair 1))) ∧
      left.get .labels = .ok .null ∧
      ∀ (v : Validator) (verbosity : Nat) (r : Request),
        v.handle verbosity { r with new := .ofLive left } =
          v.handle verbosity { r with new := .ofLive pod } := by
  intro pod left
  have failed : pod.set .labels brokenPairs = (left, some (.entryNotPair 1)) := rfl
  have stored : ¬ ∃ after, pod.set .labels (.map [("managed-by", "arm")]) =
      (after, some (.entryNotPair 1)) := by
    rintro ⟨after, impossible⟩
    cases impossible
  obtain ⟨-, -, reads, -, answers⟩ := set_failed_unseen.2 pod left .labels brokenPairs _ failed
  refine ⟨⟨failed, stored⟩, ?_, fun v verbosity r => (answers v verbosity r []).1⟩
  rw [reads .labels]
  rfl

end LiveObject

end AdmissionGate
