/-
# AdmissionGate.Proofs.Object.Setting -- reading a document after setting it

Labels and annotations of a document can be set wherever they can be read, unless its
`metadata` are null: reading takes null for no metadata, and setting refuses it.  Where
setting is not refused it obeys the laws of a member that is read and written: the map
that was set is what is read, the other map and every other member stay as they are, of
two maps set at one member the second stays, and the two members can be set in any order
(`set_lawful`).  All of this follows from what is left in the metadata (`set_eq`) by the
laws of `Entries.put`.
-/
import AdmissionGate.Object.Document
import AdmissionGate.Proofs.Object.State
import AdmissionGate.Proofs.Value.Entries

namespace AdmissionGate

set_option autoImplicit false

namespace Document

open Metadata Entries

/-- The members of the metadata of a document, which has none if it has no metadata. -/
def membersIn (entries : Entries) : Entries :=
  match entries.get? "metadata" with
  | some (.map members) => members
  | _ => []

/-- Metadata in which a map can be set: they are absent or a map. -/
def AreSettable (entries : Entries) : Prop :=
  entries.get? "metadata" = none ∨
    ∃ members : Entries, entries.get? "metadata" = some (.map members)

/-- Two documents that differ at most in the order of the members of their metadata. -/
def EqualUpToOrder (a b : Value) : Prop :=
  ∃ entries members permuted : Entries, members.Perm permuted ∧
    a = .map (entries.insert (.text "metadata") (.map members)) ∧
    b = .map (entries.insert (.text "metadata") (.map permuted))

/-- A document has become another one, with every member left alone but for a map in its
metadata. -/
structure LeavesOthers (field : MapField) (before after : Entries) : Prop where
  document : others after "metadata" = others before "metadata"
  metadata : others (membersIn after) field.name = others (membersIn before) field.name

/-- Why a map cannot be set in metadata that are null. -/
def refusalOfNull : Value → Fault
  | .null => .noAttribute "NoneType" "pop"
  | _ => .noEntries "NoneType"

section Setting

variable {entries : Entries} {field other : MapField} {v : Value}

theorem name_ne (different : other ≠ field) : other.name ≠ field.name := by
  intro same
  apply different
  revert same
  cases other <;> cases field <;> decide

/-! ## What is left in the metadata -/

/-- A map from text to text, or null, is put among the members. -/
theorem changed_eq (typed : v.IsStringMap) (field : MapField) (members : Entries) :
    changed field v (.map members) = .ok (.map (members.put field.name v)) := by
  rcases typed with rfl | ⟨pairs, rfl, -⟩ <;> rfl

/-- Metadata from which a map can be read are null or can be set. -/
theorem metadata_cases (readable : ∃ v, get (.map entries) field = .ok v) :
    entries.get? "metadata" = some .null ∨ AreSettable entries := by
  obtain ⟨v, read⟩ := readable
  rw [get_eq, member] at read
  cases found : entries.get? "metadata" with
  | none => exact .inr (.inl found)
  | some metadata =>
      rw [found] at read
      cases metadata with
      | null => exact .inl rfl
      | map members => exact .inr (.inr ⟨members, found⟩)
      | _ => cases read

/-- **Setting a map puts it among the members of the metadata.** -/
theorem set_eq (settable : AreSettable entries) (typed : v.IsStringMap) (field : MapField) :
    set (.map entries) field v =
      (.map (entries.insert (.text "metadata") (.map ((membersIn entries).put field.name v))),
        none) := by
  rcases settable with absent | ⟨members, found⟩
  · rw [set, withMetadata, membersIn, absent]
    simp only [changed_eq typed, insert_insert]
  · rw [set, withMetadata, membersIn, found]
    simp only [changed_eq typed]

theorem set_of_null (null : entries.get? "metadata" = some .null) (typed : v.IsStringMap)
    (field : MapField) : set (.map entries) field v = (.map entries, some (refusalOfNull v)) := by
  rw [set, withMetadata, null]
  rcases typed with rfl | ⟨pairs, rfl, -⟩ <;> rfl

@[simp] theorem membersIn_insert (entries members : Entries) :
    membersIn (entries.insert (.text "metadata") (.map members)) = members := by
  simp [membersIn]

theorem areSettable_insert (entries members : Entries) :
    AreSettable (entries.insert (.text "metadata") (.map members)) :=
  .inr ⟨members, get?_insert_self _ _ _⟩

/-! ## What is read of it -/

/-- A map is read of the members of the metadata. -/
theorem get_eq_readMap (settable : AreSettable entries) (field : MapField) :
    get (.map entries) field = readMap field (member (membersIn entries) field.name) := by
  rw [get_eq, membersIn, member]
  rcases settable with absent | ⟨members, found⟩
  · rw [absent]
    rfl
  · rw [found]
    exact (readMap_eq field _).symm

theorem readMap_of_isStringMap (typed : v.IsStringMap) (field : MapField) :
    readMap field v = .ok v := by
  rw [readMap_eq, mapFaults_eq_nil.2 typed]
  rfl

theorem get_insert (entries members : Entries) (field : MapField) :
    get (.map (entries.insert (.text "metadata") (.map members))) field =
      readMap field (member members field.name) := by
  simp [get_eq_readMap (areSettable_insert entries members)]

/-! ## Setting twice -/

/-- Setting a map after another one leaves a trace of both in the members only. -/
theorem set_set_eq {members : Entries} (typed : v.IsStringMap) (field : MapField) :
    set (.map (entries.insert (.text "metadata") (.map members))) field v =
      (.map (entries.insert (.text "metadata") (.map (members.put field.name v))), none) := by
  simp [set_eq (areSettable_insert entries members) typed]

end Setting

/-- **What can be read can be set, unless the metadata are null, and what was set is read.**  Of a
document both maps can be read.  Then a map from text to text, or null, can be set: afterwards it is
read, the other map is read as before, and no other member has changed; setting the same map again
leaves what the second call alone would leave, and the two maps can be set in any order, but for the
order of the members.  If the metadata are null, setting is refused and the document stays. -/
theorem set_lawful {entries : Entries} (distinct : (membersIn entries).areDistinct = true)
    (readable : ∀ field, ∃ v, get (.map entries) field = .ok v) :
    (entries.get? "metadata" ≠ some .null →
      ∀ (field other : MapField), other ≠ field → ∀ v : Value, v.IsStringMap →
        ∃ after : Entries, set (.map entries) field v = (.map after, none) ∧
          get (.map after) field = .ok v ∧
          get (.map after) other = get (.map entries) other ∧
          LeavesOthers field entries after ∧
          ∀ w : Value, w.IsStringMap →
            (∃ twice once, set (.map after) field w = (twice, none) ∧
              set (.map entries) field w = (once, none) ∧ EqualUpToOrder twice once) ∧
            ∃ first second third, set (.map after) other w = (first, none) ∧
              set (.map entries) other w = (second, none) ∧
              set second field v = (third, none) ∧ EqualUpToOrder first third) ∧
    (entries.get? "metadata" = some .null → ∀ (field : MapField) (v : Value), v.IsStringMap →
      set (.map entries) field v = (.map entries, some (refusalOfNull v))) := by
  refine ⟨fun given field other different v typed => ?_, fun null field v typed =>
    set_of_null null typed field⟩
  have settable : AreSettable entries := (metadata_cases (readable field)).resolve_left given
  refine ⟨_, set_eq settable typed field, ?_, ?_, ⟨?_, ?_⟩, fun w typedToo => ⟨?_, ?_⟩⟩
  · rw [get_insert, member_put_self distinct, readMap_of_isStringMap typed]
  · have kept : member ((membersIn entries).put field.name v) other.name =
        member (membersIn entries) other.name := by
      rw [member, get?_put_of_ne (name_ne different), member]
    rw [get_insert, kept, get_eq_readMap settable]
  · exact others_insert _ _ _
  · simp
  · refine ⟨_, _, set_set_eq typedToo field, set_eq settable typedToo field, entries, _, _, ?_, rfl,
      rfl⟩
    exact perm_put_put distinct _ _ _
  · refine ⟨_, _, _, set_set_eq typedToo other, set_eq settable typedToo other,
      set_set_eq typed field, entries, _, _, ?_, rfl, rfl⟩
    exact perm_put_comm distinct (name_ne different) _ _

def annotatedPod : Entries := [
  ("kind", "Pod"),
  ("metadata", .map [("annotations", .map [("a", "b")]), ("name", "web")])]

theorem set_lawful_annotatedPod :
    ((membersIn annotatedPod).areDistinct = true ∧
        (∀ field, ∃ v, get (.map annotatedPod) field = .ok v) ∧
        annotatedPod.get? "metadata" ≠ some .null) ∧
      ∃ after : Entries, set (.map annotatedPod) .labels (.map [("managed-by", "arm")]) =
          (.map after, none) ∧
        get (.map after) .labels = .ok (.map [("managed-by", "arm")]) ∧
        get (.map after) .annotations = .ok (.map [("a", "b")]) := by
  have distinct : (membersIn annotatedPod).areDistinct = true := by decide
  have readable : ∀ field, ∃ v, get (.map annotatedPod) field = .ok v := by
    intro field
    cases field with
    | labels => exact ⟨.null, rfl⟩
    | annotations => exact ⟨.map [("a", "b")], rfl⟩
  have given : annotatedPod.get? "metadata" ≠ some .null := fun impossible => by
    cases impossible
  have typed : (Value.map [("managed-by", "arm")]).IsStringMap :=
    .inr ⟨_, rfl, List.forall_mem_singleton.2 ⟨rfl, rfl⟩⟩
  obtain ⟨after, done, labels, annotations, -⟩ :=
    (set_lawful distinct readable).1 given .labels .annotations (by decide) _ typed
  exact ⟨⟨distinct, readable, given⟩, after, done, labels, annotations⟩

/-- Of null metadata both maps can be read, and neither can be set. -/
theorem set_nullMetadata :
    (∀ field, get (.map [("metadata", .null)]) field = .ok .null) ∧
      set (.map [("metadata", .null)]) .labels (.map [("a", "b")]) =
        (.map [("metadata", .null)], some (.noEntries "NoneType")) := by
  refine ⟨fun field => ?_, rfl⟩
  cases field <;> rfl

end Document

end AdmissionGate
