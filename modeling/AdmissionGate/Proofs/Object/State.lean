/-
# AdmissionGate.Proofs.Object.State -- labels and annotations of a state

A document that is held is read in place.  What is wrong with its labels and
annotations is the end of what is wrong with it as a whole (`documentFaults_eq`): in
front of that stands what is wrong with name and namespace, at which nobody looks
who reads in place.  So the two ways of reading agree wherever name and namespace
are texts.
-/
import AdmissionGate.Object.State
import AdmissionGate.Proofs.Json.Exact
import AdmissionGate.Proofs.Object.Decode
import AdmissionGate.Proofs.Object.Model

namespace AdmissionGate

set_option autoImplicit false

open Metadata

namespace Document

/-- What is wrong with the name and the namespace of a document. -/
def nameFaults (entries : Entries) : List Fault :=
  match member entries "metadata" with
  | .map members =>
      textFaults "name" (member members "name") ++
        textFaults "namespace" (member members "namespace")
  | _ => []

/-- What is wrong with the labels and annotations of a document. -/
def mapsFaults (entries : Entries) : List Fault :=
  match member entries "metadata" with
  | .null => []
  | .map members =>
      mapFaults .labels (member members "labels") ++
        mapFaults .annotations (member members "annotations")
  | v => [.decode (.metadata v.typeName)]

def maps (entries : Entries) : Value × Value :=
  match member entries "metadata" with
  | .map members => (member members "labels", member members "annotations")
  | _ => (.null, .null)

/-- Labels and annotations are those of a document: its maps from text to text, or null. -/
def AreMapsOf (entries : Entries) (labels annotations : Value) : Prop :=
  (IsAbsent entries "metadata" ∧ labels = .null ∧ annotations = .null) ∨
    ∃ members : Entries, entries.get? "metadata" = some (.map members) ∧
      MapAt members "labels" labels ∧ MapAt members "annotations" annotations

theorem documentFaults_eq (entries : Entries) :
    documentFaults (.map entries) = nameFaults entries ++ mapsFaults entries := by
  simp only [documentFaults, nameFaults, mapsFaults]
  cases member entries "metadata" with
  | map members => exact (List.append_assoc _ _ _).symm
  | _ => rfl

theorem maps_eq (entries : Entries) :
    maps entries = ((membersOf (.map entries)).labels, (membersOf (.map entries)).annotations) := by
  simp only [maps, membersOf]
  cases member entries "metadata" <;> rfl

theorem areMapsOf_iff {entries : Entries} {labels annotations : Value} :
    AreMapsOf entries labels annotations ↔
      mapsFaults entries = [] ∧ (labels, annotations) = maps entries := by
  simp only [AreMapsOf, IsAbsent, mapsFaults, maps, member]
  cases Entries.get? entries "metadata" with
  | none => simp
  | some v =>
      cases v with
      | map members =>
          simp only [Option.getD_some, List.append_eq_nil_iff, Prod.mk.injEq]
          constructor
          · rintro (⟨absent | absent, -⟩ | ⟨found, same, labels, annotations⟩)
            · cases absent
            · cases absent
            · cases same
              obtain ⟨labelsFit, labelsSame⟩ := (mapAt_iff .labels).1 labels
              obtain ⟨annotationsFit, annotationsSame⟩ := (mapAt_iff .annotations).1 annotations
              exact ⟨⟨labelsFit, annotationsFit⟩, labelsSame, annotationsSame⟩
          · rintro ⟨⟨labelsFit, annotationsFit⟩, labelsSame, annotationsSame⟩
            exact .inr ⟨members, rfl, (mapAt_iff .labels).2 ⟨labelsFit, labelsSame⟩,
              (mapAt_iff .annotations).2 ⟨annotationsFit, annotationsSame⟩⟩
      | _ => simp

/-- A map of a document: of no metadata null, of metadata that are no map a fault. -/
theorem get_eq (entries : Entries) (field : MapField) :
    get (.map entries) field =
      match member entries "metadata" with
      | .null => .ok .null
      | .map members => firstOr (mapFaults field (member members field.name))
          (member members field.name)
      | v => .error (.decode (.metadata v.typeName)) := by
  have opened : get (.map entries) field =
      (match member entries "metadata" with
        | .null => pure []
        | .map members => pure members
        | v => Except.error (.decode (.metadata v.typeName)) : Except Fault Entries) >>=
          fun members => readMap field (member members field.name) := rfl
  rw [opened]
  cases member entries "metadata" with
  | map members => exact readMap_eq field _
  | _ => rfl

end Document

namespace ObjectState

/-- The labels and annotations of a document that is held are what it says, or its first fault
with name and namespace left aside. -/
theorem extract_document (entries : Entries) :
    (ofLive (.document (.map entries))).extract =
      firstOr (Document.mapsFaults entries) (Document.maps entries) := by
  have opened : (ofLive (.document (.map entries))).extract =
      Document.get (.map entries) .labels >>= fun labels =>
        Document.get (.map entries) .annotations >>= fun annotations =>
          pure (labels, annotations) := rfl
  rw [opened, Document.get_eq, Document.get_eq, Document.mapsFaults, Document.maps]
  cases member entries "metadata" with
  | map members => exact firstOr_bind _ _ _ (firstOr_bind_pure _ _ _)
  | _ => rfl

@[simp] theorem extract_ofRaw_nil : (ofRaw []).extract = .ok (.null, .null) := rfl

/-- The labels and annotations of some bytes are those of the metadata in them. -/
theorem extract_ofRaw {raw : Bytes} (given : raw ≠ []) :
    (ofRaw raw).extract = (Metadata.decode raw).map fun m => (m.labels, m.annotations) := by
  have some_bytes : raw.isEmpty = false := List.isEmpty_eq_false_iff.2 given
  simp only [extract, ofRaw, some_bytes, Bool.false_eq_true, if_false]
  rfl

/-- The labels and annotations of bytes that are a document. -/
theorem extract_raw {raw : Bytes} {document : Value} (given : raw ≠ [])
    (reads : Json.readBytes .standard raw = .ok document) :
    (ofRaw raw).extract = firstOr (documentFaults document)
      ((membersOf document).labels, (membersOf document).annotations) := by
  rw [extract_ofRaw given, decode_of_ok reads]
  exact firstOr_bind_pure _ _ _

/-- Metadata that were taken from a document, and then their labels and annotations. -/
theorem extract_ofDocument (document : Value) :
    (ofDocument document >>= fun m => (ofLive (.metadata m)).extract) =
      firstOr (documentFaults document)
        ((membersOf document).labels, (membersOf document).annotations) := by
  rw [ofDocument_eq]
  exact firstOr_bind_pure _ _ fun m : Metadata => (m.labels, m.annotations)

end ObjectState

namespace Model

mutual

/-- A value without models and dates is its own plain form. -/
theorem plain_of_isExact : (v : Value) → Json.isExact v = true → plain v = v
  | .null, _ => rfl
  | .bool _, _ => rfl
  | .int _, _ => rfl
  | .text _, _ => rfl
  | .list items, exact => by
      rw [Json.isExact] at exact
      rw [plain, plainItems_of_areExact items exact]
  | .map entries, exact => by
      rw [Json.isExact, Bool.and_eq_true] at exact
      rw [plain, plainEntries_of_areExactMembers entries exact.1]

theorem plainItems_of_areExact : (items : List Value) → Json.areExact items = true →
    plainItems items = items
  | [], _ => rfl
  | x :: xs, exact => by
      rw [Json.areExact, Bool.and_eq_true] at exact
      rw [plainItems, plain_of_isExact x exact.1, plainItems_of_areExact xs exact.2]

theorem plainEntries_of_areExactMembers : (entries : List (Value × Value)) →
    Json.areExactMembers entries = true → plainEntries entries = entries
  | [], _ => rfl
  | (k, v) :: rest, exact => by
      rw [Json.areExactMembers, Bool.and_eq_true, Bool.and_eq_true] at exact
      rw [plainEntries, plain_of_isExact v exact.1.2, plainEntries_of_areExactMembers rest exact.2]

end

end Model

theorem ObjectState.ofModel_of_isExact {entries : Entries}
    (exact : Json.isExact (.map entries) = true) :
    ofModel (.map entries) = ofLive (.document (.map entries)) := by
  rw [ofModel, Model.document, Model.plain_of_isExact _ exact]
  exact fun impossible => by cases impossible

@[simp] theorem ObjectState.adapt_of_not_holdsSet {v : Value} (free : Model.holdsSet v = false) :
    adapt v = .ok (ofModel v) := by
  simp [adapt, free]

/-- A client takes every document that survives being written. -/
theorem ObjectState.adapt_of_isExact {v : Value} (exact : Json.isExact v = true) :
    adapt v = .ok (ofModel v) :=
  adapt_of_not_holdsSet (Model.holdsSet_of_isTree v (Json.isTree_of_isExact v exact))

end AdmissionGate
