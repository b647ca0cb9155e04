/-
# AdmissionGate.Proofs.Gate.Presented -- one document, presented in several ways

A document may be held as it is, be taken from a client model, or come as bytes.
Where its name and namespace are texts the gate cannot tell these apart: it reads the
same labels and annotations from each, or refuses each with the same fault, and so
it gives the same answer (`presentations_agree`).  Where they are not, only the bytes
are refused for it.
-/
import AdmissionGate.Gate.Validator
import AdmissionGate.Proofs.Object.State
import AdmissionGate.Proofs.Review.Encode

namespace AdmissionGate

set_option autoImplicit false

open Metadata Document

/-- The answer of the gate depends on the states of an object by their labels and annotations
only. -/
theorem Validator.handle_congr (v : Validator) (verbosity : Nat) (r : Request)
    {new new' old old' : ObjectState} (sameNew : new.extract = new'.extract)
    (sameOld : old.extract = old'.extract) :
    v.handle verbosity { r with new := new, old := old } =
      v.handle verbosity { r with new := new', old := old' } := by
  have same : extractBoth { r with new := new, old := old } =
      extractBoth { r with new := new', old := old' } := by
    simp only [extractBoth, sameNew, sameOld]
  simp only [handle, same]
  rfl

/-- The states that present a document to the gate. -/
inductive Presented (document : Value) : ObjectState → Prop
  | live : Presented document (.ofLive (.document document))
  | model : Presented document (.ofModel document)
  | bytes {s : ObjectState} (encoded : Review.encodeState document = .ok s) : Presented document s

/-- The labels and annotations of the metadata that are taken from a document. -/
def throughMetadata (document : Value) : Except Fault (Value × Value) :=
  Metadata.ofDocument document >>= fun m => (ObjectState.ofLive (.metadata m)).extract

/-- The metadata of a document are no map, or name and namespace in them are texts, null or
absent. -/
def HasNames (entries : Entries) : Prop :=
  ∀ members : Entries, entries.get? "metadata" = some (.map members) →
    (∃ v, TextAt members "name" v) ∧ ∃ v, TextAt members "namespace" v

/-- What a document is read as: the maps it holds, or else a decoding fault. -/
structure IsReading (entries : Entries) (outcome : Except Fault (Value × Value)) : Prop where
  maps : ∀ labels annotations,
    outcome = .ok (labels, annotations) ↔ AreMapsOf entries labels annotations
  decodes : ∀ fault, outcome = .error fault → ∃ cause, fault = .decode cause

/-! ## Name and namespace -/

theorem exists_textAt_iff {entries : Entries} {name : Text} :
    (∃ v, TextAt entries name v) ↔ textFaults name (member entries name) = [] := by
  simp [textAt_iff]

theorem hasNames_iff {entries : Entries} : HasNames entries ↔ nameFaults entries = [] := by
  simp only [HasNames, exists_textAt_iff, nameFaults, member]
  cases Entries.get? entries "metadata" with
  | none => simp
  | some v => cases v <;> simp

/-- A value of the wrong type at a name, and the fault that tells of it. -/
theorem exists_misfit_of_textFaults {entries : Entries} {name : Text}
    (faulty : textFaults name (member entries name) ≠ []) :
    ∃ v, entries.get? name = some v ∧ ¬ (∃ w, TextAt entries name w) ∧
      textFaults name (member entries name) = [.decode (.text name v.typeName)] := by
  rw [exists_textAt_iff]
  refine (Option.ne_none_iff_exists'.1 ?absent).imp fun v found => ⟨found, faulty, ?_⟩
  case absent =>
    intro absent
    rw [member, absent] at faulty
    exact faulty rfl
  rw [member, found] at faulty ⊢
  cases v with
  | null => exact absurd rfl faulty
  | text t => exact absurd rfl faulty
  | _ => rfl

theorem exists_members_of_nameFaults {entries : Entries} (faulty : nameFaults entries ≠ []) :
    ∃ members : Entries, entries.get? "metadata" = some (.map members) ∧
      nameFaults entries = textFaults "name" (member members "name") ++
        textFaults "namespace" (member members "namespace") := by
  cases found : entries.get? "metadata" with
  | none =>
      simp only [nameFaults, member, found, Option.getD_none] at faulty
      exact absurd rfl faulty
  | some metadata =>
      cases metadata with
      | map members =>
          refine ⟨members, rfl, ?_⟩
          simp only [nameFaults, member, found, Option.getD_some]
      | _ =>
          simp only [nameFaults, member, found, Option.getD_some] at faulty
          exact absurd rfl faulty

/-- The first of name and namespace that has the wrong type. -/
theorem exists_misfit_of_not_hasNames {entries : Entries} (nameless : ¬ HasNames entries) :
    ∃ (members : Entries) (field : Text) (v : Value),
      entries.get? "metadata" = some (.map members) ∧
      (field = "name" ∨ (∃ w, TextAt members "name" w) ∧ field = "namespace") ∧
      members.get? field = some v ∧ (¬ ∃ w, TextAt members field w) ∧
      (nameFaults entries).head? = some (.decode (.text field v.typeName)) := by
  rw [hasNames_iff] at nameless
  obtain ⟨members, found, faults⟩ := exists_members_of_nameFaults nameless
  by_cases named : textFaults "name" (member members "name") = []
  · rw [faults, named, List.nil_append] at nameless ⊢
    obtain ⟨v, given, misfit, only⟩ := exists_misfit_of_textFaults nameless
    rw [only]
    exact ⟨members, _, v, found, .inr ⟨exists_textAt_iff.2 named, rfl⟩, given, misfit, rfl⟩
  · obtain ⟨v, given, misfit, only⟩ := exists_misfit_of_textFaults named
    rw [faults, only]
    exact ⟨members, _, v, found, .inl rfl, given, misfit, rfl⟩

/-! ## Documents that survive being written -/

theorem reads_of_isExact {entries : Entries} (exact : Json.isExact (.map entries) = true)
    (shallow : Json.depth (.map entries) ≤ 200) :
    ∃ raw, Review.encodeState (.map entries) = .ok (.ofRaw raw) ∧ raw ≠ [] ∧
      Json.readBytes .standard raw = .ok (.map entries) :=
  Review.exists_encoded_of_isExact exact (fun impossible => by cases impossible)
    (Nat.le_trans shallow (by decide))

theorem isReading_of_isExact {entries : Entries} (exact : Json.isExact (.map entries) = true)
    (shallow : Json.depth (.map entries) ≤ 200) :
    IsReading entries (firstOr (mapsFaults entries) (maps entries)) := by
  obtain ⟨raw, -, -, reads⟩ := reads_of_isExact exact shallow
  constructor
  · intro labels annotations
    rw [firstOr_eq_ok, areMapsOf_iff, eq_comm (a := maps entries)]
  · intro fault first
    have member : fault ∈ documentFaults (.map entries) := by
      rw [documentFaults_eq]
      exact List.mem_append_right _ (List.mem_of_head? (firstOr_eq_error.1 first))
    obtain ⟨cause, same, -⟩ := isMisfit_of_mem_documentFaults (Json.readBytes_isJson reads) member
    exact ⟨cause, same⟩

theorem extract_of_encodeState {entries : Entries} (exact : Json.isExact (.map entries) = true)
    (shallow : Json.depth (.map entries) ≤ 200) {s : ObjectState}
    (encoded : Review.encodeState (.map entries) = .ok s) :
    s.extract = firstOr (nameFaults entries ++ mapsFaults entries) (maps entries) := by
  obtain ⟨raw, same, given, reads⟩ := reads_of_isExact exact shallow
  rw [same] at encoded
  cases encoded
  rw [ObjectState.extract_raw given reads, documentFaults_eq, maps_eq]

theorem throughMetadata_eq (entries : Entries) :
    throughMetadata (.map entries) =
      firstOr (nameFaults entries ++ mapsFaults entries) (maps entries) := by
  rw [throughMetadata, ObjectState.extract_ofDocument, documentFaults_eq, maps_eq]

/-- With names, everything that presents a document is read alike. -/
theorem extract_of_presented {entries : Entries} (exact : Json.isExact (.map entries) = true)
    (shallow : Json.depth (.map entries) ≤ 200) (named : HasNames entries) {s : ObjectState}
    (presented : Presented (.map entries) s) :
    s.extract = firstOr (mapsFaults entries) (maps entries) := by
  cases presented with
  | live => exact ObjectState.extract_document entries
  | model =>
      rw [ObjectState.ofModel_of_isExact exact]
      exact ObjectState.extract_document entries
  | bytes encoded =>
      rw [extract_of_encodeState exact shallow encoded, hasNames_iff.1 named, List.nil_append]

/-- **The gate cannot tell how a document is presented.**  A document that survives being written
can be held, be taken from a client model or be encoded; with names in it, each of these and the
metadata that are taken from it give its maps or the same decoding fault, and the gate answers a
request alike, whichever of them is its new or its old state.  Without, the bytes and the metadata
give the fault of the first name that is no text, and the other two are read as before. -/
theorem presentations_agree {entries : Entries} (exact : Json.isExact (.map entries) = true)
    (shallow : Json.depth (.map entries) ≤ 200) :
    (∃ raw, Review.encodeState (.map entries) = .ok (.ofRaw raw)) ∧
      ObjectState.adapt (.map entries) = .ok (.ofModel (.map entries)) ∧
      (HasNames entries → ∃ outcome, IsReading entries outcome ∧
        (∀ s, Presented (.map entries) s → s.extract = outcome) ∧
        throughMetadata (.map entries) = outcome ∧
        ∀ (v : Validator) (verbosity : Nat) (r : Request) (s t : ObjectState),
          Presented (.map entries) s → Presented (.map entries) t →
            v.handle verbosity { r with new := s } = v.handle verbosity { r with new := t } ∧
              v.handle verbosity { r with old := s } = v.handle verbosity { r with old := t }) ∧
      (¬ HasNames entries → ∃ (members : Entries) (field : Text) (v : Value),
        entries.get? "metadata" = some (.map members) ∧
        (field = "name" ∨ (∃ w, TextAt members "name" w) ∧ field = "namespace") ∧
        members.get? field = some v ∧ (¬ ∃ w, TextAt members field w) ∧
        (∀ s, Review.encodeState (.map entries) = .ok s →
          s.extract = .error (.decode (.text field v.typeName))) ∧
        throughMetadata (.map entries) = .error (.decode (.text field v.typeName)) ∧
        ∃ outcome, IsReading entries outcome ∧
          (ObjectState.ofLive (.document (.map entries))).extract = outcome ∧
          (ObjectState.ofModel (.map entries)).extract = outcome) := by
  obtain ⟨raw, encoded, -, -⟩ := reads_of_isExact exact shallow
  have reading := isReading_of_isExact exact shallow
  refine ⟨⟨raw, encoded⟩, ObjectState.adapt_of_isExact exact,
    fun named => ⟨_, reading, ?_, ?_, ?_⟩, fun nameless => ?_⟩
  · intro s presented
    exact extract_of_presented exact shallow named presented
  · rw [throughMetadata_eq, hasNames_iff.1 named, List.nil_append]
  · intro v verbosity r s t first second
    have same := (extract_of_presented exact shallow named first).trans
      (extract_of_presented exact shallow named second).symm
    exact ⟨v.handle_congr verbosity r same rfl, v.handle_congr verbosity r rfl same⟩
  · obtain ⟨members, field, v, found, which, given, misfit, first⟩ :=
      exists_misfit_of_not_hasNames nameless
    have refused : firstOr (nameFaults entries ++ mapsFaults entries) (maps entries) =
        .error (.decode (.text field v.typeName)) := by
      rw [firstOr_eq_error, List.head?_append, first]
      rfl
    refine ⟨members, field, v, found, which, given, misfit, ?_, ?_, _, reading, ?_, ?_⟩
    · intro s encoded
      rw [extract_of_encodeState exact shallow encoded, refused]
    · rw [throughMetadata_eq, refused]
    · exact ObjectState.extract_document entries
    · rw [ObjectState.ofModel_of_isExact exact]
      exact ObjectState.extract_document entries

def markedPod : Entries := [
  ("kind", "Pod"),
  ("metadata", .map [("name", "web"), ("labels", .map [("managed-by", "arm"), ("é", "\x09")])])]

theorem presentations_agree_markedPod :
    (Json.isExact (.map markedPod) = true ∧ Json.depth (.map markedPod) ≤ 200 ∧
        HasNames markedPod) ∧
      ∀ s, Presented (.map markedPod) s →
        s.extract = .ok (.map [("managed-by", "arm"), ("é", "\x09")], .null) := by
  have exact : Json.isExact (.map markedPod) = true := by decide
  have shallow : Json.depth (.map markedPod) ≤ 200 := by decide
  have named : HasNames markedPod := hasNames_iff.2 rfl
  refine ⟨⟨exact, shallow, named⟩, fun s presented => ?_⟩
  obtain ⟨-, -, agree, -⟩ := presentations_agree exact shallow
  obtain ⟨outcome, reading, same, -⟩ := agree named
  rw [same s presented, reading.maps, areMapsOf_iff]
  exact ⟨rfl, rfl⟩

end AdmissionGate
