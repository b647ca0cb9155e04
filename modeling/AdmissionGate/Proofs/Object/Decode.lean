/-
# AdmissionGate.Proofs.Object.Decode -- object metadata out of any bytes

Decoding answers for every string of bytes: with metadata whose members have their
types, or with a decoding fault.  `IsMetadataOf` says which documents give metadata
and which metadata they give, member by member; every other document gives the first
of its faults.
-/
import AdmissionGate.Proofs.Json.Sound
import AdmissionGate.Proofs.Object.Metadata

namespace AdmissionGate

set_option autoImplicit false

namespace Metadata

/-- Metadata whose members have their types. -/
structure IsTyped (m : Metadata) : Prop where
  name : m.name.isText = true
  «namespace» : m.namespace.isText = true
  labels : m.labels.IsStringMap
  annotations : m.annotations.IsStringMap

/-- A name is absent or holds null. -/
def IsAbsent (entries : Entries) (name : Text) : Prop :=
  entries.get? name = none ∨ entries.get? name = some .null

/-- The text at a name; absent or null it is empty. -/
def TextAt (entries : Entries) (name : Text) (v : Value) : Prop :=
  (IsAbsent entries name ∧ v = .text []) ∨ ∃ t, entries.get? name = some (.text t) ∧ v = .text t

/-- The map from text to text at a name; absent or null it is null. -/
def MapAt (entries : Entries) (name : Text) (v : Value) : Prop :=
  (IsAbsent entries name ∧ v = .null) ∨
    ∃ pairs, entries.get? name = some (.map pairs) ∧
      (∀ pair ∈ pairs, pair.1.isText = true ∧ pair.2.isText = true) ∧ v = .map pairs

/-- The members of some metadata. -/
structure AreMembersOf (entries : Entries) (m : Metadata) : Prop where
  name : TextAt entries "name" m.name
  «namespace» : TextAt entries "namespace" m.namespace
  labels : MapAt entries "labels" m.labels
  annotations : MapAt entries "annotations" m.annotations

/-- The metadata that a document gives. -/
def IsMetadataOf (document : Value) (m : Metadata) : Prop :=
  ∃ entries : Entries, document = .map entries ∧
    ((IsAbsent entries "metadata" ∧ m = {}) ∨
      ∃ members : Entries, entries.get? "metadata" = some (.map members) ∧ AreMembersOf members m)

/-! ## Accepted documents -/

theorem textAt_iff {entries : Entries} {name : Text} {v : Value} :
    TextAt entries name v ↔
      textFaults name (member entries name) = [] ∧ v = textOf (member entries name) := by
  unfold TextAt IsAbsent member
  cases entries.get? name with
  | none => simp [textFaults, textOf]
  | some w => cases w <;> simp [textFaults, textOf]

theorem entryFaults_eq_nil {field : MapField} {entries : Entries} :
    entryFaults field entries = [] ↔
      ∀ entry ∈ entries, entry.1.isText = true ∧ entry.2.isText = true := by
  simp [entryFaults, isTextEntry]

/-- Nothing is wrong with the maps from text to text, and with no other value. -/
theorem mapFaults_eq_nil {field : MapField} {v : Value} :
    mapFaults field v = [] ↔ v.IsStringMap := by
  cases v with
  | map pairs => simp [mapFaults, entryFaults_eq_nil, Value.IsStringMap]
  | _ => simp [mapFaults, Value.IsStringMap]

theorem mapAt_iff {entries : Entries} (field : MapField) {v : Value} :
    MapAt entries field.name v ↔
      mapFaults field (member entries field.name) = [] ∧ v = member entries field.name := by
  unfold MapAt IsAbsent member
  cases entries.get? field.name with
  | none => simp [mapFaults]
  | some w =>
      cases w with
      | map pairs => simp [mapFaults, entryFaults_eq_nil]
      | _ => simp [mapFaults]

theorem areMembersOf_iff {entries : Entries} {m : Metadata} :
    AreMembersOf entries m ↔ memberFaults entries = [] ∧ m = ofMembers entries := by
  simp only [memberFaults, List.append_eq_nil_iff]
  constructor
  · rintro ⟨name, space, labels, annotations⟩
    obtain ⟨nameFits, nameSame⟩ := textAt_iff.1 name
    obtain ⟨spaceFits, spaceSame⟩ := textAt_iff.1 space
    obtain ⟨labelsFit, labelsSame⟩ := (mapAt_iff .labels).1 labels
    obtain ⟨annotationsFit, annotationsSame⟩ := (mapAt_iff .annotations).1 annotations
    refine ⟨⟨nameFits, spaceFits, labelsFit, annotationsFit⟩, ?_⟩
    cases m
    exact congr (congr (congr (congrArg Metadata.mk nameSame) spaceSame) labelsSame) annotationsSame
  · rintro ⟨⟨nameFits, spaceFits, labelsFit, annotationsFit⟩, rfl⟩
    exact {
      name := textAt_iff.2 ⟨nameFits, rfl⟩
      «namespace» := textAt_iff.2 ⟨spaceFits, rfl⟩
      labels := (mapAt_iff .labels).2 ⟨labelsFit, rfl⟩
      annotations := (mapAt_iff .annotations).2 ⟨annotationsFit, rfl⟩ }

/-- The documents without a fault are those that give metadata, and they give what they say. -/
theorem isMetadataOf_iff {document : Value} {m : Metadata} :
    IsMetadataOf document m ↔ documentFaults document = [] ∧ m = membersOf document := by
  cases document with
  | map entries =>
      simp only [IsMetadataOf, Value.map.injEq, exists_eq_left', IsAbsent, documentFaults,
        membersOf, member, areMembersOf_iff]
      cases Entries.get? entries "metadata" with
      | none => simp
      | some w => cases w <;> simp
  | _ => simp [IsMetadataOf, documentFaults]

theorem isText_of_textAt {entries : Entries} {name : Text} {v : Value}
    (given : TextAt entries name v) : v.isText = true := by
  rcases given with ⟨-, rfl⟩ | ⟨t, -, rfl⟩
  · rfl
  · rfl

theorem isStringMap_of_mapAt {entries : Entries} {name : Text} {v : Value}
    (given : MapAt entries name v) : v.IsStringMap := by
  rcases given with ⟨-, rfl⟩ | ⟨pairs, -, typed, rfl⟩
  · exact .inl rfl
  · exact .inr ⟨pairs, rfl, typed⟩

theorem isTyped_of_areMembersOf {entries : Entries} {m : Metadata}
    (members : AreMembersOf entries m) : m.IsTyped where
  name := isText_of_textAt members.name
  «namespace» := isText_of_textAt members.namespace
  labels := isStringMap_of_mapAt members.labels
  annotations := isStringMap_of_mapAt members.annotations

theorem isTyped_of_isMetadataOf {document : Value} {m : Metadata}
    (given : IsMetadataOf document m) : m.IsTyped := by
  obtain ⟨entries, -, ⟨-, rfl⟩ | ⟨members, -, fits⟩⟩ := given
  · exact ⟨rfl, rfl, .inl rfl, .inl rfl⟩
  · exact isTyped_of_areMembersOf fits

/-! ## Documents that were read -/

/-- The start of the message about bytes that are no JSON document. -/
def jsonPrefix : Text := "error decoding object from json: "

/-- A decoding fault that does not tell of the bytes. -/
def IsMisfit (fault : Fault) : Prop :=
  ∃ cause : DecodeFault, fault = .decode cause ∧ Text.startsWith cause.message jsonPrefix = false

theorem exists_mem_of_get? {entries : Entries} {name : Text} {v : Value}
    (found : entries.get? name = some v) : ∃ entry ∈ entries, entry.2 = v := by
  induction entries with
  | nil => cases found
  | cons entry rest ih =>
      obtain ⟨k, w⟩ := entry
      have later : Entries.get? rest name = some v → ∃ entry ∈ (k, w) :: rest, entry.2 = v := by
        intro found
        obtain ⟨entry, inRest, same⟩ := ih found
        exact ⟨entry, List.mem_cons_of_mem _ inRest, same⟩
      cases k with
      | text t =>
          rw [Entries.get?] at found
          split at found
          · exact ⟨(_, w), List.mem_cons_self, Option.some.inj found⟩
          · exact later found
      | _ => exact later found

theorem isJson_member {entries : Entries} (members : Json.AreMembers entries) (name : Text) :
    Json.IsJson (member entries name) := by
  unfold member
  cases found : entries.get? name with
  | none => exact .null
  | some v =>
      obtain ⟨entry, inEntries, rfl⟩ := exists_mem_of_get? found
      exact (members entry inEntries).2

theorem isMisfit_of_mem_textFaults {field : Text} {v : Value} {fault : Fault}
    (found : fault ∈ textFaults field v) : IsMisfit fault := by
  cases v with
  | null => cases found
  | text t => cases found
  | _ =>
      rw [List.mem_singleton.1 found]
      exact ⟨_, rfl, rfl⟩

theorem isMisfit_of_mem_mapFaults {field : MapField} {v : Value} (json : Json.IsJson v)
    {fault : Fault} (found : fault ∈ mapFaults field v) : IsMisfit fault := by
  cases v with
  | null => cases found
  | map entries =>
      obtain ⟨⟨k, w⟩, bad, rfl⟩ := List.mem_map.1 found
      have name := (Json.isJson_map.1 json _ (List.mem_filter.1 bad).1).1
      cases k with
      | text t => exact ⟨_, rfl, rfl⟩
      | _ => cases name
  | _ =>
      rw [List.mem_singleton.1 found]
      exact ⟨_, rfl, rfl⟩

/-- A document that was read has no faults but those of its members. -/
theorem isMisfit_of_mem_documentFaults {document : Value} (json : Json.IsJson document)
    {fault : Fault} (found : fault ∈ documentFaults document) : IsMisfit fault := by
  cases document with
  | map entries =>
      have metadata := isJson_member (Json.isJson_map.1 json) "metadata"
      simp only [documentFaults] at found
      cases shape : member entries "metadata" with
      | null => simp [shape] at found
      | map members =>
          rw [shape] at found metadata
          have inside := isJson_member (Json.isJson_map.1 metadata)
          simp only [memberFaults, List.mem_append] at found
          rcases found with found | found | found | found
          · exact isMisfit_of_mem_textFaults found
          · exact isMisfit_of_mem_textFaults found
          · exact isMisfit_of_mem_mapFaults (inside "labels") found
          · exact isMisfit_of_mem_mapFaults (inside "annotations") found
      | _ =>
          rw [shape] at found
          rw [List.mem_singleton.1 found]
          exact ⟨_, rfl, rfl⟩
  | _ =>
      rw [List.mem_singleton.1 found]
      exact ⟨_, rfl, rfl⟩

/-! ## Bytes -/

theorem decode_of_error {bytes : Bytes} {cause : Json.Fault}
    (refused : Json.readBytes .standard bytes = .error cause) :
    decode bytes = .error (.decode (.json cause)) := by
  rw [decode, refused]

theorem decode_of_ok {bytes : Bytes} {document : Value}
    (reads : Json.readBytes .standard bytes = .ok document) :
    decode bytes = firstOr (documentFaults document) (membersOf document) := by
  rw [decode, reads]
  exact ofDocument_eq document

theorem decode_ok_iff {bytes : Bytes} {document : Value} {m : Metadata}
    (reads : Json.readBytes .standard bytes = .ok document) :
    decode bytes = .ok m ↔ IsMetadataOf document m := by
  rw [decode_of_ok reads, firstOr_eq_ok, isMetadataOf_iff, eq_comm (a := m)]

theorem isMisfit_of_decode {bytes : Bytes} {document : Value} {fault : Fault}
    (reads : Json.readBytes .standard bytes = .ok document)
    (refused : decode bytes = .error fault) : IsMisfit fault := by
  rw [decode_of_ok reads, firstOr_eq_error] at refused
  exact isMisfit_of_mem_documentFaults (Json.readBytes_isJson reads) (List.mem_of_head? refused)

theorem startsWith_json (cause : Json.Fault) :
    Text.startsWith (DecodeFault.json cause).message jsonPrefix = true :=
  List.isPrefixOf_iff_prefix.2 (List.prefix_append _ _)

/-- Decoding gives typed metadata or a decoding fault, and nothing else. -/
theorem decode_cases (bytes : Bytes) :
    (∃ m, decode bytes = .ok m ∧ m.IsTyped) ∨ ∃ cause, decode bytes = .error (.decode cause) := by
  cases reads : Json.readBytes .standard bytes with
  | error cause => exact .inr ⟨_, decode_of_error reads⟩
  | ok document =>
      cases refused : decode bytes with
      | ok m => exact .inl ⟨m, rfl, isTyped_of_isMetadataOf ((decode_ok_iff reads).1 refused)⟩
      | error fault =>
          obtain ⟨cause, rfl, -⟩ := isMisfit_of_decode reads refused
          exact .inr ⟨cause, rfl⟩

/-- The message is about the bytes exactly if they are no document: no fault of a document that
was read starts with the same words. -/
theorem startsWith_jsonPrefix_iff (bytes : Bytes) :
    (∃ cause : DecodeFault, decode bytes = .error (.decode cause) ∧
        Text.startsWith cause.message jsonPrefix = true) ↔
      ∃ cause, Json.readBytes .standard bytes = .error cause := by
  constructor
  · rintro ⟨cause, refused, starts⟩
    cases reads : Json.readBytes .standard bytes with
    | error told => exact ⟨told, rfl⟩
    | ok document =>
        obtain ⟨other, same, differs⟩ := isMisfit_of_decode reads refused
        cases same
        simp [starts] at differs
  · rintro ⟨cause, reads⟩
    exact ⟨_, decode_of_error reads, startsWith_json cause⟩

/-- **Decoding answers for all bytes, with the types it promises, and reports the first fault.**
It gives metadata whose members have their types, or a decoding fault.  The message is about the
bytes exactly if they are no JSON document.  If they are one, then the document gives exactly the
metadata that `IsMetadataOf` says, or else the first of its faults. -/
theorem decode_total (bytes : Bytes) :
    ((∃ m, decode bytes = .ok m ∧ m.IsTyped) ∨
        ∃ cause, decode bytes = .error (.decode cause)) ∧
      ((∃ cause : DecodeFault, decode bytes = .error (.decode cause) ∧
          Text.startsWith cause.message jsonPrefix = true) ↔
        ∃ cause, Json.readBytes .standard bytes = .error cause) ∧
      (∀ cause, Json.readBytes .standard bytes = .error cause →
        decode bytes = .error (.decode (.json cause))) ∧
      ∀ document, Json.readBytes .standard bytes = .ok document →
        (∀ m, decode bytes = .ok m ↔ IsMetadataOf document m) ∧
          ∀ fault, decode bytes = .error fault ↔ (documentFaults document).head? = some fault := by
  refine ⟨decode_cases bytes, startsWith_jsonPrefix_iff bytes, fun cause => decode_of_error, ?_⟩
  intro document reads
  refine ⟨fun m => decode_ok_iff reads, fun fault => ?_⟩
  rw [decode_of_ok reads, firstOr_eq_error]

/-! ## Texts -/

def ofText (t : Text) : Except Fault Metadata :=
  match Json.read .standard t with
  | .ok document => ofDocument document
  | .error cause => .error (.decode (.json cause))

/-- What bytes decode to is a matter of the text that they spell. -/
theorem decode_of_text {bytes : Bytes} {t : Text}
    (decodes : Encoding.decodeDocument bytes = .ok t) : decode bytes = ofText t := by
  rw [decode, Json.readBytes, decodes]
  rfl

/-- A text that gives metadata is that of a map. -/
theorem exists_read_of_ofText {t : Text} {m : Metadata} (accepted : ofText t = .ok m) :
    ∃ entries : Entries, Json.read .standard t = .ok (.map entries) ∧
      ofDocument (.map entries) = .ok m := by
  unfold ofText at accepted
  split at accepted
  · rename_i document reads
    cases document with
    | map entries => exact ⟨entries, reads, accepted⟩
    | _ => cases accepted
  · cases accepted

end Metadata

end AdmissionGate
