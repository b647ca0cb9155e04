/-
# AdmissionGate.Proofs.Object.Message -- the message about a state that cannot be decoded

The message about bytes that are no document gives numbers and words of its own, and the
message about a document gives names of types and of members, and the key of an entry as
it is shown inside other values.  All of these are on one line, so the message is, as
long as what stands at the keys of a map can be a key (`unbroken_of_extract`).
-/
import AdmissionGate.Proofs.Object.Stuck
import AdmissionGate.Proofs.Value.Key

namespace AdmissionGate

set_option autoImplicit false

open Text Metadata Document

/-! ## Bytes -/

theorem Integer.Fault.unbroken_message (fault : Integer.Fault) : Unbroken fault.message := by
  cases fault with
  | malformed base literal =>
      simp +decide [message, (unbroken_quoted literal).take 200]
  | tooManyDigits count => simp +decide [message]
  | tooLarge => decide

@[simp] theorem Encoding.unbroken_name (encoding : Encoding) : Unbroken encoding.name := by
  cases encoding with
  | utf8 => decide
  | utf16 order => cases order <;> decide
  | utf32 order => cases order <;> decide

theorem Encoding.Fault.unbroken_message (fault : Encoding.Fault) : Unbroken fault.message := by
  have byte (b : UInt8) : Unbroken (Text.hex 2 b.toNat) := (plain_hex 2 _).unbroken
  have refusal : Unbroken fault.refusal.message := by
    cases fault.refusal <;> decide
  simp only [message]
  split <;> simp +decide [byte, refusal]

/-- The message about bytes that are no document is on one line, whatever the bytes are. -/
theorem Json.Fault.unbroken_message (fault : Json.Fault) : Unbroken fault.message := by
  cases fault with
  | encoding cause => exact cause.unbroken_message
  | integer cause => exact cause.unbroken_message
  | tooDeep shape => cases shape <;> decide
  | syntaxAt trouble line column position =>
      have told : Unbroken trouble.message := by
        cases trouble <;> decide
      simp +decide [message, told]

/-! ## Documents -/

/-- What stands at the keys of a map can be a key. -/
def Value.HasKeys (v : Value) : Prop :=
  ∀ entries : Entries, v = .map entries → ∀ entry ∈ entries, entry.1.unhashable? = none

def Document.HasKeys (entries : Entries) : Prop :=
  ∀ members : Entries, member entries "metadata" = .map members →
    ∀ field : MapField, (member members field.name).HasKeys

def ObjectState.HasKeys (s : ObjectState) : Prop :=
  ∀ (entries : Entries) (beside : List (Text × Value)),
    s.live = some (.document (.map entries) beside) → Document.HasKeys entries

@[simp] theorem MapField.unbroken_name (field : MapField) : Unbroken field.name := by
  cases field <;> decide

section Messages

variable {field : MapField} {cause : DecodeFault}

theorem unbroken_of_mem_mapFaults {v : Value} (keys : v.HasKeys)
    (found : .decode cause ∈ mapFaults field v) : Unbroken cause.message := by
  cases v with
  | null => cases found
  | map entries =>
      obtain ⟨⟨k, w⟩, wrong, fault⟩ := List.mem_map.1 found
      have key := keys entries rfl _ (List.mem_filter.1 wrong).1
      unfold entryFault at fault
      split at fault
      · rename_i shown quoted
        cases fault
        have written : Unbroken shown := Value.unbroken_of_quoted key quoted
        simp +decide [DecodeFault.message, written]
      · cases fault
  | _ =>
      cases List.mem_singleton.1 found
      simp +decide [DecodeFault.message]

theorem unbroken_of_mem_textFaults {name : Text} (unbroken : Unbroken name) {v : Value}
    (found : .decode cause ∈ textFaults name v) : Unbroken cause.message := by
  cases v with
  | null => cases found
  | text t => cases found
  | _ =>
      cases List.mem_singleton.1 found
      simp +decide [DecodeFault.message, unbroken]

theorem unbroken_of_mem_nameFaults {entries : Entries}
    (found : .decode cause ∈ nameFaults entries) : Unbroken cause.message := by
  unfold nameFaults at found
  split at found
  · rcases List.mem_append.1 found with inName | inNamespace
    · exact unbroken_of_mem_textFaults (by decide) inName
    · exact unbroken_of_mem_textFaults (by decide) inNamespace
  · cases found

theorem unbroken_of_mem_mapsFaults {entries : Entries} (keys : Document.HasKeys entries)
    (found : .decode cause ∈ mapsFaults entries) : Unbroken cause.message := by
  unfold mapsFaults at found
  split at found
  · cases found
  · rename_i members metadata
    rcases List.mem_append.1 found with inLabels | inAnnotations
    · exact unbroken_of_mem_mapFaults (keys members metadata .labels) inLabels
    · exact unbroken_of_mem_mapFaults (keys members metadata .annotations) inAnnotations
  · cases List.mem_singleton.1 found
    simp +decide [DecodeFault.message]

/-- The keys of a document that was read are texts. -/
theorem hasKeys_of_isJson {entries : Entries} (json : Json.IsJson (.map entries)) :
    Document.HasKeys entries := by
  intro members metadata field pairs held entry inPairs
  have outer := isJson_member (Json.isJson_map.1 json) "metadata"
  rw [metadata] at outer
  have inner := isJson_member (Json.isJson_map.1 outer) field.name
  rw [held] at inner
  obtain ⟨t, key⟩ := Value.isText_iff.1 (Json.isJson_map.1 inner entry inPairs).1
  rw [key]
  rfl

theorem unbroken_of_mem_documentFaults {document : Value} (json : Json.IsJson document)
    (found : .decode cause ∈ documentFaults document) : Unbroken cause.message := by
  cases document with
  | map entries =>
      rw [documentFaults_eq] at found
      rcases List.mem_append.1 found with inNames | inMaps
      · exact unbroken_of_mem_nameFaults inNames
      · exact unbroken_of_mem_mapsFaults (hasKeys_of_isJson json) inMaps
  | _ =>
      cases List.mem_singleton.1 found
      simp +decide [DecodeFault.message]

/-! ## States -/

theorem LiveObject.checkOperations_eq_error {beside : List (Text × Value)} {names : List Text}
    {fault : Fault} (stops : checkOperations beside names = .error fault) :
    ∃ typeName, fault = .notOperation typeName := by
  induction names with
  | nil => cases stops
  | cons name names ih =>
      unfold checkOperations at stops
      split at stops
      · cases stops
        exact ⟨_, rfl⟩
      · exact ih stops

/-- What cannot be decoded of an object that is held is wrong with its labels or annotations. -/
theorem LiveObject.mem_mapsFaults_of_get {object : LiveObject}
    (refused : object.get field = .error (.decode cause)) :
    ∃ entries beside, object = .document (.map entries) beside ∧
      .decode cause ∈ mapsFaults entries := by
  cases object with
  | metadata m => cases refused
  | document content beside =>
      rcases bind_eq_error_iff.1 refused with stops | ⟨-, -, refused⟩
      · obtain ⟨typeName, impossible⟩ := checkOperations_eq_error stops
        cases impossible
      · cases content with
        | map entries =>
            refine ⟨entries, beside, rfl, ?_⟩
            rw [Document.get_eq] at refused
            unfold mapsFaults
            split at refused
            · cases refused
            · have found := List.mem_of_head? (firstOr_eq_error.1 refused)
              cases field with
              | labels => exact List.mem_append_left _ found
              | annotations => exact List.mem_append_right _ found
            · cases refused
              exact List.mem_singleton.2 rfl
        | _ => cases refused

/-- **The message about a state that cannot be decoded is on one line.** -/
theorem unbroken_of_extract {s : ObjectState} (keys : s.HasKeys)
    (refused : s.extract = .error (.decode cause)) : Unbroken cause.message := by
  cases held : s.live with
  | none =>
      rw [ObjectState.extract_of_encoded held] at refused
      by_cases empty : s.raw = []
      · simp [empty] at refused
      cases reads : Json.readBytes .standard s.raw with
      | error fault =>
          rw [ObjectState.extract_ofRaw empty, decode_of_error reads] at refused
          cases refused
          simp +decide [DecodeFault.message, fault.unbroken_message]
      | ok document =>
          rw [ObjectState.extract_raw empty reads] at refused
          have found := List.mem_of_head? (firstOr_eq_error.1 refused)
          exact unbroken_of_mem_documentFaults (Json.readBytes_isJson reads) found
  | some object =>
      have unbroken {field : MapField} (refused : object.get field = .error (.decode cause)) :
          Unbroken cause.message := by
        obtain ⟨entries, beside, rfl, found⟩ := LiveObject.mem_mapsFaults_of_get refused
        exact unbroken_of_mem_mapsFaults (keys entries beside held) found
      rw [ObjectState.extract_of_live held] at refused
      rcases bind_eq_error_iff.1 refused with inLabels | ⟨labels, -, refused⟩
      · exact unbroken inLabels
      · rcases bind_eq_error_iff.1 refused with inAnnotations | ⟨annotations, -, impossible⟩
        · exact unbroken inAnnotations
        · cases impossible

end Messages

end AdmissionGate
