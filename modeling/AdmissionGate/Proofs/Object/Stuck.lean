/-
# AdmissionGate.Proofs.Object.Stuck -- states that are read without a decoding fault

Reading a well-typed state gives its maps or a decoding fault, but for one case: the
message about an entry that is no text at a text shows the key, and a key of a map
that is held may be too large to be shown.  `IsStuck` says of a state that this is
where reading it ends; bytes never get there, since their keys are texts.
-/
import AdmissionGate.Proofs.Object.State
import AdmissionGate.Proofs.Value.Shown

namespace AdmissionGate

set_option autoImplicit false

open Metadata Document

/-- The fault of a key that is too large to be shown. -/
def tooLarge : Fault := .integer .tooLarge

/-- The first entry that is no text at a text has a key that cannot be shown. -/
def Value.HasUnshownKey (v : Value) : Prop :=
  ∃ (before after : Entries) (k w : Value), v = .map (before ++ (k, w) :: after) ∧
    (∀ entry ∈ before, isTextEntry entry = true) ∧ isTextEntry (k, w) = false ∧
    k.isShowable = false

/-- A live object that is a document with texts as names, or metadata with maps from text to
text. -/
inductive LiveObject.IsTyped : LiveObject → Prop
  | document {entries : Entries} (named : ∀ entry ∈ entries, entry.1.isText = true) :
      IsTyped (.document (.map entries))
  | metadata {m : Metadata} (labels : m.labels.IsStringMap)
      (annotations : m.annotations.IsStringMap) : IsTyped (.metadata m)

namespace ObjectState

/-- A state whose live object, if it has one, is well-typed. -/
def IsTyped (s : ObjectState) : Prop := ∀ object, s.live = some object → object.IsTyped

/-- A document is held in whose labels, or else in whose annotations, the message about the first
wrong entry would show a key that is too large. -/
def IsStuck (s : ObjectState) : Prop :=
  ∃ entries members : Entries, s.live = some (.document (.map entries)) ∧
    entries.get? "metadata" = some (.map members) ∧
    ((member members "labels").HasUnshownKey ∨
      (∃ labels, MapAt members "labels" labels) ∧ (member members "annotations").HasUnshownKey)

end ObjectState

/-! ## One map -/

theorem entryFault_cases (field : MapField) (entry : Value × Value) :
    (entry.1.isShowable = true ∧ ∃ cause, entryFault field entry = .decode cause) ∨
      (entry.1.isShowable = false ∧ entryFault field entry = tooLarge) := by
  unfold entryFault
  cases showable : entry.1.isShowable with
  | true =>
      obtain ⟨key, shown⟩ := Value.quoted_of_isShowable showable
      rw [shown]
      exact .inl ⟨rfl, _, rfl⟩
  | false =>
      rw [Value.quoted_of_not_isShowable showable]
      exact .inr ⟨rfl, rfl⟩

theorem entryFault_eq_tooLarge {field : MapField} {entry : Value × Value} :
    entryFault field entry = tooLarge ↔ entry.1.isShowable = false := by
  rcases entryFault_cases field entry with ⟨showable, cause, fault⟩ | ⟨large, fault⟩
  · rw [fault, showable]
    simp [tooLarge]
  · rw [fault, large]
    simp

theorem head?_entryFaults (field : MapField) (entries : Entries) :
    (entryFaults field entries).head? =
      (entries.find? fun entry => !isTextEntry entry).map (entryFault field) := by
  rw [entryFaults, List.head?_map, List.head?_filter]

theorem head?_mapFaults_eq_tooLarge (field : MapField) {v : Value} :
    (mapFaults field v).head? = some tooLarge ↔ v.HasUnshownKey := by
  cases v with
  | map entries =>
      rw [mapFaults, head?_entryFaults, Option.map_eq_some_iff]
      constructor
      · rintro ⟨⟨k, w⟩, found, fault⟩
        obtain ⟨wrong, before, after, rfl, right⟩ := List.find?_eq_some_iff_append.1 found
        refine ⟨before, after, k, w, rfl, ?_, ?_, entryFault_eq_tooLarge.1 fault⟩
        · simpa using right
        · simpa using wrong
      · rintro ⟨before, after, k, w, same, right, wrong, large⟩
        cases same
        refine ⟨(k, w), List.find?_eq_some_iff_append.2 ⟨?_, before, after, rfl, ?_⟩,
          entryFault_eq_tooLarge.2 large⟩
        · simpa using wrong
        · simpa using right
  | null => simp [mapFaults, Value.HasUnshownKey]
  | _ => simp [mapFaults, Value.HasUnshownKey, tooLarge]

theorem mem_mapFaults_cases {field : MapField} {v : Value} {fault : Fault}
    (found : fault ∈ mapFaults field v) : (∃ cause, fault = .decode cause) ∨ fault = tooLarge := by
  cases v with
  | null => cases found
  | map entries =>
      obtain ⟨entry, -, rfl⟩ := List.mem_map.1 found
      rcases entryFault_cases field entry with ⟨-, decodes⟩ | ⟨-, large⟩
      · exact .inl decodes
      · exact .inr large
  | _ => exact .inl ⟨_, List.mem_singleton.1 found⟩

/-! ## Documents -/

theorem mem_mapsFaults_cases {entries : Entries} {fault : Fault}
    (found : fault ∈ mapsFaults entries) : (∃ cause, fault = .decode cause) ∨ fault = tooLarge := by
  unfold mapsFaults at found
  split at found
  · cases found
  · rcases List.mem_append.1 found with inLabels | inAnnotations
    · exact mem_mapFaults_cases inLabels
    · exact mem_mapFaults_cases inAnnotations
  · exact .inl ⟨_, List.mem_singleton.1 found⟩

theorem exists_mapAt_iff {members : Entries} (field : MapField) :
    (∃ v, MapAt members field.name v) ↔ mapFaults field (member members field.name) = [] := by
  simp [mapAt_iff]

theorem head?_mapsFaults_eq_tooLarge {entries : Entries} :
    (mapsFaults entries).head? = some tooLarge ↔
      ∃ members : Entries, entries.get? "metadata" = some (.map members) ∧
        ((member members "labels").HasUnshownKey ∨ (∃ labels, MapAt members "labels" labels) ∧
          (member members "annotations").HasUnshownKey) := by
  have split (members : Entries) :
      (mapFaults .labels (member members "labels") ++
          mapFaults .annotations (member members "annotations")).head? = some tooLarge ↔
        ((member members "labels").HasUnshownKey ∨ (∃ labels, MapAt members "labels" labels) ∧
          (member members "annotations").HasUnshownKey) := by
    have labels : (∃ labels, MapAt members "labels" labels) ↔
        mapFaults .labels (member members "labels") = [] := exists_mapAt_iff .labels
    rw [labels, ← head?_mapFaults_eq_tooLarge .labels,
      ← head?_mapFaults_eq_tooLarge .annotations]
    cases mapFaults .labels (member members "labels") <;> simp
  unfold mapsFaults
  cases found : entries.get? "metadata" with
  | none => simp [member, found]
  | some metadata =>
      cases metadata with
      | map members =>
          simp only [member, found, Option.getD_some, Option.some.injEq, Value.map.injEq,
            exists_eq_left']
          exact split members
      | null => simp [member, found]
      | _ => simp [member, found, tooLarge]

/-! ## States -/

namespace ObjectState

theorem extract_of_live {s : ObjectState} {object : LiveObject} (held : s.live = some object) :
    s.extract = (ofLive object).extract := by
  unfold extract
  rw [held]
  rfl

theorem extract_of_encoded {s : ObjectState} (encoded : s.live = none) :
    s.extract = (ofRaw s.raw).extract := by
  unfold extract
  rw [encoded]
  rfl

/-- What is read of some bytes: two maps, or a decoding fault. -/
theorem extract_ofRaw_cases (raw : Bytes) :
    (∃ labels annotations, (ofRaw raw).extract = .ok (labels, annotations) ∧
        labels.IsStringMap ∧ annotations.IsStringMap) ∨
      ∃ cause, (ofRaw raw).extract = .error (.decode cause) := by
  by_cases empty : raw = []
  · subst empty
    exact .inl ⟨.null, .null, rfl, .inl rfl, .inl rfl⟩
  cases reads : Json.readBytes .standard raw with
  | error cause =>
      exact .inr ⟨.json cause, by rw [extract_ofRaw empty, decode_of_error reads]; rfl⟩
  | ok document =>
      rw [extract_raw empty reads]
      cases faults : documentFaults document with
      | nil =>
          have typed := isTyped_of_isMetadataOf (isMetadataOf_iff.2 ⟨faults, rfl⟩)
          exact .inl ⟨_, _, rfl, typed.labels, typed.annotations⟩
      | cons fault rest =>
          have found : fault ∈ documentFaults document := by rw [faults]; exact List.mem_cons_self
          obtain ⟨cause, same, -⟩ :=
            isMisfit_of_mem_documentFaults (Json.readBytes_isJson reads) found
          exact .inr ⟨cause, congrArg Except.error same⟩

theorem isStringMap_of_areMapsOf {entries : Entries} {labels annotations : Value}
    (given : AreMapsOf entries labels annotations) :
    labels.IsStringMap ∧ annotations.IsStringMap := by
  rcases given with ⟨-, rfl, rfl⟩ | ⟨members, -, labelsGiven, annotationsGiven⟩
  · exact ⟨.inl rfl, .inl rfl⟩
  · exact ⟨isStringMap_of_mapAt labelsGiven, isStringMap_of_mapAt annotationsGiven⟩

/-- **Reading a well-typed state gives two maps, a decoding fault, or a key that is too large.** -/
theorem extract_cases {s : ObjectState} (typed : s.IsTyped) :
    (∃ labels annotations, s.extract = .ok (labels, annotations) ∧
        labels.IsStringMap ∧ annotations.IsStringMap) ∨
      (∃ cause, s.extract = .error (.decode cause)) ∨ s.extract = .error tooLarge := by
  cases held : s.live with
  | none =>
      rw [extract_of_encoded held]
      rcases extract_ofRaw_cases s.raw with reads | refused
      · exact .inl reads
      · exact .inr (.inl refused)
  | some object =>
      rw [extract_of_live held]
      cases typed object held with
      | @document entries _ =>
          rw [extract_document]
          cases faults : mapsFaults entries with
          | nil =>
              have given : AreMapsOf entries (maps entries).1 (maps entries).2 :=
                areMapsOf_iff.2 ⟨faults, rfl⟩
              exact .inl ⟨_, _, rfl, isStringMap_of_areMapsOf given⟩
          | cons fault rest =>
              have found : fault ∈ mapsFaults entries := by rw [faults]; exact List.mem_cons_self
              rcases mem_mapsFaults_cases found with ⟨cause, rfl⟩ | rfl
              · exact .inr (.inl ⟨cause, rfl⟩)
              · exact .inr (.inr rfl)
      | metadata labels annotations => exact .inl ⟨_, _, rfl, labels, annotations⟩

/-- Reading a well-typed state ends with a key that is too large exactly if the state is stuck. -/
theorem extract_eq_tooLarge_iff {s : ObjectState} (typed : s.IsTyped) :
    s.extract = .error tooLarge ↔ s.IsStuck := by
  cases held : s.live with
  | none =>
      rw [extract_of_encoded held]
      constructor
      · intro large
        rcases extract_ofRaw_cases s.raw with ⟨_, _, reads, -⟩ | ⟨cause, refused⟩
        · simp [reads] at large
        · simp [refused, tooLarge] at large
      · rintro ⟨entries, members, impossible, -⟩
        simp [held] at impossible
  | some object =>
      rw [extract_of_live held]
      cases typed object held with
      | @document entries _ =>
          rw [extract_document, firstOr_eq_error, head?_mapsFaults_eq_tooLarge]
          constructor
          · rintro ⟨members, stuck⟩
            exact ⟨entries, members, held, stuck⟩
          · rintro ⟨others, members, same, stuck⟩
            rw [held] at same
            cases same
            exact ⟨members, stuck⟩
      | @metadata m labels annotations =>
          constructor
          · intro large
            cases large
          · rintro ⟨entries, members, impossible, -⟩
            simp [held] at impossible

end ObjectState

end AdmissionGate
