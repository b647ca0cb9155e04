/-
# AdmissionGate.Proofs.Gate.Client -- client models before the gate

A client holds an object as a model of its class: with metadata or without, and with
attributes that are texts, maps from text to text, truth values or dates.  The gate
reads the labels and annotations that the model was given; nothing stays null and an
empty map stays one (`ClientModel.extract_value`).

The document of a model may also be sent.  Then labels and annotations arrive in their
normal form, which has the marker exactly if they have it
(`Value.isMarked_normal_iff`), so the gate answers alike (`models_adapted`).
-/
import AdmissionGate.Proofs.Gate.Influence
import AdmissionGate.Proofs.Json.Lookup
import AdmissionGate.Proofs.Object.Model

namespace AdmissionGate

set_option autoImplicit false

open Metadata Document

/-! ## Maps from text to text -/

section Texts

variable {entries : Entries}
  (texts : ∀ entry ∈ entries, entry.1.isText = true ∧ entry.2.isText = true)

include texts

theorem arePlainEntries_of_texts : Model.arePlainEntries entries = true := by
  induction entries with
  | nil => rfl
  | cons entry rest ih =>
      obtain ⟨k, v⟩ := entry
      obtain ⟨⟨-, isText⟩, others⟩ := List.forall_mem_cons.1 texts
      obtain ⟨t, rfl⟩ := Value.isText_iff.1 isText
      exact ih others

theorem areMembers_of_texts : Json.areMembers entries = true := by
  induction entries with
  | nil => rfl
  | cons entry rest ih =>
      obtain ⟨k, v⟩ := entry
      obtain ⟨⟨isName, isText⟩, others⟩ := List.forall_mem_cons.1 texts
      obtain ⟨s, rfl⟩ := Value.isText_iff.1 isName
      obtain ⟨t, rfl⟩ := Value.isText_iff.1 isText
      exact ih others

theorem depthOfEntries_of_texts : Json.depthOfEntries entries = 0 := by
  induction entries with
  | nil => rfl
  | cons entry rest ih =>
      obtain ⟨k, v⟩ := entry
      obtain ⟨⟨-, isText⟩, others⟩ := List.forall_mem_cons.1 texts
      obtain ⟨t, rfl⟩ := Value.isText_iff.1 isText
      rw [Json.depthOfEntries, ih others]
      rfl

end Texts

namespace Value.IsStringMap

variable {v : Value} (typed : v.IsStringMap)

include typed

theorem plain_eq : Model.plain v = v := by
  rcases typed with rfl | ⟨entries, rfl, texts⟩
  · rfl
  · exact Model.plain_of_isPlain _ (arePlainEntries_of_texts texts)

theorem isTree : Json.isTree v = true := by
  rcases typed with rfl | ⟨entries, rfl, texts⟩
  · rfl
  · exact areMembers_of_texts texts

theorem depth_le : Json.depth v ≤ 1 := by
  rcases typed with rfl | ⟨entries, rfl, texts⟩
  · exact Nat.zero_le 1
  · have flat := depthOfEntries_of_texts texts
    show Json.depthOfEntries entries + 1 ≤ 1
    omega

end Value.IsStringMap

/-- Null, or a map from text to text in which every key stands once. -/
structure Value.IsDictionary (v : Value) : Prop where
  typed : v.IsStringMap
  distinct : ∀ entries : Entries, v = .map entries → entries.areDistinct = true

/-- **A round trip neither gives nor takes the marker.** -/
theorem Value.isMarked_normal_iff {v : Value} (dictionary : v.IsDictionary) :
    (Json.normal v).IsMarked ↔ v.IsMarked := by
  rw [isMarked_iff_markerEntry, isMarked_iff_markerEntry]
  obtain ⟨rfl | ⟨entries, rfl, texts⟩, distinct⟩ := dictionary
  · exact Iff.rfl
  · have names : ∀ entry ∈ entries, entry.1.isText = true := fun entry member =>
      (texts entry member).1
    have after : (Json.normal (.map entries)).markerEntry =
        (Entries.get? entries "managed-by").map Json.normal :=
      Json.get?_normal names (distinct entries rfl) (by decide)
    rw [after, markerEntry]
    cases found : Entries.get? entries "managed-by" with
    | none => simp
    | some w =>
        -- it is a text, and a text that becomes the marker is the marker
        obtain ⟨entry, member, rfl⟩ := exists_mem_of_get? found
        obtain ⟨t, isText⟩ := isText_iff.1 (texts _ member).2
        rw [isText]
        have value : Json.merged t = "arm" ↔ t = "arm" := Json.merged_eq_iff (by decide)
        simpa [Json.normal] using value

/-! ## Attributes -/

/-- What an attribute of a client model may hold: nothing, a map from text to text, a text, a truth
value or a date. -/
inductive Value.IsAttribute : Value → Prop
  | map {v : Value} (typed : v.IsStringMap) : IsAttribute v
  | text (t : Text) : IsAttribute (.text t)
  | bool (b : Bool) : IsAttribute (.bool b)
  | date (d : Date) : IsAttribute (.date d)
  | dateTime (t : DateTime) : IsAttribute (.dateTime t)

/-- A value whose plain form can be written, and how deep it is nested. -/
structure Value.IsWritable (bound : Nat) (v : Value) : Prop where
  tree : Json.isTree (Model.plain v) = true
  shallow : Json.depth (Model.plain v) ≤ bound

theorem Value.IsAttribute.isWritable {v : Value} (typed : v.IsAttribute) : v.IsWritable 1 := by
  cases typed with
  | map typed =>
      constructor
      · rw [typed.plain_eq, typed.isTree]
      · rw [typed.plain_eq]
        exact typed.depth_le
  | text t => exact ⟨rfl, Nat.zero_le 1⟩
  | bool b => exact ⟨rfl, Nat.zero_le 1⟩
  | date d => exact ⟨rfl, Nat.zero_le 1⟩
  | dateTime t => exact ⟨rfl, Nat.zero_le 1⟩

/-- A model whose attributes can be written can be written itself. -/
theorem isWritable_ofModel {bound : Nat} {given : List (Text × Value)}
    (writable : ∀ field ∈ given, field.2.IsWritable bound) (cls : ModelClass) :
    (Value.ofModel cls given).IsWritable (bound + 1) := by
  have each (name : Text) : (Model.givenAt given name).IsWritable bound := by
    rcases Model.mem_or_givenAt_eq_null given name with member | absent
    · exact writable _ member
    · rw [absent]
      exact ⟨rfl, Nat.zero_le bound⟩
  constructor
  · rw [Model.plain_ofModel]
    exact Model.areMembers_tabled fun name => (each name).tree
  · rw [Model.plain_ofModel, Json.depth]
    exact Nat.succ_le_succ (Model.depthOfEntries_tabled_le fun name => (each name).shallow)

def Model.receivedMembers (cls : ModelClass) (given : List (Text × Value)) : Entries :=
  Entries.ofList (Json.normalEntries (givenMembers cls given))

theorem Model.member_receivedMembers (cls : ModelClass) (given : List (Text × Value)) {name : Text}
    (plain : name.Plain) :
    member (receivedMembers cls given) name = Json.normal (member (givenMembers cls given) name) :=
  Json.member_normal isText_of_mem_tabled (areDistinct_givenMembers cls given) plain

/-! ## Objects of a client -/

structure ClientMetadata where
  labels : Value := .null
  annotations : Value := .null
  /-- The other attributes that are given. -/
  others : List (Text × Value) := []
  areLabels : labels.IsDictionary
  areAnnotations : annotations.IsDictionary
  typed : ∀ field ∈ others, field.2.IsAttribute
  /-- Name and namespace are texts where they are given. -/
  named : ∀ field ∈ others, field.1 = "name" ∨ field.1 = "namespace" →
    field.2 = .null ∨ field.2.isText = true

namespace ClientMetadata

variable (m : ClientMetadata)

def given : List (Text × Value) :=
  ("labels", m.labels) :: ("annotations", m.annotations) :: m.others

def value : Value := .ofModel .objectMeta m.given

def members : Entries := Model.givenMembers .objectMeta m.given

def received : Entries := Model.receivedMembers .objectMeta m.given

theorem member_received {name : Text} (plain : name.Plain) :
    member m.received name = Json.normal (member m.members name) :=
  Model.member_receivedMembers .objectMeta m.given plain

theorem isWritable : m.value.IsWritable 2 := by
  refine isWritable_ofModel ?_ .objectMeta
  refine List.forall_mem_cons.2 ⟨(Value.IsAttribute.map m.areLabels.typed).isWritable, ?_⟩
  refine List.forall_mem_cons.2 ⟨(Value.IsAttribute.map m.areAnnotations.typed).isWritable, ?_⟩
  intro field member
  exact (m.typed field member).isWritable

theorem member_labels : member m.members "labels" = m.labels := by
  have found : member m.members "labels" = Model.plain m.labels :=
    Model.member_givenMembers m.given (by decide) (by decide)
  rw [found, m.areLabels.typed.plain_eq]

theorem member_annotations : member m.members "annotations" = m.annotations := by
  have found : member m.members "annotations" = Model.plain m.annotations :=
    Model.member_givenMembers m.given (by decide) (by decide)
  rw [found, m.areAnnotations.typed.plain_eq]

/-- Name and namespace are texts where they are given. -/
theorem isText_named {name : Text} (isName : name = "name" ∨ name = "namespace") {v : Value}
    (member : (name, v) ∈ m.given) : v = .null ∨ v.isText = true := by
  have away : name ≠ "labels" ∧ name ≠ "annotations" := by
    rcases isName with rfl | rfl
    · decide
    · decide
  rcases List.mem_cons.1 member with same | member
  · exact absurd (congrArg Prod.fst same) away.1
  · rcases List.mem_cons.1 member with same | member
    · exact absurd (congrArg Prod.fst same) away.2
    · exact m.named _ member isName

/-- Name and namespace arrive as texts. -/
theorem textFaults_received {name : Text} (isName : name = "name" ∨ name = "namespace") :
    textFaults name (member m.received name) = [] := by
  have sent : member m.members name = Model.plain (Model.givenAt m.given name) := by
    rcases isName with rfl | rfl
    · exact Model.member_givenMembers m.given (by decide) (by decide)
    · exact Model.member_givenMembers m.given (by decide) (by decide)
  have plain : name.Plain := by
    rcases isName with rfl | rfl
    · decide
    · decide
  have text : Model.givenAt m.given name = .null ∨ (Model.givenAt m.given name).isText = true := by
    rcases Model.mem_or_givenAt_eq_null m.given name with member | absent
    · exact m.isText_named isName member
    · exact .inl absent
  rw [m.member_received plain, sent]
  rcases text with absent | isText
  · rw [absent]
    rfl
  · obtain ⟨t, same⟩ := Value.isText_iff.1 isText
    rw [same]
    rfl

theorem member_received_labels :
    member m.received "labels" = Json.normal m.labels := by
  rw [m.member_received (by decide), m.member_labels]

theorem member_received_annotations :
    member m.received "annotations" = Json.normal m.annotations := by
  rw [m.member_received (by decide), m.member_annotations]

theorem memberFaults_received : memberFaults m.received = [] := by
  rw [memberFaults, m.textFaults_received (.inl rfl), m.textFaults_received (.inr rfl),
    m.member_received_labels, m.member_received_annotations,
    mapFaults_eq_nil.2 m.areLabels.typed.normal,
    mapFaults_eq_nil.2 m.areAnnotations.typed.normal]
  rfl

end ClientMetadata

/-- An object that a client holds as a model of its class. -/
structure ClientModel where
  cls : ModelClass
  metadata : Option ClientMetadata := none
  /-- The other attributes that are given. -/
  others : List (Text × Value) := []
  isObject : cls ≠ .objectMeta
  typed : ∀ field ∈ others, field.2.IsAttribute

namespace ClientModel

variable (m : ClientModel)

def given : List (Text × Value) :=
  ("metadata", (m.metadata.map ClientMetadata.value).getD .null) :: m.others

def value : Value := .ofModel m.cls m.given

/-- The labels and annotations that the object was given; without metadata it has none. -/
def maps : Value × Value :=
  match m.metadata with
  | none => (.null, .null)
  | some data => (data.labels, data.annotations)

theorem areDictionaries : m.maps.1.IsDictionary ∧ m.maps.2.IsDictionary := by
  unfold maps
  cases m.metadata with
  | none =>
      have nothing : Value.null.IsDictionary := ⟨.inl rfl, nofun⟩
      exact ⟨nothing, nothing⟩
  | some data => exact ⟨data.areLabels, data.areAnnotations⟩

theorem isWritable : m.value.IsWritable 3 := by
  refine isWritable_ofModel (List.forall_mem_cons.2 ⟨?_, ?_⟩) m.cls
  · cases m.metadata with
    | none => exact ⟨rfl, Nat.zero_le 2⟩
    | some data => exact data.isWritable
  · intro field member
    have writable := (m.typed field member).isWritable
    exact ⟨writable.tree, Nat.le_trans writable.shallow (by decide)⟩

theorem not_holdsSet : Model.holdsSet m.value = false := by
  rw [← Model.holdsSet_plain]
  exact Model.holdsSet_of_isTree _ m.isWritable.tree

theorem member_metadata : member (Model.givenMembers m.cls m.given) "metadata" =
    match m.metadata with
    | none => .null
    | some data => .map data.members := by
  have known : ("metadata" : Text) ∈ m.cls.attributes := by
    cases cls : m.cls with
    | objectMeta => exact absurd cls m.isObject
    | configMap => decide
    | secret => decide
    | «namespace» => decide
  rw [Model.member_givenMembers m.given known (by decide)]
  have first : Model.givenAt m.given "metadata" =
      (m.metadata.map ClientMetadata.value).getD .null := rfl
  rw [first]
  cases m.metadata with
  | none => rfl
  | some data => exact Model.plain_ofModel .objectMeta data.given

/-- **The gate reads the labels and annotations that the object was given.** -/
theorem extract_value : (ObjectState.ofModel m.value).extract = .ok m.maps := by
  have live : ObjectState.ofModel m.value =
      .ofLive (.document (.map (Model.givenMembers m.cls m.given))) := by
    rw [← Model.document_ofModel]
    rfl
  rw [live, ObjectState.extract_document, mapsFaults, Document.maps, m.member_metadata, maps]
  cases m.metadata with
  | none => rfl
  | some data =>
      simp only [data.member_labels, data.member_annotations,
        mapFaults_eq_nil.2 data.areLabels.typed, mapFaults_eq_nil.2 data.areAnnotations.typed]
      rfl

/-- The document of the object can be sent, and what is read of it is the normal form of its labels
and annotations. -/
theorem exists_encoded :
    ∃ raw, Review.encodeState (Model.document m.value) = .ok (.ofRaw raw) ∧
      (ObjectState.ofRaw raw).extract = .ok (Json.normal m.maps.1, Json.normal m.maps.2) := by
  obtain ⟨tree, shallow⟩ := m.isWritable
  have document : Model.document m.value = .map (Model.givenMembers m.cls m.given) :=
    Model.document_ofModel m.cls m.given
  have plain : Model.plain m.value = .map (Model.givenMembers m.cls m.given) :=
    Model.plain_ofModel m.cls m.given
  rw [plain] at tree shallow
  obtain ⟨raw, encoded, given, -, reads⟩ := Review.exists_encoded tree
    (fun impossible => by cases impossible) (Nat.le_trans shallow (by decide))
  refine ⟨raw, by rw [document, encoded], ?_⟩
  have arrives : member (Model.receivedMembers m.cls m.given) "metadata" =
      Json.normal (member (Model.givenMembers m.cls m.given) "metadata") :=
    Model.member_receivedMembers m.cls m.given (by decide)
  have normal : Json.normal (.map (Model.givenMembers m.cls m.given)) =
      .map (Model.receivedMembers m.cls m.given) := rfl
  rw [ObjectState.extract_raw given reads, normal, documentFaults, membersOf, arrives,
    m.member_metadata, maps]
  cases m.metadata with
  | none => rfl
  | some data =>
      have inner : Json.normal (.map data.members) = .map data.received := rfl
      simp only [inner, data.memberFaults_received, ofMembers, data.member_received_labels,
        data.member_received_annotations]
      rfl

/-- The gate cannot tell whether it is given the object or its bytes. -/
theorem handle_encoded {raw : Bytes}
    (reads : (ObjectState.ofRaw raw).extract = .ok (Json.normal m.maps.1, Json.normal m.maps.2))
    (v : Validator) (verbosity : Nat) (r : Request) :
    v.handle verbosity { r with new := .ofModel m.value } =
      v.handle verbosity { r with new := .ofRaw raw } := by
  obtain ⟨labels, annotations⟩ := m.areDictionaries
  have marker := anyManaged_congr ⟨labels.typed, annotations.typed⟩
    ⟨labels.typed.normal, annotations.typed.normal⟩
    (or_congr (Value.isMarked_normal_iff labels) (Value.isMarked_normal_iff annotations)).symm
  exact v.handle_congr_of_marker verbosity r m.extract_value reads marker

end ClientModel

/-- **Client models are adapted faithfully.**  Of a model the gate reads the labels and annotations
that it was given, and it answers every request alike whether the model is the new state or the
bytes of its document are.  Whatever holds no set is adapted, the document of a document is itself,
and a map is its own document exactly if neither a model nor a date stands in it. -/
theorem models_adapted :
    (∀ m : ClientModel, Model.adapt m.value = .ok (Model.document m.value) ∧
      ObjectState.adapt m.value = .ok (.ofModel m.value) ∧
      (ObjectState.ofModel m.value).extract = .ok m.maps ∧
      ∃ raw, Review.encodeState (Model.document m.value) = .ok (.ofRaw raw) ∧
        ∀ (v : Validator) (verbosity : Nat) (r : Request),
          v.handle verbosity { r with new := .ofModel m.value } =
            v.handle verbosity { r with new := .ofRaw raw }) ∧
    (∀ x : Value, Model.document (Model.document x) = Model.document x ∧
      (Model.holdsSet x = false ↔ ∃ d, Model.adapt x = .ok d ∧ Model.adapt d = .ok d)) ∧
    ∀ entries : Entries,
      (Model.document (.map entries) = .map entries ↔ Model.isPlain (.map entries) = true) ∧
      (Model.adapt (.map entries) = .ok (.map entries) ↔
        Model.isPlain (.map entries) = true ∧ Model.holdsSet (.map entries) = false) := by
  refine ⟨fun m => ?_, fun x => ?_, fun entries => ?_⟩
  · obtain ⟨raw, encoded, reads⟩ := m.exists_encoded
    exact ⟨Model.adapt_of_not_holdsSet m.not_holdsSet,
      ObjectState.adapt_of_not_holdsSet m.not_holdsSet, m.extract_value, raw, encoded,
      m.handle_encoded reads⟩
  · exact ⟨Model.document_document x, Model.not_holdsSet_iff⟩
  · exact ⟨Model.document_eq_self_iff, Model.adapt_eq_self_iff⟩

theorem isDictionary_of_texts {entries : Entries}
    (texts : ∀ entry ∈ entries, entry.1.isText = true ∧ entry.2.isText = true)
    (distinct : entries.areDistinct = true) : (Value.map entries).IsDictionary where
  typed := .inr ⟨entries, rfl, texts⟩
  distinct := by
    rintro _ ⟨⟩
    exact distinct

/-- A marked object with a date, an empty map, and a label in which a code point is held in two
halves. -/
def markedConfigMap : ClientModel where
  cls := .configMap
  metadata := some {
    labels := .map [(.text [Code.ofNat 0xD83D, Code.ofNat 0xDE00], "x"), ("managed-by", "arm")]
    annotations := .map []
    others := [("name", "settings"), ("creation_timestamp", .date ⟨2024, 1, 2⟩)]
    areLabels := isDictionary_of_texts (by decide) (by decide)
    areAnnotations := isDictionary_of_texts (by decide) (by decide)
    typed := List.forall_mem_cons.2 ⟨.text _, List.forall_mem_singleton.2 (.date _)⟩
    named := List.forall_mem_cons.2 ⟨fun _ => .inr rfl,
      List.forall_mem_singleton.2 fun isName => absurd isName (by decide)⟩ }
  others := [("immutable", .bool false)]
  isObject := by decide
  typed := List.forall_mem_singleton.2 (.bool false)

theorem models_adapted_markedConfigMap :
    Model.document markedConfigMap.value = .map [
        ("immutable", .bool false),
        ("metadata", .map [
          ("annotations", .map []),
          ("creationTimestamp", "2024-01-02"),
          ("labels", .map [
            (.text [Code.ofNat 0xD83D, Code.ofNat 0xDE00], "x"), ("managed-by", "arm")]),
          ("name", "settings")])] ∧
      ∃ raw log, Review.encodeState (Model.document markedConfigMap.value) = .ok (.ofRaw raw) ∧
        Validator.handle ⟨[.text "alice"]⟩ (Log.verbosity none)
            { markedRequest.untyped with new := .ofRaw raw } =
          .ok ⟨.deny (.text markedRequest.reason), log⟩ := by
  obtain ⟨-, -, -, raw, encoded, alike⟩ := models_adapted.1 markedConfigMap
  refine ⟨rfl, raw, [], encoded, ?_⟩
  rw [← alike ⟨[.text "alice"]⟩ (Log.verbosity none) markedRequest.untyped]
  rfl

end AdmissionGate
