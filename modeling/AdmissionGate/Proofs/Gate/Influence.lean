/-
# AdmissionGate.Proofs.Gate.Influence -- what a verdict depends on

The gate looks at the states of an object once to see that they can be read, and once
more for the marker in the new one; after that labels and annotations are forgotten
(`decide_congr`).  So two requests that can be read and agree in operation, user, kind,
name and namespace, and in whether the new object has the marker, get one verdict,
whatever else they hold and whatever is logged (`handle_noninterference`).

For objects that are sent as bytes it is enough that the two documents have the same
entry at the key of the marker in their labels, and in their annotations: what stands
anywhere else in a document does not reach its labels and annotations.
-/
import AdmissionGate.Proofs.Gate.Handle
import AdmissionGate.Proofs.Review.Encode

namespace AdmissionGate

set_option autoImplicit false

def Value.markerEntry : Value → Option Value
  | .map entries => Entries.get? entries "managed-by"
  | _ => none

namespace TypedRequest

/-- Two requests that ask for the same, apart from the states of the object. -/
structure AsksLike (r s : TypedRequest) : Prop where
  operation : r.operation = s.operation
  kind : r.kind = s.kind
  name : r.name = s.name
  «namespace» : r.namespace = s.namespace
  username : r.username = s.username

def IsReadable (r : TypedRequest) : Prop := ∃ labels annotations, r.Reads labels annotations

def IsMarked (r : TypedRequest) : Prop :=
  ∃ labels annotations, r.new.extract = .ok (labels, annotations) ∧
    (labels.IsMarked ∨ annotations.IsMarked)

theorem AsksLike.isGuarded_iff {r s : TypedRequest} (like : r.AsksLike s) :
    r.IsGuarded ↔ s.IsGuarded := by
  rw [IsGuarded, IsGuarded, like.operation]

theorem isMarked_iff {r : TypedRequest} {labels annotations : Value}
    (reads : r.Reads labels annotations) :
    r.IsMarked ↔ labels.IsMarked ∨ annotations.IsMarked := by
  constructor
  · rintro ⟨otherLabels, otherAnnotations, new, marked⟩
    obtain ⟨rfl, rfl⟩ := reads.unique ⟨new, reads.2⟩
    exact marked
  · exact fun marked => ⟨labels, annotations, reads.1, marked⟩

end TypedRequest

/-! ## The marker -/

theorem Value.isMarked_iff_markerEntry {v : Value} :
    v.IsMarked ↔ v.markerEntry = some (.text "arm") := by
  cases v <;> simp [IsMarked, markerEntry]

theorem ObjectState.isStringMap_of_extract {s : ObjectState} (typed : s.IsTyped)
    {labels annotations : Value} (reads : s.extract = .ok (labels, annotations)) :
    labels.IsStringMap ∧ annotations.IsStringMap := by
  rcases extract_cases typed with ⟨_, _, same, maps⟩ | ⟨cause, refused⟩ | stuck
  · rw [reads] at same
    cases same
    exact maps
  · simp [reads] at refused
  · simp [reads] at stuck

/-- Of two pairs of maps the gate asks only which of them have the marker. -/
theorem anyManaged_congr {labels annotations otherLabels otherAnnotations : Value}
    (typed : labels.IsStringMap ∧ annotations.IsStringMap)
    (otherTyped : otherLabels.IsStringMap ∧ otherAnnotations.IsStringMap)
    (marker : labels.IsMarked ∨ annotations.IsMarked ↔
      otherLabels.IsMarked ∨ otherAnnotations.IsMarked) :
    anyManaged labels annotations = anyManaged otherLabels otherAnnotations := by
  simp only [anyManaged_of_isStringMap, typed, otherTyped, marker]

/-! ## The verdict -/

/-- **Labels and annotations reach the verdict by the marker only.** -/
theorem Validator.decide_congr (v : Validator) {r s : Request}
    (operation : r.operation = s.operation) (kind : r.kind = s.kind) (name : r.name = s.name)
    (space : r.namespace = s.namespace) (username : r.username = s.username)
    {labels annotations otherLabels otherAnnotations : Value}
    (marker : anyManaged labels annotations = anyManaged otherLabels otherAnnotations) :
    v.decide r labels annotations = v.decide s otherLabels otherAnnotations := by
  have needs {q : Question} {first second : Value} (given : q.new = some [first, second]) :
      needsWhitelist q = isGuarded q.operation >>= fun guarded =>
        if guarded then anyManaged first second else pure false := by
    simp [needsWhitelist, given, metadataParts]
  unfold decide evaluate
  rw [needs rfl, needs rfl, operation, kind, name, space, username, marker]
  rfl

/-- The answer of the gate depends on a new state that can be read by the marker only. -/
theorem Validator.handle_congr_of_marker (v : Validator) (verbosity : Nat) (r : Request)
    {new other : ObjectState} {labels annotations otherLabels otherAnnotations : Value}
    (reads : new.extract = .ok (labels, annotations))
    (otherReads : other.extract = .ok (otherLabels, otherAnnotations))
    (marker : anyManaged labels annotations = anyManaged otherLabels otherAnnotations) :
    v.handle verbosity { r with new := new } = v.handle verbosity { r with new := other } := by
  have both {s : ObjectState} {maps : Value × Value} (given : s.extract = .ok maps) :
      extractBoth { r with new := s } = r.old.extract >>= fun _ => pure maps := by
    simp [extractBoth, given]
  have same := v.decide_congr (r := { r with new := new }) (s := { r with new := other }) rfl rfl
    rfl rfl rfl marker
  simp only [handle, both reads, both otherReads]
  cases r.old.extract with
  | error fault => rfl
  | ok maps =>
      simp only [ok_bind, pure_eq_ok, same]
      rfl

/-! ## Any gate gives a verdict -/

/-- The whitelist of a gate is a normal one, whatever its users were. -/
theorem Validator.isNormal_whitelist {v : Validator} {users : Value}
    (made : ofUsers users = .ok v) : v.whitelist.IsNormal := by
  obtain ⟨w, walked, same⟩ := bind_eq_ok_iff.1 made
  cases same
  exact Whitelist.isNormal_of_ofValue walked

/-- The whitelist of a gate answers every name. -/
theorem exists_judge {v : Validator} {users : Value} (made : Validator.ofUsers users = .ok v)
    (q : Question) {name reason : Text} (requester : q.requester = .text name)
    (denial : denialReason q.kind q.name q.namespace = .ok reason) :
    ∃ verdict, (Whitelist.ofValue (.set v.whitelist) >>= judge q) = .ok verdict := by
  rw [Whitelist.ofValue_set_of_isNormal (Validator.isNormal_whitelist made), ok_bind]
  cases known : Whitelist.holds v.whitelist (.text name) <;> simp [judge, requester, denial, known]

theorem exists_decide_untyped {v : Validator} {users : Value}
    (made : Validator.ofUsers users = .ok v) (r : TypedRequest) {labels annotations : Value}
    (typed : labels.IsStringMap ∧ annotations.IsStringMap) (guarded : r.IsGuarded) :
    ∃ verdict, v.decide r.untyped labels annotations = .ok verdict := by
  have operation : isGuarded r.untyped.operation = .ok true := by simp [guarded]
  have marker := anyManaged_of_isStringMap typed.1 typed.2
  unfold Validator.decide evaluate
  rw [needsWhitelist_of_isGuarded operation rfl marker]
  by_cases marked : labels.IsMarked ∨ annotations.IsMarked
  · rw [decide_eq_true marked]
    exact exists_judge made _ rfl (denialReason_untyped r)
  · rw [decide_eq_false marked]
    exact ⟨_, rfl⟩

/-! ## Documents that are sent -/

/-- A document that can be sent, and the metadata that it gives. -/
structure IsSent (document : Entries) (m : Metadata) : Prop where
  exact : Json.isExact (.map document) = true
  shallow : Json.depth (.map document) ≤ 600
  metadata : Metadata.IsMetadataOf (.map document) m

theorem IsSent.exists_encoded {document : Entries} {m : Metadata} (sent : IsSent document m) :
    ∃ raw, Review.encodeState (.map document) = .ok (.ofRaw raw) ∧
      (ObjectState.ofRaw raw).extract = .ok (m.labels, m.annotations) := by
  obtain ⟨raw, encoded, given, reads⟩ := Review.exists_encoded_of_isExact sent.exact
    (fun impossible => by cases impossible) sent.shallow
  refine ⟨raw, encoded, ?_⟩
  rw [ObjectState.extract_ofRaw given, (Metadata.decode_ok_iff reads).2 sent.metadata]
  rfl

/-- **Nothing else reaches the verdict.**  Requests that ask for the same, can be read and agree in
whether the new object has the marker get one verdict of any gate, at any verbosities.  And of two
documents with the same entry at the key of the marker in their labels, and the same in their
annotations, either can be sent as the new state of any request: the answer is the same. -/
theorem handle_noninterference :
    (∀ (users : Value) (v : Validator), Validator.ofUsers users = .ok v →
      ∀ r s : TypedRequest, r.AsksLike s → r.IsReadable → s.IsReadable →
        (r.IsMarked ↔ s.IsMarked) → ∀ setting otherSetting : Option Text,
          ∃ verdict log otherLog,
            v.handle (Log.verbosity setting) r.untyped = .ok ⟨verdict, log⟩ ∧
              v.handle (Log.verbosity otherSetting) s.untyped = .ok ⟨verdict, otherLog⟩) ∧
    ∀ (document other : Entries) (m n : Metadata), IsSent document m → IsSent other n →
      m.labels.markerEntry = n.labels.markerEntry →
      m.annotations.markerEntry = n.annotations.markerEntry →
        ∃ raw otherRaw, Review.encodeState (.map document) = .ok (.ofRaw raw) ∧
          Review.encodeState (.map other) = .ok (.ofRaw otherRaw) ∧
          ∀ (v : Validator) (verbosity : Nat) (r : Request),
            v.handle verbosity { r with new := .ofRaw raw } =
              v.handle verbosity { r with new := .ofRaw otherRaw } := by
  constructor
  · rintro users v made r s like ⟨labels, annotations, reads⟩ ⟨otherLabels, otherAnnotations,
      otherReads⟩ marker setting otherSetting
    by_cases guarded : r.IsGuarded
    · have typed := ObjectState.isStringMap_of_extract r.typedNew reads.1
      have otherTyped := ObjectState.isStringMap_of_extract s.typedNew otherReads.1
      rw [TypedRequest.isMarked_iff reads, TypedRequest.isMarked_iff otherReads] at marker
      obtain ⟨verdict, decided⟩ := exists_decide_untyped made r typed guarded
      have same : v.decide r.untyped labels annotations =
          v.decide s.untyped otherLabels otherAnnotations :=
        v.decide_congr (congrArg Value.text like.operation) (congrArg TypedKind.untyped like.kind)
          (congrArg Value.text like.name) (congrArg Value.text like.namespace)
          (congrArg Value.text like.username) (anyManaged_congr typed otherTyped marker)
      obtain ⟨log, answer⟩ := handle_of_decide (Log.verbosity setting) guarded reads decided
      obtain ⟨otherLog, otherAnswer⟩ := handle_of_decide (Log.verbosity otherSetting)
        (like.isGuarded_iff.1 guarded) otherReads (same.symm.trans decided)
      exact ⟨verdict, log, otherLog, answer, otherAnswer⟩
    · obtain ⟨log, answer⟩ := handle_of_not_isGuarded (Log.verbosity setting) v guarded
      obtain ⟨otherLog, otherAnswer⟩ := handle_of_not_isGuarded (Log.verbosity otherSetting) v
        (fun otherGuarded => guarded (like.isGuarded_iff.2 otherGuarded))
      exact ⟨_, log, otherLog, answer, otherAnswer⟩
  · intro document other m n sent otherSent labels annotations
    obtain ⟨raw, encoded, reads⟩ := sent.exists_encoded
    obtain ⟨otherRaw, otherEncoded, otherReads⟩ := otherSent.exists_encoded
    have typed := Metadata.isTyped_of_isMetadataOf sent.metadata
    have otherTyped := Metadata.isTyped_of_isMetadataOf otherSent.metadata
    have marker := anyManaged_congr ⟨typed.labels, typed.annotations⟩
      ⟨otherTyped.labels, otherTyped.annotations⟩ <| by
        simp only [Value.isMarked_iff_markerEntry, labels, annotations]
    exact ⟨raw, otherRaw, encoded, otherEncoded, fun v verbosity r =>
      v.handle_congr_of_marker verbosity r reads otherReads marker⟩

/-- A request that asks for what `markedRequest` asks for, with the marker in the annotations of
metadata, and differs from it in everything else. -/
def disguisedRequest : TypedRequest where
  operation := "CREATE"
  kind := { version := "v1", kind := "Pod" }
  name := "web"
  «namespace» := "prod"
  username := "mallory"
  groups := ["system:masters"]
  new := .ofLive (.metadata { annotations := .map [("managed-by", "arm")] })
  old := .ofLive (.document (.map (labelled [("a", "b")])))
  requestKind := some { kind := "Deployment" }
  subResource := "status"
  uid := "u7"
  typedNew := by
    rintro object held
    cases held
    exact .metadata (.inl rfl) (.inr ⟨_, rfl, List.forall_mem_singleton.2 ⟨rfl, rfl⟩⟩)
  typedOld := isTyped_labelled _

/-- A document in which the marker stands in the labels of another object inside it. -/
def nestingPod : Entries := [
  ("metadata", .map [("labels", .map [("app", "web")])]),
  ("spec", .map [("metadata", .map [("labels", .map [("managed-by", "arm")])])])]

theorem handle_noninterference_disguisedRequest :
    (markedRequest.AsksLike disguisedRequest ∧ markedRequest.IsReadable ∧
        disguisedRequest.IsReadable ∧ (markedRequest.IsMarked ↔ disguisedRequest.IsMarked) ∧
        IsSent nestingPod { labels := .map [("app", "web")] } ∧ IsSent [] {}) ∧
      (∃ v verdict log otherLog, Validator.ofUsers (.list [.text "alice"]) = .ok v ∧
        v.handle (Log.verbosity none) markedRequest.untyped = .ok ⟨verdict, log⟩ ∧
        v.handle (Log.verbosity (some "3")) disguisedRequest.untyped = .ok ⟨verdict, otherLog⟩) ∧
      ∃ raw otherRaw, Review.encodeState (.map nestingPod) = .ok (.ofRaw raw) ∧
        Review.encodeState (.map []) = .ok (.ofRaw otherRaw) ∧
        ∀ (v : Validator) (verbosity : Nat) (r : Request),
          v.handle verbosity { r with new := .ofRaw raw } =
            v.handle verbosity { r with new := .ofRaw otherRaw } := by
  have like : markedRequest.AsksLike disguisedRequest := ⟨rfl, rfl, rfl, rfl, rfl⟩
  have readable : markedRequest.IsReadable := ⟨_, _, rfl, _, rfl⟩
  have otherReadable : disguisedRequest.IsReadable := ⟨_, _, rfl, _, rfl⟩
  have marker : markedRequest.IsMarked ↔ disguisedRequest.IsMarked :=
    iff_of_true ⟨_, _, rfl, .inl ⟨_, rfl, rfl⟩⟩ ⟨_, _, rfl, .inr ⟨_, rfl, rfl⟩⟩
  have sent : IsSent nestingPod { labels := .map [("app", "web")] } :=
    ⟨by decide, by decide, Metadata.isMetadataOf_iff.2 ⟨rfl, rfl⟩⟩
  have otherSent : IsSent [] {} := ⟨by decide, by decide, Metadata.isMetadataOf_iff.2 ⟨rfl, rfl⟩⟩
  obtain ⟨requests, documents⟩ := handle_noninterference
  refine ⟨⟨like, readable, otherReadable, marker, sent, otherSent⟩, ?_, ?_⟩
  · obtain ⟨verdict, log, otherLog, answers⟩ := requests (.list [.text "alice"]) _ rfl
      markedRequest disguisedRequest like readable otherReadable marker none (some "3")
    exact ⟨_, verdict, log, otherLog, rfl, answers⟩
  · exact documents nestingPod [] _ _ sent otherSent rfl rfl

end AdmissionGate
