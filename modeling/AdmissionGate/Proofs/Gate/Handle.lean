/-
# AdmissionGate.Proofs.Gate.Handle -- the gate gives the verdict

Every member of a typed request can be shown, so the log never stops the gate, and
every question that the gate asks about such a request has an answer.  What is left
is the order of the questions, which is that of `Decided`.
-/
import AdmissionGate.Proofs.Gate.Conclusion
import AdmissionGate.Proofs.Gate.Decision
import AdmissionGate.Proofs.Gate.Log
import AdmissionGate.Proofs.Json.Digits

namespace AdmissionGate

set_option autoImplicit false

/-! ## What is logged -/

def Text.listed (texts : List Text) : Text := "[" ++ Text.join ", " (texts.map Text.quoted) ++ "]"

def assigned (field : Text × Text) : Text := field.1 ++ "=" ++ field.2

theorem Value.sketchItems_texts (inModel : Bool) (texts : List Text) :
    sketchItems inModel (texts.map .text) = .ok (texts.map .words) := by
  induction texts with
  | nil => rfl
  | cons t rest ih => simp [sketchItems, sketch, ih]

theorem Sketch.lineItems_words (texts : List Text) :
    lineItems (texts.map .words) = texts.map Text.quoted := by
  induction texts with
  | nil => rfl
  | cons t rest ih => simp [lineItems, line, ih]

@[simp] theorem Value.shown_text (t : Text) : (Value.text t).shown = .ok t := rfl

@[simp] theorem Value.shown_texts (texts : List Text) :
    (Value.list (texts.map .text)).shown = .ok (Text.listed texts) := by
  simp [shown, display, quoted, sketch, sketchItems_texts, Sketch.line, Sketch.lineItems_words,
    Text.listed]

@[simp] theorem TypedKind.shown_untyped (k : TypedKind) : k.untyped.shown = .ok k.shown := by
  obtain ⟨group, version, kind⟩ := k
  unfold ResourceKind.shown TypedKind.shown
  cases group with
  | cons c group => rfl
  | nil => cases version <;> rfl

namespace TypedRequest

def fullName (r : TypedRequest) : Text :=
  if r.namespace ≠ [] then r.namespace ++ "/" ++ r.name else r.name

@[simp] theorem namespacedName_untyped (r : TypedRequest) :
    r.untyped.namespacedName = .ok (.text r.fullName) := by
  cases space : r.namespace <;> simp [Request.namespacedName, fullName, space, Value.isTruthy]

def logFields (r : TypedRequest) : List (Text × Text) := [
  ("user", r.username),
  ("groups", Text.listed r.groups),
  ("operation", r.operation),
  ("GVK", (r.requestKind.getD r.kind).shown),
  ("subResource", r.subResource),
  ("namespacedName", r.fullName)
]

theorem showFields_untyped (r : TypedRequest) :
    Log.showFields (Validator.logFields r.untyped (.text r.fullName)) =
      .ok (r.logFields.map assigned) := by
  have kind : r.untyped.shownKind.shown = .ok (r.requestKind.getD r.kind).shown := by
    rw [Request.shownKind, untyped]
    cases r.requestKind with
    | none => exact r.kind.shown_untyped
    | some asked => exact asked.shown_untyped
  simp [Validator.logFields, Log.showFields, logFields, assigned, kind]

theorem logFields_untyped (r : TypedRequest) :
    ∀ field ∈ Validator.logFields r.untyped (.text r.fullName), ∃ t, field.2 = .ok t :=
  Log.showFields_iff.1 ⟨_, r.showFields_untyped⟩

/-! ## The questions -/

@[simp] theorem isGuarded_untyped (r : TypedRequest) :
    AdmissionGate.isGuarded (.text r.operation) = .ok (decide r.IsGuarded) := by
  have asked : Whitelist.holds (Whitelist.ofNames ["CREATE", "UPDATE"]) (.text r.operation) =
      decide r.IsGuarded := by
    rw [Bool.eq_iff_iff, Whitelist.holds_ofNames, decide_eq_true_iff]
    simp [IsGuarded]
  exact congrArg Except.ok asked

end TypedRequest

@[simp] theorem isManaged_of_isStringMap {v : Value} (typed : v.IsStringMap) :
    isManaged v = .ok (decide v.IsMarked) := by
  rcases typed with rfl | ⟨entries, rfl, -⟩
  · rfl
  cases entries with
  | nil => rfl
  | cons entry rest =>
      refine congrArg Except.ok ?_
      rw [Bool.eq_iff_iff, decide_eq_true_iff, Value.isMarked_map]
      change _ ↔ Entries.get? (entry :: rest) markerKey = some (.text markerValue)
      cases Entries.get? (entry :: rest) markerKey with
      | none => simp
      | some w => cases w <;> simp

@[simp] theorem anyManaged_of_isStringMap {labels annotations : Value}
    (labelsTyped : labels.IsStringMap) (annotationsTyped : annotations.IsStringMap) :
    anyManaged labels annotations = .ok (decide (labels.IsMarked ∨ annotations.IsMarked)) := by
  by_cases inLabels : labels.IsMarked <;>
    simp [anyManaged, labelsTyped, annotationsTyped, inLabels]

@[simp] theorem denialReason_untyped (r : TypedRequest) :
    denialReason r.kind.untyped (.text r.name) (.text r.namespace) = .ok r.reason := by
  simp [denialReason, TypedRequest.reason]

theorem needsWhitelist_of_isGuarded {q : Question} {labels annotations : Value} {managed : Bool}
    (guarded : isGuarded q.operation = .ok true)
    (new : metadataParts q.new = .ok (labels, annotations))
    (marker : anyManaged labels annotations = .ok managed) : needsWhitelist q = .ok managed := by
  simp [needsWhitelist, guarded, new, marker]

/-- A managed object may be changed by the names in a whitelist. -/
theorem judge_ofNames {q : Question} {name reason : Text} (requester : q.requester = .text name)
    (denial : denialReason q.kind q.name q.namespace = .ok reason) (names : List Text)
    [Decidable (name ∈ names)] :
    judge q (Whitelist.ofNames names) =
      .ok (if name ∈ names then .allow (.text []) else .deny (.text reason)) := by
  by_cases known : name ∈ names <;> simp [judge, requester, known, denial]

/-- Once both states have been read, the gate decides by marker and whitelist. -/
theorem decide_untyped {names all : List Text} (mem : ∀ name, name ∈ all ↔ name ∈ names ∧ name ≠ [])
    {r : TypedRequest} (guarded : r.IsGuarded) {labels annotations : Value}
    (reads : r.Reads labels annotations) (labelsTyped : labels.IsStringMap)
    (annotationsTyped : annotations.IsStringMap) :
    ∃ verdict, Validator.decide ⟨Whitelist.ofNames all⟩ r.untyped labels annotations = .ok verdict ∧
      Decided names r verdict := by
  obtain ⟨again, normalized, memAgain⟩ := Whitelist.ofValue_set_ofNames all
  have operation : isGuarded r.untyped.operation = .ok true := by simp [guarded]
  have marker := anyManaged_of_isStringMap labelsTyped annotationsTyped
  unfold Validator.decide evaluate
  rw [needsWhitelist_of_isGuarded operation rfl marker]
  by_cases marked : labels.IsMarked ∨ annotations.IsMarked
  · have known : r.username ∈ again ↔ r.username ∈ names ∧ r.username ≠ [] := by
      rw [memAgain, mem]
      exact ⟨fun both => both.1, fun both => ⟨both, both.2⟩⟩
    simp only [decide_eq_true marked, Users.consult, normalized]
    have judged := judge_ofNames (q := ⟨r.untyped.operation, some [labels, annotations],
      r.untyped.username, r.untyped.kind, r.untyped.name, r.untyped.namespace⟩) rfl
      (denialReason_untyped r) again
    refine ⟨_, judged, ?_⟩
    by_cases inAgain : r.username ∈ again
    · rw [if_pos inAgain]
      exact .whitelisted guarded reads marked (known.1 inAgain)
    · rw [if_neg inAgain]
      exact .denied guarded reads marked fun both => inAgain (known.2 both)
  · simp only [decide_eq_false marked]
    exact ⟨_, rfl, .unmanaged guarded reads marked⟩

/-! ## What the gate comes to -/

section Conclusion

variable {r : TypedRequest}

theorem extractBoth_of_reads {labels annotations : Value} (reads : r.Reads labels annotations) :
    Validator.extractBoth r.untyped = .ok (labels, annotations) := by
  obtain ⟨new, maps, old⟩ := reads
  simp [Validator.extractBoth, new, old]

/-- The new state is read first. -/
theorem extractBoth_of_error {fault : Fault}
    (refused : r.new.extract = .error fault ∨
      (∃ maps, r.new.extract = .ok maps) ∧ r.old.extract = .error fault) :
    Validator.extractBoth r.untyped = .error fault := by
  rcases refused with new | ⟨⟨maps, new⟩, old⟩
  · simp [Validator.extractBoth, new]
  · simp [Validator.extractBoth, new, old]

theorem conclude_of_not_isGuarded (v : Validator) (unguarded : ¬ r.IsGuarded) :
    v.conclude r.untyped =
      .ok { verdict := .allow (.text []), message := "operation is not guarded, allowing" } := by
  simp [Validator.conclude, unguarded]

theorem conclude_of_isRefused (v : Validator) (guarded : r.IsGuarded) {cause : DecodeFault}
    (refused : r.IsRefused cause) :
    v.conclude r.untyped = .ok {
      verdict := .error (.int 500) cause.message
      message := "failed to get labels and annotations"
      extra := [("err", .ok cause.message)] } := by
  simp [Validator.conclude, guarded, extractBoth_of_error refused]

theorem conclude_of_reads (v : Validator) (guarded : r.IsGuarded) {labels annotations : Value}
    (reads : r.Reads labels annotations) {verdict : Verdict}
    (answered : v.decide r.untyped labels annotations = .ok verdict) :
    v.conclude r.untyped = .ok { verdict := verdict, message := Validator.messageOf verdict } := by
  simp [Validator.conclude, guarded, extractBoth_of_reads reads, answered]

theorem conclude_of_getsStuck (v : Validator) (stuck : r.GetsStuck) :
    v.conclude r.untyped = .error tooLarge := by
  obtain ⟨guarded, where_⟩ := stuck
  rw [← ObjectState.extract_eq_tooLarge_iff r.typedNew,
    ← ObjectState.extract_eq_tooLarge_iff r.typedOld] at where_
  simp [Validator.conclude, guarded, extractBoth_of_error where_, tooLarge]

end Conclusion

/-! ## The answer -/

section Answer

variable {names all : List Text} {r : TypedRequest} (verbosity : Nat)

/-- The gate answers with what it comes to: what it logs of a typed request can be shown. -/
theorem handle_of_conclude {v : Validator} {c : Validator.Conclusion}
    (concluded : v.conclude r.untyped = .ok c) (shown : ∀ field ∈ c.extra, ∃ t, field.2 = .ok t) :
    ∃ log, v.handle verbosity r.untyped = .ok ⟨c.verdict, log⟩ := by
  obtain ⟨log, written⟩ :=
    Log.emit_of_shown (List.forall_mem_append.2 ⟨shown, r.logFields_untyped⟩) verbosity
      (if c.verdict.isAllowed then 3 else 2) c.message
  exact ⟨log, by simp [Validator.handle_eq, concluded, written]⟩

theorem handle_of_not_isGuarded (v : Validator) (passes : ¬ r.IsGuarded) :
    ∃ log, v.handle verbosity r.untyped = .ok ⟨⟨.allow, .int 200, .text [], .text []⟩, log⟩ :=
  handle_of_conclude verbosity (conclude_of_not_isGuarded v passes) nofun

theorem handle_of_getsStuck (v : Validator) (stuck : r.GetsStuck) :
    v.handle verbosity r.untyped = .error tooLarge := by
  simp [Validator.handle_eq, conclude_of_getsStuck v stuck]

theorem handle_of_isRefused (v : Validator) (guarded : r.IsGuarded) {cause : DecodeFault}
    (refused : r.IsRefused cause) :
    ∃ log, v.handle verbosity r.untyped =
      .ok ⟨⟨.error, .int 500, .text [], .text cause.message⟩, log⟩ :=
  handle_of_conclude verbosity (conclude_of_isRefused v guarded refused)
    (List.forall_mem_singleton.2 ⟨_, rfl⟩)

/-- The verdict on a request whose states can be read is the answer. -/
theorem handle_of_decide {v : Validator} (guarded : r.IsGuarded) {labels annotations : Value}
    (reads : r.Reads labels annotations) {verdict : Verdict}
    (answered : v.decide r.untyped labels annotations = .ok verdict) :
    ∃ log, v.handle verbosity r.untyped = .ok ⟨verdict, log⟩ :=
  handle_of_conclude verbosity (conclude_of_reads v guarded reads answered) nofun

theorem handle_of_reads (mem : ∀ name, name ∈ all ↔ name ∈ names ∧ name ≠ [])
    (guarded : r.IsGuarded) {labels annotations : Value} (reads : r.Reads labels annotations)
    (labelsTyped : labels.IsStringMap) (annotationsTyped : annotations.IsStringMap) :
    ∃ verdict log, Validator.handle ⟨Whitelist.ofNames all⟩ verbosity r.untyped =
      .ok ⟨verdict, log⟩ ∧ Decided names r verdict := by
  obtain ⟨verdict, answered, decided⟩ :=
    decide_untyped mem guarded reads labelsTyped annotationsTyped
  obtain ⟨log, answer⟩ := handle_of_decide verbosity guarded reads answered
  exact ⟨verdict, log, answer, decided⟩

/-- The states of a guarded request are read, or one of them cannot be decoded, unless it gets
stuck. -/
theorem TypedRequest.reads_or_isRefused (guarded : r.IsGuarded) (free : ¬ r.GetsStuck) :
    (∃ labels annotations, r.Reads labels annotations ∧
        labels.IsStringMap ∧ annotations.IsStringMap) ∨
      ∃ cause, r.IsRefused cause := by
  rcases ObjectState.extract_cases r.typedNew with
    ⟨labels, annotations, new, labelsTyped, annotationsTyped⟩ | ⟨cause, new⟩ | stuck
  · rcases ObjectState.extract_cases r.typedOld with ⟨_, _, old, -, -⟩ | ⟨cause, old⟩ | stuck
    · exact .inl ⟨labels, annotations, ⟨new, _, old⟩, labelsTyped, annotationsTyped⟩
    · exact .inr ⟨cause, .inr ⟨⟨_, new⟩, old⟩⟩
    · have oldStuck := (ObjectState.extract_eq_tooLarge_iff r.typedOld).1 stuck
      exact absurd ⟨guarded, .inr ⟨⟨_, new⟩, oldStuck⟩⟩ free
  · exact .inr ⟨cause, .inl new⟩
  · have newStuck := (ObjectState.extract_eq_tooLarge_iff r.typedNew).1 stuck
    exact absurd ⟨guarded, .inl newStuck⟩ free

/-- A typed request that does not get stuck is answered with its verdict. -/
theorem handle_of_not_getsStuck (mem : ∀ name, name ∈ all ↔ name ∈ names ∧ name ≠ [])
    (free : ¬ r.GetsStuck) :
    ∃ verdict log, Validator.handle ⟨Whitelist.ofNames all⟩ verbosity r.untyped =
      .ok ⟨verdict, log⟩ ∧ Decided names r verdict := by
  by_cases guarded : r.IsGuarded
  · rcases TypedRequest.reads_or_isRefused guarded free with
      ⟨labels, annotations, reads, labelsTyped, annotationsTyped⟩ | ⟨cause, refused⟩
    · exact handle_of_reads verbosity mem guarded reads labelsTyped annotationsTyped
    · obtain ⟨log, answer⟩ := handle_of_isRefused verbosity _ guarded refused
      exact ⟨_, log, answer, .refused guarded refused⟩
  · obtain ⟨log, answer⟩ := handle_of_not_isGuarded verbosity _ guarded
    exact ⟨_, log, answer, .unguarded guarded⟩

end Answer

/-- Well-typed users make a gate, and the names that may pass are theirs without the empty one. -/
theorem Validator.ofUsers_of_namesOf {users : Value} {names : List Text}
    (given : NamesOf users names) :
    ∃ all, ofUsers users = .ok ⟨Whitelist.ofNames all⟩ ∧
      ∀ name, name ∈ all ↔ name ∈ names ∧ name ≠ [] := by
  obtain ⟨all, whitelist, mem⟩ := Whitelist.ofValue_of_namesOf given
  exact ⟨all, by simp [ofUsers, whitelist], mem⟩

/-- **What the gate answers.**  Well-typed users make a gate, and at any verbosity it gives a typed
request the one verdict that `Decided` says -- unless reading a state of a guarded request comes
to a key with an integer that is too large to be shown, and then it gives none.  The stream of the
log is taken to accept every text, and the stack to be deep enough for the documents. -/
theorem handle_decides {users : Value} {names : List Text} (given : NamesOf users names)
    (setting : Option Text) (r : TypedRequest) :
    ∃ v, Validator.ofUsers users = .ok v ∧
      (¬ r.GetsStuck → ∃ verdict log, v.handle (Log.verbosity setting) r.untyped =
        .ok ⟨verdict, log⟩ ∧ ∀ w, Decided names r w ↔ w = verdict) ∧
      (r.GetsStuck →
        v.handle (Log.verbosity setting) r.untyped = .error (.integer .tooLarge)) := by
  obtain ⟨all, whitelist, mem⟩ := Whitelist.ofValue_of_namesOf given
  refine ⟨⟨Whitelist.ofNames all⟩, by simp [Validator.ofUsers, whitelist], ?_, ?_⟩
  · intro free
    obtain ⟨verdict, log, answer, decided⟩ := handle_of_not_getsStuck _ mem free
    refine ⟨verdict, log, answer, fun w => ⟨fun other => other.unique decided, ?_⟩⟩
    rintro rfl
    exact decided
  · exact handle_of_getsStuck _ _

def labelled (labels : Entries) : Entries := [("metadata", .map [("labels", .map labels)])]

theorem isTyped_labelled (labels : Entries) :
    (ObjectState.ofLive (.document (.map (labelled labels)))).IsTyped := by
  rintro object held
  cases held
  exact .document (by simp [labelled, Value.isText])

theorem isTyped_empty : ObjectState.empty.IsTyped := by
  rintro object impossible
  cases impossible

def markedRequest : TypedRequest where
  operation := "CREATE"
  kind := { version := "v1", kind := "Pod" }
  name := "web"
  «namespace» := "prod"
  username := "mallory"
  new := .ofLive (.document (.map (labelled [("managed-by", "arm")])))
  typedNew := isTyped_labelled _
  typedOld := isTyped_empty

theorem handle_decides_markedRequest :
    (NamesOf (.list [.text "alice"]) ["alice"] ∧ ¬ markedRequest.GetsStuck) ∧
      ∃ v log, Validator.ofUsers (.list [.text "alice"]) = .ok v ∧
        v.handle (Log.verbosity (some "3")) markedRequest.untyped = .ok ⟨⟨.deny, .int 403,
          .text ("resource " ++ ("v1" ++ ", Kind=" ++ "Pod") ++ " \"" ++ "web" ++
            "\" in namespace \"" ++ "prod" ++
            "\" is managed by ARM and can only be modified by whitelisted users"),
          .text []⟩, log⟩ := by
  have given : NamesOf (.list [.text "alice"]) ["alice"] := .many ["alice"]
  have new : markedRequest.new.extract = .ok (.map [("managed-by", "arm")], .null) := rfl
  have old : markedRequest.old.extract = .ok (.null, .null) := rfl
  have free : ¬ markedRequest.GetsStuck := by
    rintro ⟨-, stuck | ⟨-, stuck⟩⟩
    · have refused := (ObjectState.extract_eq_tooLarge_iff markedRequest.typedNew).2 stuck
      simp [new] at refused
    · have refused := (ObjectState.extract_eq_tooLarge_iff markedRequest.typedOld).2 stuck
      simp [old] at refused
  have denied : Decided ["alice"] markedRequest
      ⟨.deny, .int 403, .text markedRequest.reason, .text []⟩ :=
    .denied (.inl rfl) ⟨new, _, old⟩ (.inl ⟨_, rfl, rfl⟩) (by decide)
  obtain ⟨v, made, decides, -⟩ := handle_decides given (some "3") markedRequest
  obtain ⟨verdict, log, answer, only⟩ := decides free
  rw [← (only _).1 denied] at answer
  exact ⟨⟨given, free⟩, v, log, made, answer⟩

/-- A request to create an object with a label at a number of 4301 digits. -/
def longKeyRequest : TypedRequest where
  operation := "CREATE"
  new := .ofLive (.document (.map (labelled [(.int (Nat.pow 10 Integer.maxDigits), "x")])))
  typedNew := isTyped_labelled _
  typedOld := isTyped_empty

theorem getsStuck_longKeyRequest : longKeyRequest.GetsStuck := by
  have long : (Value.int (Nat.pow 10 Integer.maxDigits)).isShowable = false := by
    rw [Value.isShowable, Json.isShort, decide_eq_false_iff_not,
      Text.length_ofNat_le_iff (by decide), Int.natAbs_natCast]
    exact Nat.lt_irrefl _
  exact ⟨.inl rfl, .inl ⟨_, _, rfl, rfl, .inl ⟨[], [], _, _, rfl, by simp, rfl, long⟩⟩⟩

/-- The gate gives no verdict on a key that is too large, neither an error nor any other. -/
theorem handle_longKeyRequest :
    ∃ v, Validator.ofUsers .null = .ok v ∧
      v.handle (Log.verbosity none) longKeyRequest.untyped = .error (.integer .tooLarge) ∧
      ¬ ∃ decision, v.handle (Log.verbosity none) longKeyRequest.untyped = .ok decision := by
  have answer := handle_of_getsStuck (Log.verbosity none) ⟨[]⟩ getsStuck_longKeyRequest
  refine ⟨⟨[]⟩, rfl, answer, ?_⟩
  rintro ⟨decision, impossible⟩
  simp [answer] at impossible

end AdmissionGate
