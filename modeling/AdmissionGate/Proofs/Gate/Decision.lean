/-
# AdmissionGate.Proofs.Gate.Decision -- what the gate decides

A typed request has texts where texts belong, and states that are bytes, documents
with texts as names, or metadata with maps from text to text.  `Decided` says which
verdict such a request gets, in the order in which the gate looks: operation, new
state, old state, marker, whitelist.

The gate gives this verdict and no other, whatever the log, unless it comes to a key
that is too large to be shown (`handle_decides`); then it gives no verdict at all.
-/
import AdmissionGate.Gate.Validator
import AdmissionGate.Proofs.Gate.Whitelist
import AdmissionGate.Proofs.Object.Stuck

namespace AdmissionGate

set_option autoImplicit false

/-! ## Typed requests -/

/-- A kind whose parts are texts. -/
structure TypedKind where
  group : Text := []
  version : Text := []
  kind : Text := []

namespace TypedKind

def untyped (k : TypedKind) : ResourceKind := ⟨.text k.group, .text k.version, .text k.kind⟩

/-- The kind as text, in one of its three shapes. -/
def shown (k : TypedKind) : Text :=
  if k.group ≠ [] then k.group ++ "/" ++ k.version ++ ", Kind=" ++ k.kind
  else if k.version ≠ [] then k.version ++ ", Kind=" ++ k.kind
  else k.kind

end TypedKind

/-- A request whose members have their types. -/
structure TypedRequest where
  operation : Text
  kind : TypedKind := {}
  name : Text := []
  «namespace» : Text := []
  username : Text := []
  groups : List Text := []
  new : ObjectState := {}
  old : ObjectState := {}
  requestKind : Option TypedKind := none
  subResource : Text := []
  uid : Text := []
  typedNew : new.IsTyped
  typedOld : old.IsTyped

namespace TypedRequest

def untyped (r : TypedRequest) : Request where
  operation := .text r.operation
  kind := r.kind.untyped
  name := .text r.name
  «namespace» := .text r.namespace
  username := .text r.username
  groups := .list (r.groups.map .text)
  new := r.new
  old := r.old
  requestKind := r.requestKind.map TypedKind.untyped
  subResource := .text r.subResource
  uid := .text r.uid

section Untyped

variable (r : TypedRequest)

@[simp] theorem untyped_operation : r.untyped.operation = .text r.operation := rfl

@[simp] theorem untyped_name : r.untyped.name = .text r.name := rfl

@[simp] theorem untyped_namespace : r.untyped.namespace = .text r.namespace := rfl

@[simp] theorem untyped_username : r.untyped.username = .text r.username := rfl

@[simp] theorem untyped_groups : r.untyped.groups = .list (r.groups.map .text) := rfl

@[simp] theorem untyped_subResource : r.untyped.subResource = .text r.subResource := rfl

@[simp] theorem untyped_new : r.untyped.new = r.new := rfl

@[simp] theorem untyped_old : r.untyped.old = r.old := rfl

end Untyped

/-- Only requests that create or update are looked at. -/
def IsGuarded (r : TypedRequest) : Prop := r.operation = "CREATE" ∨ r.operation = "UPDATE"

instance (r : TypedRequest) : Decidable r.IsGuarded := inferInstanceAs (Decidable (_ ∨ _))

/-- Both states can be read, and the new one has these labels and annotations. -/
def Reads (r : TypedRequest) (labels annotations : Value) : Prop :=
  r.new.extract = .ok (labels, annotations) ∧ ∃ maps, r.old.extract = .ok maps

/-- The new state, or else the old one, cannot be decoded. -/
def IsRefused (r : TypedRequest) (cause : DecodeFault) : Prop :=
  r.new.extract = .error (.decode cause) ∨
    (∃ maps, r.new.extract = .ok maps) ∧ r.old.extract = .error (.decode cause)

/-- Reading the new state, or else the old one, ends with a key that is too large. -/
def GetsStuck (r : TypedRequest) : Prop :=
  r.IsGuarded ∧ (r.new.IsStuck ∨ (∃ maps, r.new.extract = .ok maps) ∧ r.old.IsStuck)

def reason (r : TypedRequest) : Text :=
  "resource " ++ r.kind.shown ++ " \"" ++ r.name ++ "\" in namespace \"" ++ r.namespace ++
    "\" is managed by ARM and can only be modified by whitelisted users"

end TypedRequest

def Value.IsMarked (v : Value) : Prop :=
  ∃ entries : Entries, v = .map entries ∧ entries.get? "managed-by" = some (.text "arm")

@[simp] theorem Value.not_isMarked_null : ¬ Value.null.IsMarked := by
  simp [IsMarked]

@[simp] theorem Value.isMarked_map {entries : Entries} :
    (Value.map entries).IsMarked ↔ entries.get? "managed-by" = some (.text "arm") := by
  simp [IsMarked]

instance : DecidablePred Value.IsMarked := fun v =>
  let isMarker (v : Value) : Bool := match v with | .text t => t = "arm" | _ => false
  match v with
  | .map entries => decidable_of_iff ((Entries.get? entries "managed-by").any isMarker = true) <| by
      rw [Value.isMarked_map]
      cases Entries.get? entries "managed-by" with
      | none => simp
      | some w => cases w <;> simp [isMarker]
  | .null | .bool _ | .int _ | .float _ | .text _ | .bytes _ | .date _ | .dateTime _ | .list _
  | .tuple _ | .set _ | .model _ _ | .enclosing _ => .isFalse nofun

/-- The verdict on a typed request, where these names may pass. -/
inductive Decided (names : List Text) (r : TypedRequest) : Verdict → Prop
  | unguarded (passes : ¬ r.IsGuarded) : Decided names r ⟨.allow, .int 200, .text [], .text []⟩
  | refused {cause : DecodeFault} (guarded : r.IsGuarded) (refused : r.IsRefused cause) :
      Decided names r ⟨.error, .int 500, .text [], .text cause.message⟩
  | unmanaged {labels annotations : Value} (guarded : r.IsGuarded)
      (reads : r.Reads labels annotations)
      (unmarked : ¬ (labels.IsMarked ∨ annotations.IsMarked)) :
      Decided names r ⟨.allow, .int 200, .text [], .text []⟩
  | whitelisted {labels annotations : Value} (guarded : r.IsGuarded)
      (reads : r.Reads labels annotations) (marked : labels.IsMarked ∨ annotations.IsMarked)
      (known : r.username ∈ names ∧ r.username ≠ []) :
      Decided names r ⟨.allow, .int 200, .text [], .text []⟩
  | denied {labels annotations : Value} (guarded : r.IsGuarded)
      (reads : r.Reads labels annotations) (marked : labels.IsMarked ∨ annotations.IsMarked)
      (unknown : ¬ (r.username ∈ names ∧ r.username ≠ [])) :
      Decided names r ⟨.deny, .int 403, .text r.reason, .text []⟩

theorem TypedRequest.Reads.unique {r : TypedRequest}
    {labels annotations otherLabels otherAnnotations : Value} (first : r.Reads labels annotations)
    (second : r.Reads otherLabels otherAnnotations) :
    labels = otherLabels ∧ annotations = otherAnnotations := by
  simpa using first.1.symm.trans second.1

theorem TypedRequest.Reads.not_isRefused {r : TypedRequest} {labels annotations : Value}
    (reads : r.Reads labels annotations) (cause : DecodeFault) : ¬ r.IsRefused cause := by
  obtain ⟨new, maps, old⟩ := reads
  rintro (refused | ⟨-, refused⟩)
  · simp [new] at refused
  · simp [old] at refused

theorem TypedRequest.IsRefused.unique {r : TypedRequest} {cause other : DecodeFault}
    (first : r.IsRefused cause) (second : r.IsRefused other) : cause = other := by
  rcases first with first | ⟨⟨maps, new⟩, first⟩
  · rcases second with second | ⟨⟨maps, new⟩, -⟩
    · rw [first] at second
      cases second
      rfl
    · simp [first] at new
  · rcases second with second | ⟨-, second⟩
    · simp [new] at second
    · rw [first] at second
      cases second
      rfl

/-- A request gets one verdict. -/
theorem Decided.unique {names : List Text} {r : TypedRequest} {v w : Verdict}
    (first : Decided names r v) (second : Decided names r w) : v = w := by
  cases first with
  | unguarded passes =>
      cases second with
      | unguarded _ => rfl
      | refused guarded _ => exact absurd guarded passes
      | unmanaged guarded _ _ => exact absurd guarded passes
      | whitelisted guarded _ _ _ => exact absurd guarded passes
      | denied guarded _ _ _ => exact absurd guarded passes
  | refused guarded refused =>
      cases second with
      | unguarded passes => exact absurd guarded passes
      | refused _ other => rw [refused.unique other]
      | unmanaged _ reads _ => exact absurd refused (reads.not_isRefused _)
      | whitelisted _ reads _ _ => exact absurd refused (reads.not_isRefused _)
      | denied _ reads _ _ => exact absurd refused (reads.not_isRefused _)
  | unmanaged guarded reads unmarked =>
      cases second with
      | unguarded passes => exact absurd guarded passes
      | refused _ refused => exact absurd refused (reads.not_isRefused _)
      | unmanaged _ _ _ => rfl
      | whitelisted _ _ _ _ => rfl
      | denied _ other marked _ =>
          obtain ⟨rfl, rfl⟩ := reads.unique other
          exact absurd marked unmarked
  | whitelisted guarded reads _ known =>
      cases second with
      | unguarded passes => exact absurd guarded passes
      | refused _ refused => exact absurd refused (reads.not_isRefused _)
      | unmanaged _ _ _ => rfl
      | whitelisted _ _ _ _ => rfl
      | denied _ _ _ unknown => exact absurd known unknown
  | denied guarded reads marked unknown =>
      cases second with
      | unguarded passes => exact absurd guarded passes
      | refused _ refused => exact absurd refused (reads.not_isRefused _)
      | unmanaged _ other unmarked =>
          obtain ⟨rfl, rfl⟩ := reads.unique other
          exact absurd marked unmarked
      | whitelisted _ _ _ known => exact absurd known unknown
      | denied _ _ _ _ => rfl

end AdmissionGate
