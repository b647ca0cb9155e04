/-
# AdmissionGate.Proofs.Value.Shown -- the values that can be shown

The only thing in a value that cannot be shown is an integer with too many digits,
at any depth.  `isShowable` looks for one; showing a value fails exactly if there is
one, and then always in the same way (`quoted_of_isShowable`,
`quoted_of_not_isShowable`).
-/
import AdmissionGate.Proofs.Json.Normal

namespace AdmissionGate

set_option autoImplicit false

namespace Value

mutual

/-- Whether every integer in a value has few enough digits to be written. -/
def isShowable : Value → Bool
  | .int n => Json.isShort n
  | .list items | .tuple items | .set items => areShowable items
  | .map entries => areShowableEntries entries
  | .model _ attributes => areShowableAttributes attributes
  | .null | .bool _ | .float _ | .text _ | .bytes _ | .date _ | .dateTime _ | .enclosing _ => true

def areShowable : List Value → Bool
  | [] => true
  | x :: xs => isShowable x && areShowable xs

def areShowableEntries : List (Value × Value) → Bool
  | [] => true
  | (k, v) :: rest => isShowable k && isShowable v && areShowableEntries rest

def areShowableAttributes : List (Text × Value) → Bool
  | [] => true
  | (_, v) :: rest => isShowable v && areShowableAttributes rest

end

/-- Something is shown if every integer in it is short, and too large if not. -/
def ShownIf {α : Type} (showable : Bool) (x : Except Integer.Fault α) : Prop :=
  if showable then ∃ part, x = .ok part else x = .error .tooLarge

theorem shownIf_ok {α : Type} (part : α) : ShownIf true (.ok part) := ⟨part, rfl⟩

theorem shownIf_map {α β : Type} {showable : Bool} {x : Except Integer.Fault α}
    (shown : ShownIf showable x) (f : α → β) : ShownIf showable (f <$> x) := by
  cases showable with
  | true =>
      obtain ⟨part, rfl⟩ := shown
      exact ⟨f part, rfl⟩
  | false =>
      have refused : x = .error .tooLarge := shown
      rw [refused]
      rfl

/-- What is shown first decides, unless it is shown. -/
theorem shownIf_bind {α β : Type} {first second : Bool} {x : Except Integer.Fault α}
    {f : α → Except Integer.Fault β} (shown : ShownIf first x)
    (next : ∀ part, ShownIf second (f part)) : ShownIf (first && second) (x >>= f) := by
  cases first with
  | true =>
      obtain ⟨part, rfl⟩ := shown
      exact next part
  | false =>
      have refused : x = .error .tooLarge := shown
      rw [refused]
      rfl

theorem shownIf_write (n : Int) : ShownIf (Json.isShort n) (Integer.write n) := by
  unfold Integer.write Json.isShort
  by_cases short : (Text.ofNat n.natAbs).length ≤ Integer.maxDigits
  · rw [if_pos short, decide_eq_true short]
    exact shownIf_ok _
  · rw [if_neg short, decide_eq_false short]
    rfl

mutual

theorem shownIf_sketch (inModel : Bool) : (v : Value) → ShownIf v.isShowable (v.sketch inModel)
  | .null | .bool _ | .float _ | .text _ | .bytes _ | .date _ | .dateTime _ | .enclosing _ => by
      rw [isShowable, sketch]
      exact shownIf_ok _
  | .int n => by
      rw [isShowable, sketch]
      exact shownIf_map (shownIf_write n) _
  | .list items | .tuple items | .set items => by
      rw [isShowable, sketch]
      exact shownIf_map (shownIf_sketchItems inModel items) _
  | .map entries => by
      rw [isShowable, sketch, ← Bool.and_true (areShowableEntries entries)]
      exact shownIf_bind (shownIf_sketchEntries inModel entries) fun _ => shownIf_ok _
  | .model _ attributes => by
      rw [isShowable, sketch, ← Bool.and_true (areShowableAttributes attributes)]
      exact shownIf_bind (shownIf_sketchAttributes true attributes) fun _ => shownIf_ok _

theorem shownIf_sketchItems (inModel : Bool) :
    (items : List Value) → ShownIf (areShowable items) (sketchItems inModel items)
  | [] => shownIf_ok []
  | x :: xs => by
      rw [areShowable, sketchItems, ← Bool.and_true (areShowable xs)]
      refine shownIf_bind (shownIf_sketch inModel x) fun _ => ?_
      exact shownIf_bind (shownIf_sketchItems inModel xs) fun _ => shownIf_ok _

theorem shownIf_sketchEntries (inModel : Bool) :
    (entries : List (Value × Value)) →
      ShownIf (areShowableEntries entries) (sketchEntries inModel entries)
  | [] => shownIf_ok []
  | (k, v) :: rest => by
      rw [areShowableEntries, sketchEntries, Bool.and_assoc,
        ← Bool.and_true (areShowableEntries rest)]
      refine shownIf_bind (shownIf_sketch inModel k) fun _ => ?_
      refine shownIf_bind (shownIf_sketch inModel v) fun _ => ?_
      exact shownIf_bind (shownIf_sketchEntries inModel rest) fun _ => shownIf_ok _

theorem shownIf_sketchAttributes (inModel : Bool) :
    (attributes : List (Text × Value)) →
      ShownIf (areShowableAttributes attributes) (sketchAttributes inModel attributes)
  | [] => shownIf_ok []
  | (_, v) :: rest => by
      rw [areShowableAttributes, sketchAttributes, ← Bool.and_true (areShowableAttributes rest)]
      refine shownIf_bind (shownIf_sketch inModel v) fun _ => ?_
      exact shownIf_bind (shownIf_sketchAttributes inModel rest) fun _ => shownIf_ok _

end

theorem shownIf_quoted (v : Value) : ShownIf v.isShowable v.quoted :=
  shownIf_map (shownIf_sketch false v) _

/-- At the top the same integers are written as inside a container. -/
theorem shownIf_display (v : Value) : ShownIf v.isShowable v.display := by
  cases v with
  | text t => exact shownIf_ok _
  | date d => exact shownIf_ok _
  | dateTime t => exact shownIf_ok _
  | model cls attributes =>
      rw [isShowable, display, ← Bool.and_true (areShowableAttributes attributes)]
      exact shownIf_bind (shownIf_sketchAttributes false attributes) fun _ => shownIf_ok _
  | _ => exact shownIf_quoted _

/-- A value whose integers are short is shown. -/
theorem quoted_of_isShowable {v : Value} (showable : v.isShowable = true) :
    ∃ t, v.quoted = .ok t := by
  have shown := shownIf_quoted v
  rwa [showable] at shown

/-- A value with an integer that is not short is too large to be shown. -/
theorem quoted_of_not_isShowable {v : Value} (large : v.isShowable = false) :
    v.quoted = .error .tooLarge := by
  have refused := shownIf_quoted v
  rwa [large] at refused

end Value

end AdmissionGate
