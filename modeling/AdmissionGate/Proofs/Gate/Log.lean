/-
# AdmissionGate.Proofs.Gate.Log -- entries that are written

An entry is written if its level is left out or all its fields can be shown
(`Log.emit_iff`), and the fields of an entry are the only thing in it that may not be.
-/
import AdmissionGate.Gate.Log
import AdmissionGate.Proofs.Steps

namespace AdmissionGate

set_option autoImplicit false

namespace Log

variable {verbosity : Nat} {level : Int} {message : Text} {fields rest : List Field}

theorem showFields_iff :
    (∃ parts, showFields fields = .ok parts) ↔ ∀ field ∈ fields, ∃ t, field.2 = .ok t := by
  induction fields with
  | nil => exact iff_of_true ⟨[], rfl⟩ fun _ impossible => absurd impossible List.not_mem_nil
  | cons field rest ih =>
      rw [showFields, exists_bind_iff fun _ _ => exists_bind_pure_iff, ih, List.forall_mem_cons]

/-- **An entry is left out, or its fields can be shown.** -/
theorem emit_iff : (∃ log, emit verbosity level message fields = .ok log) ↔
    (level ≤ verbosity → ∀ field ∈ fields, ∃ t, field.2 = .ok t) := by
  unfold emit
  by_cases silent : (verbosity : Int) < level
  · rw [if_pos silent]
    exact iff_of_true ⟨[], rfl⟩ fun loud => absurd loud (Int.not_le.2 silent)
  · rw [if_neg silent, exists_bind_pure_iff, showFields_iff]
    exact ⟨fun shown _ => shown, fun shown => shown (Int.not_lt.1 silent)⟩

/-- An entry whose fields can be shown is written or left out. -/
theorem emit_of_shown (shown : ∀ field ∈ fields, ∃ t, field.2 = .ok t) (verbosity : Nat)
    (level : Int) (message : Text) : ∃ log, emit verbosity level message fields = .ok log :=
  emit_iff.2 fun _ => shown

theorem showFields_append {parts others : List Text} (first : showFields fields = .ok parts)
    (second : showFields rest = .ok others) :
    showFields (fields ++ rest) = .ok (parts ++ others) := by
  induction fields generalizing parts with
  | nil =>
      cases first
      exact second
  | cons field fields ih =>
      obtain ⟨name, value⟩ := field
      cases value with
      | error fault => cases first
      | ok value =>
          cases shown : showFields fields with
          | error fault => simp [showFields, shown] at first
          | ok tail =>
              rw [showFields, shown] at first
              cases first
              rw [List.cons_append, showFields, ih shown]
              rfl

/-- An entry is left out below its level, and one line from its level on. -/
theorem emit_of_showFields {parts : List Text} (shown : showFields fields = .ok parts) :
    emit verbosity level message fields =
      .ok (if (verbosity : Int) < level then [] else line message parts ++ "\n") := by
  unfold emit
  by_cases silent : (verbosity : Int) < level
  · rw [if_pos silent, if_pos silent]
  · rw [if_neg silent, if_neg silent, shown]
    rfl

end Log

end AdmissionGate
