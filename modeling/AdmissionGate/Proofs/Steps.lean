/-
# AdmissionGate.Proofs.Steps -- steps that may fail, in a row

Two steps in a row succeed if both do, and fail where the first one of them does.  The
outcome of a step that is known is put in by `simp`.
-/
import AdmissionGate.Text.Basic

namespace AdmissionGate

set_option autoImplicit false

section Steps

variable {ε α β : Type} {x : Except ε α}

@[simp] theorem ok_bind (a : α) (f : α → Except ε β) : (Except.ok a >>= f) = f a := rfl

@[simp] theorem error_bind (e : ε) (f : α → Except ε β) :
    (Except.error e >>= f) = Except.error e := rfl

@[simp] theorem pure_eq_ok (a : α) : (pure a : Except ε α) = .ok a := rfl

@[simp] theorem throw_eq_error (e : ε) : (throw e : Except ε α) = .error e := rfl

@[simp] theorem fmap_ok (f : α → β) (a : α) : (f <$> (.ok a : Except ε α)) = .ok (f a) := rfl

@[simp] theorem map_ok (f : α → β) (a : α) : (Except.ok a : Except ε α).map f = .ok (f a) := rfl

@[simp] theorem map_error (f : α → β) (e : ε) :
    (Except.error e : Except ε α).map f = .error e := rfl

@[simp] theorem mapError_ok {ε' : Type} (f : ε → ε') (a : α) :
    (Except.ok a).mapError f = .ok a := rfl

@[simp] theorem mapError_error {ε' : Type} (f : ε → ε') (e : ε) :
    (Except.error e : Except ε α).mapError f = .error (f e) := rfl

/-- Two steps in a row give what the second one makes of the result of the first. -/
theorem bind_eq_ok_iff {f : α → Except ε β} {b : β} :
    x >>= f = .ok b ↔ ∃ a, x = .ok a ∧ f a = .ok b := by
  constructor
  · intro both
    cases x with
    | error e => cases both
    | ok a => exact ⟨a, rfl, both⟩
  · rintro ⟨a, rfl, next⟩
    exact next

theorem map_eq_ok_iff {f : α → β} {b : β} : f <$> x = .ok b ↔ ∃ a, x = .ok a ∧ f a = b := by
  cases x with
  | error e =>
      refine iff_of_false ?_ ?_
      · intro impossible
        cases impossible
      · rintro ⟨_, impossible, -⟩
        cases impossible
  | ok a =>
      constructor
      · intro mapped
        exact ⟨a, rfl, Except.ok.inj mapped⟩
      · rintro ⟨a, same, rfl⟩
        rw [same]
        rfl

/-- Two steps in a row end with a fault of the first one, or else of the second. -/
theorem bind_eq_error_iff {f : α → Except ε β} {e : ε} :
    x >>= f = .error e ↔ x = .error e ∨ ∃ a, x = .ok a ∧ f a = .error e := by
  constructor
  · intro fails
    cases x with
    | error other =>
        have same : other = e := Except.error.inj fails
        exact .inl (congrArg Except.error same)
    | ok a => exact .inr ⟨a, rfl, fails⟩
  · rintro (rfl | ⟨a, rfl, next⟩)
    · rfl
    · exact next

/-- A step that goes on after another one succeeds if both do. -/
theorem exists_bind_iff {f : α → Except ε β} {P : Prop}
    (next : ∀ a, x = .ok a → ((∃ b, f a = .ok b) ↔ P)) :
    (∃ b, x >>= f = .ok b) ↔ (∃ a, x = .ok a) ∧ P := by
  cases x with
  | error e =>
      refine iff_of_false ?_ ?_
      · rintro ⟨_, impossible⟩
        cases impossible
      · rintro ⟨⟨_, impossible⟩, -⟩
        cases impossible
  | ok a => exact (next a rfl).trans ⟨fun holds => ⟨⟨a, rfl⟩, holds⟩, And.right⟩

theorem exists_bind_pure_iff {f : α → β} :
    (∃ b, (x >>= fun a => pure (f a)) = .ok b) ↔ ∃ a, x = .ok a :=
  (exists_bind_iff fun a _ => iff_true_intro ⟨f a, rfl⟩).trans (and_iff_left trivial)

end Steps

end AdmissionGate
