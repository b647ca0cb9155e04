/-
# AdmissionGate.Proofs.Text.Unbroken -- texts that stay on a line

A text is unbroken if it has no line feed.  Printable ASCII is unbroken, and so is every
text in quotes, whatever stands between them: a line feed is written with a letter there,
and nothing else is written with a line feed (`unbroken_quoted`).

`breaks` counts the line feeds of a text.  Texts in a row have those of each of them.
-/
import AdmissionGate.Proofs.Text.Plain

namespace AdmissionGate

set_option autoImplicit false

namespace Text

def breaks (t : Text) : Nat := t.count ('\n' : Code)

/-- A text without a line feed. -/
def Unbroken (t : Text) : Prop := ('\n' : Code) ∉ t

instance (t : Text) : Decidable (Unbroken t) :=
  inferInstanceAs (Decidable (¬ ('\n' : Code) ∈ t))

variable {s t separator : Text} {parts : List Text}

theorem breaks_eq_zero : t.breaks = 0 ↔ Unbroken t := List.count_eq_zero

@[simp] theorem breaks_append (s t : Text) : (s ++ t).breaks = s.breaks + t.breaks :=
  List.count_append

@[simp] theorem unbroken_nil : Unbroken [] := List.not_mem_nil

@[simp] theorem unbroken_cons {c : Code} : Unbroken (c :: t) ↔ c ≠ '\n' ∧ Unbroken t := by
  rw [Unbroken, List.mem_cons, not_or, eq_comm]
  rfl

@[simp] theorem unbroken_append : Unbroken (s ++ t) ↔ Unbroken s ∧ Unbroken t := by
  rw [Unbroken, List.mem_append, not_or]
  rfl

/-- What stands between two unbroken texts is broken only by itself. -/
theorem Unbroken.enclosed (body : Unbroken t) {opening closing : Text} (front : Unbroken opening)
    (back : Unbroken closing) : Unbroken (opening ++ t ++ closing) :=
  unbroken_append.2 ⟨unbroken_append.2 ⟨front, body⟩, back⟩

theorem unbroken_flatMap {α : Type} {f : α → Text} {xs : List α}
    (each : ∀ x ∈ xs, Unbroken (f x)) : Unbroken (xs.flatMap f) := by
  intro member
  obtain ⟨x, inList, inText⟩ := List.mem_flatMap.1 member
  exact each x inList inText

theorem Unbroken.take (unbroken : Unbroken t) (n : Nat) : Unbroken (t.take n) :=
  fun member => unbroken (List.mem_of_mem_take member)

/-- Printable ASCII is on one line. -/
theorem Plain.unbroken (plain : Plain t) : Unbroken t := by
  intro member
  have printable := (plain _ member).1
  revert printable
  decide

@[simp] theorem unbroken_ofNat (n : Nat) : Unbroken (ofNat n) := (plain_ofNat n).unbroken

/-! ## Texts in a row -/

theorem unbroken_join (between : Unbroken separator) (each : ∀ t ∈ parts, Unbroken t) :
    Unbroken (join separator parts) := by
  cases parts with
  | nil => exact unbroken_nil
  | cons first rest =>
      obtain ⟨start, others⟩ := List.forall_mem_cons.1 each
      rw [join_cons]
      refine unbroken_append.2 ⟨start, unbroken_flatMap fun t member => ?_⟩
      exact unbroken_append.2 ⟨between, others t member⟩

/-- Between the parts nothing is counted. -/
theorem breaks_join (between : Unbroken separator) (parts : List Text) :
    (join separator parts).breaks = breaks parts.flatten := by
  cases parts with
  | nil => rfl
  | cons first rest =>
      have others : breaks (rest.flatMap (separator ++ ·)) = breaks rest.flatten := by
        induction rest with
        | nil => rfl
        | cons t rest ih =>
            rw [List.flatMap_cons, List.flatten_cons, breaks_append, breaks_append, breaks_append,
              breaks_eq_zero.2 between, Nat.zero_add, ih]
      rw [join_cons, List.flatten_cons, breaks_append, breaks_append, others]

theorem unbroken_flatten : Unbroken parts.flatten ↔ ∀ t ∈ parts, Unbroken t := by
  simp only [Unbroken, List.mem_flatten, not_exists, not_and]

/-- What is put behind the last part is put behind the row. -/
theorem join_snoc_append (separator : Text) (front : List Text) (s t : Text) :
    join separator (front ++ [s ++ t]) = join separator (front ++ [s]) ++ t := by
  cases front with
  | nil => simp [join]
  | cons first rest => simp [join_cons]

/-! ## Quotes -/

theorem unbroken_escapeCode {quote : Code} (mark : quote ≠ '\n') (c : Code) :
    Unbroken (escapeCode quote c) := by
  unfold escapeCode
  split
  · rename_i special
    have other : c ≠ '\n' := by
      rcases special with same | same
      · rwa [same]
      · rw [same]
        decide
    exact unbroken_cons.2 ⟨by decide, unbroken_cons.2 ⟨other, unbroken_nil⟩⟩
  split
  · decide
  split
  · decide
  split
  · decide
  split
  · rename_i other _ _
    exact unbroken_cons.2 ⟨other, unbroken_nil⟩
  split
  · exact unbroken_append.2 ⟨by decide, (plain_hex 2 _).unbroken⟩
  split
  · exact unbroken_append.2 ⟨by decide, (plain_hex 4 _).unbroken⟩
  · exact unbroken_append.2 ⟨by decide, (plain_hex 8 _).unbroken⟩

/-- **A text in quotes is on one line.** -/
@[simp] theorem unbroken_quoted (t : Text) : Unbroken t.quoted := by
  have mark : t.quoteFor ≠ '\n' := by
    unfold quoteFor
    split <;> decide
  have body : Unbroken (t.flatMap (escapeCode t.quoteFor)) :=
    unbroken_flatMap fun c _ => unbroken_escapeCode mark c
  have last : Unbroken [t.quoteFor] := unbroken_cons.2 ⟨mark, unbroken_nil⟩
  exact unbroken_cons.2 ⟨mark, unbroken_append.2 ⟨body, last⟩⟩

end Text

end AdmissionGate
