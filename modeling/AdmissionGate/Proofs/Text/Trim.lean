/-
# AdmissionGate.Proofs.Text.Trim -- what trimming leaves

Trimming takes the blanks off either end of a text and nothing else.  A text is tight
if no blank stands at either end.  Every text is a tight one with blanks around it
(`exists_padding`), and whatever blanks stand around a tight text, trimming leaves just
that text (`trim_padded`).

A text that is put behind one that ends tightly is the only part that trimming the end
looks at (`trimEnd_append`).
-/
import AdmissionGate.Text.Blank
import Mathlib.Data.List.TakeWhile

namespace AdmissionGate

set_option autoImplicit false

namespace Text

def IsBlank (t : Text) : Prop := ∀ c ∈ t, c.isBlank = true

def StartsTight (t : Text) : Prop := ∀ c ∈ t.head?, c.isBlank = false

def EndsTight (t : Text) : Prop := ∀ c ∈ t.getLast?, c.isBlank = false

structure IsTight (t : Text) : Prop where
  start : StartsTight t
  finish : EndsTight t

instance (t : Text) : Decidable (IsBlank t) := List.decidableBAll _ t

instance (t : Text) : Decidable (StartsTight t) :=
  decidable_of_iff (t.head?.all (!Code.isBlank ·) = true) <| by
    simp only [StartsTight, Option.all_eq_true, Bool.not_eq_true', Option.mem_def]

instance (t : Text) : Decidable (EndsTight t) :=
  decidable_of_iff (t.getLast?.all (!Code.isBlank ·) = true) <| by
    simp only [EndsTight, Option.all_eq_true, Bool.not_eq_true', Option.mem_def]

instance (t : Text) : Decidable (IsTight t) :=
  decidable_of_iff (StartsTight t ∧ EndsTight t)
    ⟨fun ends => ⟨ends.1, ends.2⟩, fun tight => ⟨tight.start, tight.finish⟩⟩

variable {s t before after : Text}

theorem isBlank_nil : IsBlank [] := fun _ member => absurd member List.not_mem_nil

theorem isTight_nil : IsTight [] := ⟨nofun, nofun⟩

/-! ## One end -/

theorem trimStart_append_of_isBlank (blank : IsBlank s) : trimStart (s ++ t) = trimStart t :=
  List.dropWhile_append_of_pos blank

theorem trimStart_of_startsTight (start : StartsTight t) : trimStart t = t := by
  cases t with
  | nil => rfl
  | cons c rest =>
      have first : c.isBlank = false := start c rfl
      exact List.dropWhile_cons_of_neg (by simp [first])

theorem startsTight_trimStart (t : Text) : StartsTight (trimStart t) := by
  intro c first
  have stops := List.head?_dropWhile_not Code.isBlank t
  have found : (t.dropWhile Code.isBlank).head? = some c := first
  rw [found] at stops
  exact stops

/-- The end of a text is the start of the text read backwards. -/
theorem trimEnd_eq (t : Text) : trimEnd t = (trimStart t.reverse).reverse := rfl

theorem endsTight_iff : EndsTight t ↔ StartsTight t.reverse := by
  simp only [EndsTight, StartsTight, List.head?_reverse]

theorem isBlank_reverse : IsBlank t.reverse ↔ IsBlank t := by
  simp only [IsBlank, List.mem_reverse]

theorem trimEnd_append_of_isBlank (blank : IsBlank s) : trimEnd (t ++ s) = trimEnd t := by
  rw [trimEnd_eq, List.reverse_append, trimStart_append_of_isBlank (isBlank_reverse.2 blank)]
  rfl

theorem trimEnd_of_endsTight (finish : EndsTight t) : trimEnd t = t := by
  rw [trimEnd_eq, trimStart_of_startsTight (endsTight_iff.1 finish), List.reverse_reverse]

theorem endsTight_trimEnd (t : Text) : EndsTight (trimEnd t) := by
  rw [endsTight_iff, trimEnd_eq, List.reverse_reverse]
  exact startsTight_trimStart _

theorem EndsTight.append (finish : EndsTight t) (given : t ≠ []) (s : Text) :
    EndsTight (s ++ t) := by
  intro c last
  rw [List.getLast?_append] at last
  cases ends : t.getLast? with
  | none => exact absurd (List.getLast?_eq_none_iff.1 ends) given
  | some d =>
      rw [ends, Option.some_or, Option.mem_some_iff] at last
      rw [← last]
      exact finish d ends

/-- Trimming the end stops at a text that ends tightly. -/
theorem trimEnd_append (finish : EndsTight s) :
    trimEnd (s ++ t) = s ++ trimEnd t := by
  have start : StartsTight s.reverse := endsTight_iff.1 finish
  have kept : trimStart (t.reverse ++ s.reverse) = trimStart t.reverse ++ s.reverse := by
    unfold trimStart
    rw [List.dropWhile_append]
    split
    · rename_i nothing
      rw [List.isEmpty_iff.1 nothing]
      exact trimStart_of_startsTight start
    · rfl
  rw [trimEnd_eq, List.reverse_append, kept, List.reverse_append, List.reverse_reverse]
  rfl

/-! ## Both ends -/

/-- **Trimming leaves a tight text of itself, whatever blanks stand around it.** -/
theorem trim_padded (leading : IsBlank before) (tight : IsTight t) (trailing : IsBlank after) :
    trim (before ++ (t ++ after)) = t := by
  unfold trim
  rw [trimStart_append_of_isBlank leading]
  cases t with
  | nil =>
      have nothing : trimStart after = [] := by
        have dropped := trimStart_append_of_isBlank (t := []) trailing
        rwa [List.append_nil] at dropped
      rw [List.nil_append, nothing]
      rfl
  | cons c rest =>
      have start : StartsTight (c :: rest ++ after) := tight.start
      rw [trimStart_of_startsTight start, trimEnd_append_of_isBlank trailing]
      exact trimEnd_of_endsTight tight.finish

theorem trim_of_isBlank (blank : IsBlank t) : trim t = [] := by
  have trimmed := trim_padded blank isTight_nil isBlank_nil
  rwa [List.append_nil, List.append_nil] at trimmed

theorem exists_trimStart (t : Text) : ∃ before, IsBlank before ∧ t = before ++ trimStart t := by
  refine ⟨t.takeWhile Code.isBlank, ?_, List.takeWhile_append_dropWhile.symm⟩
  intro c member
  exact List.mem_takeWhile_imp member

theorem exists_trimEnd (t : Text) : ∃ after, IsBlank after ∧ t = trimEnd t ++ after := by
  obtain ⟨before, blank, parted⟩ := exists_trimStart t.reverse
  refine ⟨before.reverse, isBlank_reverse.2 blank, ?_⟩
  have backwards := congrArg List.reverse parted
  rwa [List.reverse_reverse, List.reverse_append] at backwards

/-- What trimming leaves has no blank at either end. -/
theorem isTight_trim (t : Text) : IsTight t.trim := by
  refine ⟨?_, endsTight_trimEnd _⟩
  intro c first
  -- trimming the end keeps the first code point, if it leaves any
  obtain ⟨after, -, parted⟩ := exists_trimEnd (trimStart t)
  have same : (trimStart t).head? = some c := by
    rw [parted, List.head?_append]
    change (trim t).head?.or _ = some c
    rw [Option.mem_def.1 first]
    rfl
  exact startsTight_trimStart t c same

/-- **Every text is a tight one between blanks.** -/
theorem exists_padding (t : Text) :
    ∃ before after, IsBlank before ∧ IsBlank after ∧ t = before ++ (t.trim ++ after) := by
  obtain ⟨before, leading, parted⟩ := exists_trimStart t
  obtain ⟨after, trailing, rest⟩ := exists_trimEnd (trimStart t)
  refine ⟨before, after, leading, trailing, ?_⟩
  change t = before ++ (trimEnd (trimStart t) ++ after)
  rw [← rest]
  exact parted

end Text

end AdmissionGate
