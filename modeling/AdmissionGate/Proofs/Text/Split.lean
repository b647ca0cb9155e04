/-
# AdmissionGate.Proofs.Text.Split -- settings that list names

A setting is parted at its commas.  The parts are the one way to write it as texts
without a comma, joined by commas, and the names listed are those parts without the
blanks at their ends, as far as anything is left (`mem_splitList`).
-/
import AdmissionGate.Gate.Whitelist

namespace AdmissionGate

set_option autoImplicit false

namespace Text

theorem split_eq_splitOn (separator : Code) (t : Text) :
    split separator t = t.splitOn separator := by
  induction t with
  | nil => rfl
  | cons c rest ih =>
      have opened : (c :: rest).splitOn separator =
          if c == separator then [] :: rest.splitOn separator
          else (rest.splitOn separator).modifyHead (List.cons c) :=
        List.splitOnP_cons_eq_if_modifyHead c rest
      rw [split, ih, opened]
      by_cases separates : c = separator
      · rw [if_pos separates, if_pos (beq_iff_eq.2 separates)]
      · rw [if_neg separates, if_neg fun same => separates (beq_iff_eq.1 same)]
        cases parted : rest.splitOn separator with
        | nil => exact absurd parted (List.splitOn_ne_nil separator rest)
        | cons first others => rfl

/-- The segments of a text, joined again, are the text. -/
theorem join_split (separator : Code) (t : Text) : join [separator] (split separator t) = t := by
  rw [split_eq_splitOn]
  exact List.intercalate_splitOn separator

/-- A text is made of segments without the separator in one way only. -/
theorem split_join {separator : Code} {segments : List Text}
    (free : ∀ segment ∈ segments, separator ∉ segment) (given : segments ≠ []) :
    split separator (join [separator] segments) = segments := by
  rw [split_eq_splitOn]
  exact List.splitOn_intercalate separator free given

/-- A separator parts a text, whatever stands on either side of it. -/
theorem split_append (separator : Code) (s t : Text) :
    split separator (s ++ separator :: t) = split separator s ++ split separator t := by
  simp only [split_eq_splitOn]
  exact List.splitOn_append_cons_self s t

theorem not_mem_of_mem_split {separator : Code} {t segment : Text}
    (member : segment ∈ split separator t) : separator ∉ segment := by
  induction t generalizing segment with
  | nil =>
      rw [List.mem_singleton.1 member]
      exact List.not_mem_nil
  | cons c rest ih =>
      rw [split] at member
      by_cases separates : c = separator
      · rw [if_pos separates] at member
        rcases List.mem_cons.1 member with rfl | inRest
        · exact List.not_mem_nil
        · exact ih inRest
      · rw [if_neg separates] at member
        cases segments : split separator rest with
        | nil =>
            rw [segments, List.mem_singleton] at member
            rw [member, List.mem_singleton]
            exact fun same => separates same.symm
        | cons first others =>
            rw [segments] at member ih
            rcases List.mem_cons.1 member with rfl | inOthers
            · rw [List.mem_cons]
              rintro (same | inFirst)
              · exact separates same.symm
              · exact ih List.mem_cons_self inFirst
            · exact ih (List.mem_cons_of_mem first inOthers)

end Text

/-- A name is listed in a setting: commas part the setting into segments, and the name is what is
left of one of them without the blanks around it. -/
def IsListed (setting name : Text) : Prop :=
  name ≠ [] ∧ ∃ segments : List Text, Text.join "," segments = setting ∧
    (∀ segment ∈ segments, (',' : Code) ∉ segment) ∧ ∃ segment ∈ segments, segment.trim = name

theorem mem_splitList {setting name : Text} :
    name ∈ splitList setting ↔ IsListed setting name := by
  simp only [splitList, List.mem_filter, List.mem_map, Bool.not_eq_true',
    List.isEmpty_eq_false_iff, IsListed]
  constructor
  · rintro ⟨⟨segment, member, rfl⟩, given⟩
    exact ⟨given, _, Text.join_split ',' setting, fun _ => Text.not_mem_of_mem_split, segment,
      member, rfl⟩
  · rintro ⟨given, segments, rfl, free, segment, member, rfl⟩
    have parted : Text.split ',' (Text.join "," segments) = segments :=
      Text.split_join free (List.ne_nil_of_mem member)
    exact ⟨⟨segment, by rwa [parted], rfl⟩, given⟩

instance (setting name : Text) : Decidable (IsListed setting name) :=
  decidable_of_iff _ mem_splitList

end AdmissionGate
