/-
# AdmissionGate.Proofs.Gate.Verbosity -- the verbosity that a setting gives

A setting spells an integer if it is a decimal literal with blanks around it
(`Log.Spells`).  An ASCII setting gives the verbosity that it spells, zero if that is
negative, and every other one gives zero (`verbosity_reads`): a sign alone, doubled
underscores, blanks inside and too many digits are no integers.
-/
import AdmissionGate.Gate.Log
import AdmissionGate.Proofs.Number.Literal

namespace AdmissionGate

set_option autoImplicit false

namespace Log

open Text Integer

/-- A setting spells an integer: it is a decimal literal in ASCII digits with blanks around it. -/
def Spells (setting : Text) (n : Int) : Prop :=
  ∃ before literal after : Text, setting = before ++ (literal ++ after) ∧
    IsBlank before ∧ IsBlank after ∧ IsLiteral Code.digit? literal n

variable {setting : Text} {n : Int}

/-- A setting spells what it is the literal of, once it is trimmed. -/
theorem spells_iff : Spells setting n ↔ IsLiteral Code.digit? setting.trim n := by
  constructor
  · rintro ⟨before, literal, after, rfl, leading, trailing, isLiteral⟩
    rwa [trim_padded leading isLiteral.isTight trailing]
  · intro isLiteral
    obtain ⟨before, after, leading, trailing, padded⟩ := exists_padding setting
    exact ⟨before, setting.trim, after, padded, leading, trailing, isLiteral⟩

theorem verbosity_of_read (read : Integer.read 10 setting.trim = .ok n) :
    (verbosity (some setting) : Int) = max 0 n := by
  have opened : verbosity (some setting) = n.toNat := by
    rw [verbosity, Option.getD_some, read]
  rw [opened, Int.toNat_eq_max, max_comm]

theorem verbosity_of_not_read (refused : ∀ n, Integer.read 10 setting.trim ≠ .ok n) :
    verbosity (some setting) = 0 := by
  rw [verbosity, Option.getD_some]
  cases read : Integer.read 10 setting.trim with
  | ok n => exact absurd read (refused n)
  | error fault => rfl

/-- Trimming leaves ASCII text as ASCII text. -/
theorem isAscii_trim (ascii : setting.IsAscii) : setting.trim.IsAscii := by
  obtain ⟨before, after, -, -, padded⟩ := exists_padding setting
  intro c member
  apply ascii
  rw [padded]
  exact List.mem_append_right _ (List.mem_append_left _ member)

/-- What is spelled is read, whether or not the blanks around it are ASCII. -/
theorem verbosity_of_spells (spells : Spells setting n) (ascii : setting.trim.IsAscii) :
    (verbosity (some setting) : Int) = max 0 n := by
  apply verbosity_of_read
  exact (read_eq_ok_iff_of_ascii (isTight_trim setting) ascii).2 (spells_iff.1 spells)

theorem spells_ofInt (short : (Text.ofNat n.natAbs).length ≤ maxDigits) {before after : Text}
    (leading : IsBlank before) (trailing : IsBlank after) :
    Spells (before ++ (Text.ofInt n ++ after)) n :=
  ⟨before, Text.ofInt n, after, rfl, leading, trailing, isLiteral_ofInt short⟩

/-- **The log takes exactly the integers.**  An ASCII setting that spells an integer gives it as the
verbosity, or zero if it is negative; one that spells none gives zero.  So every integer of at most
`maxDigits` digits, written in decimal with any blanks around it, gives itself. -/
theorem verbosity_reads :
    (∀ setting : Text, setting.IsAscii →
        (∀ n, Spells setting n → (verbosity (some setting) : Int) = max 0 n) ∧
          ((¬ ∃ n, Spells setting n) → verbosity (some setting) = 0)) ∧
      ∀ (n : Int) (before after : Text), (Text.ofNat n.natAbs).length ≤ maxDigits →
        IsBlank before → IsBlank after →
          (verbosity (some (before ++ (Text.ofInt n ++ after))) : Int) = max 0 n := by
  constructor
  · intro setting ascii
    constructor
    · intro n spells
      exact verbosity_of_spells spells (isAscii_trim ascii)
    · intro spellsNone
      apply verbosity_of_not_read
      intro n read
      apply spellsNone
      refine ⟨n, spells_iff.2 ?_⟩
      exact (read_eq_ok_iff_of_ascii (isTight_trim setting) (isAscii_trim ascii)).1 read
  · intro n before after short leading trailing
    have literal := isLiteral_ofInt short
    apply verbosity_of_spells (spells_ofInt short leading trailing)
    -- the blanks may be of any script, but they are trimmed
    rw [trim_padded leading literal.isTight trailing]
    intro c member
    have plain := plain_ofInt n c member
    omega

/-- A signed integer with an underscore between its digits, and one that is too far from them. -/
theorem verbosity_reads_partedDigits :
    Spells "\t+1_0 " 10 ∧ verbosity (some "\t+1_0 ") = 10 ∧
      (¬ ∃ n, Spells "1__0" n) ∧ verbosity (some "1__0") = 0 ∧
      verbosity (some (" " ++ (Text.ofInt (-3) ++ "\n"))) = 0 := by
  have spells : Spells "\t+1_0 " 10 := by
    have one : Code.digit? '1' = some 1 := rfl
    have zero : Code.digit? '0' = some 0 := rfl
    have short : [1, 0].length ≤ maxDigits := by decide
    exact ⟨"\t", "+1_0", " ", rfl, by decide, by decide, .plus (.parted one (.last zero)) short⟩
  have spellsNone : ¬ ∃ n, Spells "1__0" n := by
    rintro ⟨n, spells⟩
    have ascii : IsAscii (trim "1__0") := by decide
    have read := (read_eq_ok_iff_of_ascii (isTight_trim "1__0") ascii).2 (spells_iff.1 spells)
    cases read
  refine ⟨spells, ?_, spellsNone, ?_, ?_⟩
  · have given := (verbosity_reads.1 "\t+1_0 " (by decide)).1 10 spells
    exact Int.ofNat_inj.1 given
  · exact (verbosity_reads.1 "1__0" (by decide)).2 spellsNone
  · have short : (Text.ofNat (Int.natAbs (-3))).length ≤ maxDigits := by decide
    have given := verbosity_reads.2 (-3) " " "\n" short (by decide) (by decide)
    exact Int.ofNat_inj.1 given

end Log

end AdmissionGate
