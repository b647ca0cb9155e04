/-
# AdmissionGate.Proofs.Number.Literal -- which texts are integer literals

A run of digits may have single underscores between its digits (`IsRun`), and a decimal
literal is a run of not too many digits after an optional sign (`IsLiteral`).  A text
without blanks at its ends is read as an integer exactly if it is such a literal, and
then as its value (`read_eq_ok_iff`).

Which code points are digits is a parameter: the reader takes those of any script, and
in ASCII text these are `0` to `9`.
-/
import AdmissionGate.Number.Integer
import AdmissionGate.Proofs.Json.Digits
import AdmissionGate.Proofs.Text.Trim
import Mathlib.Data.Nat.Digits.Defs

namespace AdmissionGate

set_option autoImplicit false

def Text.IsAscii (t : Text) : Prop := ∀ c ∈ t, c.val < 0x80

instance (t : Text) : Decidable t.IsAscii := List.decidableBAll _ t

namespace Integer

/-- A run of digits with their values: one underscore at most stands between two neighbours. -/
inductive IsRun (digit? : Code → Option Nat) : Text → List Nat → Prop
  | last {c : Code} {d : Nat} (digit : digit? c = some d) : IsRun digit? [c] [d]
  | next {c : Code} {d : Nat} {t : Text} {digits : List Nat} (digit : digit? c = some d)
      (rest : IsRun digit? t digits) : IsRun digit? (c :: t) (d :: digits)
  | parted {c : Code} {d : Nat} {t : Text} {digits : List Nat} (digit : digit? c = some d)
      (rest : IsRun digit? t digits) : IsRun digit? (c :: '_' :: t) (d :: digits)

def decimalValue (digits : List Nat) : Nat := Nat.ofDigits 10 digits.reverse

/-- A decimal literal with its value: a run of at most `maxDigits` digits, leading zeros counted,
after an optional sign. -/
inductive IsLiteral (digit? : Code → Option Nat) : Text → Int → Prop
  | unsigned {t : Text} {digits : List Nat} (run : IsRun digit? t digits)
      (short : digits.length ≤ maxDigits) : IsLiteral digit? t (decimalValue digits)
  | plus {t : Text} {digits : List Nat} (run : IsRun digit? t digits)
      (short : digits.length ≤ maxDigits) :
      IsLiteral digit? ('+' :: t) (decimalValue digits)
  | minus {t : Text} {digits : List Nat} (run : IsRun digit? t digits)
      (short : digits.length ≤ maxDigits) :
      IsLiteral digit? ('-' :: t) (-(decimalValue digits : Int))

/-! ## Runs -/

section Runs

variable {digit? : Code → Option Nat} {c : Code} {t : Text} {digits : List Nat}

theorem isRun_cons_iff :
    IsRun digit? (c :: t) digits ↔
      ∃ d others, digit? c = some d ∧ digits = d :: others ∧
        ((t = [] ∧ others = []) ∨ IsRun digit? t others ∨
          ∃ rest, t = ('_' : Code) :: rest ∧ IsRun digit? rest others) := by
  constructor
  · intro run
    cases run with
    | last digit => exact ⟨_, _, digit, rfl, .inl ⟨rfl, rfl⟩⟩
    | next digit rest => exact ⟨_, _, digit, rfl, .inr (.inl rest)⟩
    | parted digit rest => exact ⟨_, _, digit, rfl, .inr (.inr ⟨_, rfl, rest⟩)⟩
  · rintro ⟨d, others, digit, rfl, ⟨rfl, rfl⟩ | rest | ⟨rest, rfl, run⟩⟩
    · exact .last digit
    · exact .next digit rest
    · exact .parted digit run

theorem not_isRun_underscore (noDigit : digit? '_' = none) : ¬ IsRun digit? ('_' :: t) digits := by
  intro run
  obtain ⟨d, others, digit, -⟩ := isRun_cons_iff.1 run
  simp [noDigit] at digit

/-- What is read before a digit is a run; after a digit there may be nothing more, a run, or an
underscore and a run. -/
theorem digitsFrom?_eq_some_iff (noDigit : digit? '_' = none) :
    (digitsFrom? digit? false t = some digits ↔ IsRun digit? t digits) ∧
      (digitsFrom? digit? true t = some digits ↔
        (t = [] ∧ digits = []) ∨ IsRun digit? t digits ∨
          ∃ rest, t = ('_' : Code) :: rest ∧ IsRun digit? rest digits) := by
  induction t generalizing digits with
  | nil =>
      constructor
      · constructor
        · intro impossible
          cases impossible
        · intro impossible
          cases impossible
      · constructor
        · intro read
          cases read
          exact .inl ⟨rfl, rfl⟩
        · rintro (⟨-, rfl⟩ | impossible | ⟨rest, impossible, -⟩)
          · rfl
          · cases impossible
          · cases impossible
  | cons c t ih =>
      -- a digit is read in the same way, whatever came before it
      have digitFirst (afterDigit : Bool) (opens : ¬ (c = '_' ∧ afterDigit = true)) :
          digitsFrom? digit? afterDigit (c :: t) = some digits ↔ IsRun digit? (c :: t) digits := by
        rw [digitsFrom?, if_neg opens, isRun_cons_iff]
        cases digit : digit? c with
        | none => simp
        | some d =>
            simp only [Option.map_eq_some_iff, ih.2, Option.some.injEq]
            constructor
            · rintro ⟨others, read, rfl⟩
              exact ⟨d, others, rfl, rfl, read⟩
            · rintro ⟨_, others, rfl, rfl, read⟩
              exact ⟨others, read, rfl⟩
      refine ⟨digitFirst false (by simp), ?_⟩
      by_cases underscore : c = '_'
      · subst underscore
        rw [digitsFrom?, if_pos ⟨rfl, rfl⟩, ih.1]
        constructor
        · intro run
          exact .inr (.inr ⟨t, rfl, run⟩)
        · rintro (⟨impossible, -⟩ | run | ⟨rest, same, run⟩)
          · cases impossible
          · exact absurd run (not_isRun_underscore noDigit)
          · cases same
            exact run
      · rw [digitFirst true fun both => underscore both.1]
        constructor
        · intro run
          exact .inr (.inl run)
        · rintro (⟨impossible, -⟩ | run | ⟨rest, same, -⟩)
          · cases impossible
          · exact run
          · cases same
            exact absurd rfl underscore

/-- The digits of a text are read exactly if it is a run. -/
theorem digits?_eq_some_iff (noDigit : digit? '_' = none) :
    digits? digit? t = some digits ↔ IsRun digit? t digits :=
  (digitsFrom?_eq_some_iff noDigit).1

/-- A run is made of digits and underscores. -/
theorem IsRun.forall_mem (run : IsRun digit? t digits) :
    ∀ c ∈ t, c = '_' ∨ ∃ d, digit? c = some d := by
  induction run with
  | last digit => exact List.forall_mem_singleton.2 (.inr ⟨_, digit⟩)
  | next digit rest ih => exact List.forall_mem_cons.2 ⟨.inr ⟨_, digit⟩, ih⟩
  | parted digit rest ih =>
      exact List.forall_mem_cons.2 ⟨.inr ⟨_, digit⟩, List.forall_mem_cons.2 ⟨.inl rfl, ih⟩⟩

/-- Whether a text is a run depends on which of its own code points are digits only. -/
theorem IsRun.congr {other? : Code → Option Nat} (run : IsRun digit? t digits)
    (same : ∀ c ∈ t, digit? c = other? c) : IsRun other? t digits := by
  induction run with
  | last digit => exact .last ((same _ List.mem_cons_self).symm.trans digit)
  | next digit rest ih =>
      obtain ⟨first, others⟩ := List.forall_mem_cons.1 same
      exact .next (first.symm.trans digit) (ih others)
  | parted digit rest ih =>
      obtain ⟨first, others⟩ := List.forall_mem_cons.1 same
      exact .parted (first.symm.trans digit) (ih (List.forall_mem_cons.1 others).2)

theorem IsLiteral.congr {other? : Code → Option Nat} {n : Int} (literal : IsLiteral digit? t n)
    (same : ∀ c ∈ t, digit? c = other? c) : IsLiteral other? t n := by
  cases literal with
  | unsigned run short => exact .unsigned (run.congr same) short
  | plus run short => exact .plus (run.congr (List.forall_mem_cons.1 same).2) short
  | minus run short => exact .minus (run.congr (List.forall_mem_cons.1 same).2) short

/-- The end of a run is a digit. -/
theorem IsRun.getLast? (run : IsRun digit? t digits) :
    ∃ c d, t.getLast? = some c ∧ digit? c = some d := by
  induction run with
  | last digit => exact ⟨_, _, rfl, digit⟩
  | next digit rest ih =>
      obtain ⟨c, d, ends, isDigit⟩ := ih
      refine ⟨c, d, ?_, isDigit⟩
      rw [List.getLast?_cons, ends]
      rfl
  | parted digit rest ih =>
      obtain ⟨c, d, ends, isDigit⟩ := ih
      refine ⟨c, d, ?_, isDigit⟩
      rw [List.getLast?_cons, List.getLast?_cons, ends]
      rfl

end Runs

/-! ## Literals -/

theorem ofDigits_eq (digits : List Nat) : ofDigits 10 digits = decimalValue digits := by
  rw [decimalValue, Nat.ofDigits_eq_foldr, List.foldr_reverse, ofDigits]
  congr 1
  funext n d
  simp only [Nat.cast_id]
  omega

theorem isBlank_of_isPadding {c : Code} (padding : isPadding c = true) : c.isBlank = true := by
  simp only [isPadding, Code.isBlank, Bool.or_eq_true, Bool.and_eq_true, decide_eq_true_eq,
    beq_iff_eq] at padding ⊢
  omega

/-- A text that ends in no blank has no padding at its end. -/
theorem eq_nil_of_all_isPadding {s rest : Text} (finish : Text.EndsTight (s ++ rest))
    (padding : rest.all isPadding = true) : rest = [] := by
  rcases List.eq_nil_or_concat rest with nothing | ⟨front, c, parted⟩
  · exact nothing
  · rw [List.concat_eq_append] at parted
    subst parted
    have last : (s ++ (front ++ [c])).getLast? = some c := by
      rw [← List.append_assoc, List.getLast?_append]
      rfl
    have blank : c.isBlank = true := by
      apply isBlank_of_isPadding
      exact List.all_eq_true.1 padding c (List.mem_append_right _ List.mem_cons_self)
    have visible : c.isBlank = false := finish c last
    simp [blank] at visible

/-- Behind the sign, digits are read and only padding follows them exactly if all of it is a run. -/
theorem digits?_takeWhile_iff {s t : Text} {digits : List Nat} (finish : Text.EndsTight (s ++ t)) :
    (digits? (digit? 10) (t.takeWhile (isOfRun 10)) = some digits ∧
        (t.dropWhile (isOfRun 10)).all isPadding = true) ↔
      IsRun (digit? 10) t digits := by
  have parted : t.takeWhile (isOfRun 10) ++ t.dropWhile (isOfRun 10) = t :=
    List.takeWhile_append_dropWhile
  have noDigit : digit? 10 '_' = none := by decide
  rw [digits?_eq_some_iff noDigit]
  constructor
  · rintro ⟨run, padding⟩
    have nothing : t.dropWhile (isOfRun 10) = [] := by
      have whole : Text.EndsTight
          ((s ++ t.takeWhile (isOfRun 10)) ++ t.dropWhile (isOfRun 10)) := by
        rwa [List.append_assoc, parted]
      exact eq_nil_of_all_isPadding whole padding
    rw [nothing, List.append_nil] at parted
    rwa [parted] at run
  · intro run
    have ofRun : ∀ c ∈ t, isOfRun 10 c = true := by
      intro c member
      rcases run.forall_mem c member with rfl | ⟨d, digit⟩
      · rfl
      · simp [isOfRun, digit]
    rw [List.takeWhile_eq_self_iff.2 ofRun, List.dropWhile_eq_nil_iff.2 ofRun]
    exact ⟨run, rfl⟩

/-- The reader takes a sign first and then a run; too many digits are a fault of their own. -/
theorem read_eq (t : Text) :
    read 10 t =
      match digits? (digit? 10) ((splitSign (unpadStart t)).2.takeWhile (isOfRun 10)) with
      | none => .error (.malformed 10 t)
      | some digits =>
        if maxDigits < digits.length then .error (.tooManyDigits digits.length)
        else if ((splitSign (unpadStart t)).2.dropWhile (isOfRun 10)).all isPadding then
          .ok (if (splitSign (unpadStart t)).1 then -(ofDigits 10 digits : Int)
            else ofDigits 10 digits)
        else .error (.malformed 10 t) := by
  simp only [read, dropMarker, marker?]
  cases digits? (digit? 10) ((splitSign (unpadStart t)).2.takeWhile (isOfRun 10)) with
  | none => rfl
  | some digits => simp only [true_and]

theorem splitSign_cases (t : Text) :
    (∃ rest : Text, t = ('-' : Code) :: rest ∧ splitSign t = (true, rest)) ∨
      (∃ rest : Text, t = ('+' : Code) :: rest ∧ splitSign t = (false, rest)) ∨
      splitSign t = (false, t) := by
  cases t with
  | nil => exact .inr (.inr rfl)
  | cons c rest =>
      by_cases minus : c = '-'
      · exact .inl ⟨rest, by rw [minus], by rw [splitSign, if_pos minus]⟩
      · by_cases plus : c = '+'
        · exact .inr (.inl ⟨rest, by rw [plus], by rw [splitSign, if_neg minus, if_pos plus]⟩)
        · exact .inr (.inr (by rw [splitSign, if_neg minus, if_neg plus]))

/-- A literal, taken apart at its sign. -/
theorem isLiteral_iff {t : Text} {n : Int} :
    IsLiteral (digit? 10) t n ↔
      ∃ digits, IsRun (digit? 10) (splitSign t).2 digits ∧ digits.length ≤ maxDigits ∧
        n = if (splitSign t).1 then -(decimalValue digits : Int) else decimalValue digits := by
  have noRun (sign : Code) (noDigit : digit? 10 sign = none) {rest : Text} {digits : List Nat} :
      ¬ IsRun (digit? 10) (sign :: rest) digits := by
    intro run
    obtain ⟨d, others, digit, -⟩ := isRun_cons_iff.1 run
    simp [noDigit] at digit
  constructor
  · intro literal
    cases literal with
    | unsigned run short =>
        rcases splitSign_cases t with ⟨rest, rfl, -⟩ | ⟨rest, rfl, -⟩ | split
        · exact absurd run (noRun '-' (by decide))
        · exact absurd run (noRun '+' (by decide))
        · rw [split]
          exact ⟨_, run, short, rfl⟩
    | plus run short => exact ⟨_, run, short, rfl⟩
    | minus run short => exact ⟨_, run, short, rfl⟩
  · rintro ⟨digits, run, short, rfl⟩
    rcases splitSign_cases t with ⟨rest, rfl, split⟩ | ⟨rest, rfl, split⟩ | split
    · rw [split] at run ⊢
      exact .minus run short
    · rw [split] at run ⊢
      exact .plus run short
    · rw [split] at run ⊢
      exact .unsigned run short

/-- **A text without blanks at its ends is read exactly if it is a literal, and as its value.** -/
theorem read_eq_ok_iff {t : Text} {n : Int} (tight : Text.IsTight t) :
    read 10 t = .ok n ↔ IsLiteral (digit? 10) t n := by
  have unpadded : unpadStart t = t := by
    cases t with
    | nil => rfl
    | cons c rest =>
        have visible : c.isBlank = false := tight.start c rfl
        apply List.dropWhile_cons_of_neg
        intro padding
        simp [isBlank_of_isPadding padding] at visible
  -- the rest behind the sign ends as the text does
  obtain ⟨sign, signed⟩ : ∃ sign, t = sign ++ (splitSign t).2 := by
    rcases splitSign_cases t with ⟨rest, same, split⟩ | ⟨rest, same, split⟩ | split
    · exact ⟨['-'], by rw [split]; exact same⟩
    · exact ⟨['+'], by rw [split]; exact same⟩
    · exact ⟨[], by rw [split]; rfl⟩
  have finish : Text.EndsTight (sign ++ (splitSign t).2) := signed ▸ tight.finish
  rw [read_eq, unpadded, isLiteral_iff]
  simp only [← digits?_takeWhile_iff finish, ← ofDigits_eq]
  cases digits? (digit? 10) ((splitSign t).2.takeWhile (isOfRun 10)) with
  | none => simp
  | some digits =>
      simp only [Option.some.injEq]
      constructor
      · intro read
        split at read
        · cases read
        · rename_i short
          split at read
          · rename_i padding
            cases read
            exact ⟨digits, ⟨rfl, padding⟩, Nat.not_lt.1 short, rfl⟩
          · cases read
      · rintro ⟨_, ⟨rfl, padding⟩, short, rfl⟩
        rw [if_neg (Nat.not_lt.2 short), if_pos padding]

/-! ## Literals in ASCII -/

/-- In ASCII the digits of all scripts are `0` to `9`. -/
theorem digit?_of_ascii {c : Code} (ascii : c.val < 0x80) : digit? 10 c = c.digit? := by
  have all : ∀ n : Fin 0x80, digit? 10 (Code.ofNat n.val) = (Code.ofNat n.val).digit? := by
    decide +kernel
  have same : Code.ofNat c.val = c := Fin.ext (Nat.mod_eq_of_lt c.isLt)
  have found := all ⟨c.val, ascii⟩
  rwa [same] at found

theorem read_eq_ok_iff_of_ascii {t : Text} {n : Int} (tight : Text.IsTight t)
    (ascii : t.IsAscii) : read 10 t = .ok n ↔ IsLiteral Code.digit? t n := by
  rw [read_eq_ok_iff tight]
  constructor
  · intro literal
    exact literal.congr fun c member => digit?_of_ascii (ascii c member)
  · intro literal
    exact literal.congr fun c member => (digit?_of_ascii (ascii c member)).symm

theorem isBlank_of_digit? {c : Code} {d : Nat} (digit : c.digit? = some d) :
    c.isBlank = false := by
  unfold Code.digit? at digit
  split at digit
  · rename_i inRow
    simp only [Bool.and_eq_true, decide_eq_true_eq] at inRow
    simp only [Code.isBlank, Bool.or_eq_false_iff, Bool.and_eq_false_iff, decide_eq_false_iff_not,
      beq_eq_false_iff_ne]
    omega
  · cases digit

/-- A literal has no blank at either end. -/
theorem IsLiteral.isTight {t : Text} {n : Int} (literal : IsLiteral Code.digit? t n) :
    Text.IsTight t := by
  have runTight {t : Text} {digits : List Nat} (run : IsRun Code.digit? t digits) :
      Text.IsTight t := by
    constructor
    · intro c first
      cases t with
      | nil => cases first
      | cons c t =>
          cases first
          obtain ⟨d, others, digit, -⟩ := isRun_cons_iff.1 run
          exact isBlank_of_digit? digit
    · intro c last
      obtain ⟨c, d, ends, digit⟩ := run.getLast?
      rw [Option.mem_def.1 last] at ends
      cases ends
      exact isBlank_of_digit? digit
  have signTight (sign : Code) (visible : sign.isBlank = false) {t : Text} {digits : List Nat}
      (run : IsRun Code.digit? t digits) : Text.IsTight (sign :: t) := by
    constructor
    · intro c first
      cases first
      exact visible
    · intro c last
      obtain ⟨end_, d, ends, digit⟩ := run.getLast?
      rw [List.getLast?_cons, ends] at last
      cases last
      exact isBlank_of_digit? digit
  cases literal with
  | unsigned run short => exact runTight run
  | plus run short => exact signTight '+' rfl run
  | minus run short => exact signTight '-' rfl run

/-- Digits alone are a run. -/
theorem isRun_digitValues {t : Text} (given : t ≠ []) (digits : ∀ c ∈ t, c.isDigit = true) :
    IsRun Code.digit? t (Json.digitValues t) := by
  induction t with
  | nil => exact absurd rfl given
  | cons c rest ih =>
      obtain ⟨first, others⟩ := List.forall_mem_cons.1 digits
      have digit : c.digit? = some (c.val - 48) := if_pos first
      by_cases alone : rest = []
      · subst alone
        exact .last digit
      · exact .next digit (ih alone others)

/-- An integer written in decimal is a literal. -/
theorem isLiteral_ofInt {n : Int} (short : (Text.ofNat n.natAbs).length ≤ maxDigits) :
    IsLiteral Code.digit? (Text.ofInt n) n := by
  have run (k : Nat) : IsRun Code.digit? (Text.ofNat k) (Json.digitValues (Text.ofNat k)) :=
    isRun_digitValues (Text.ofNat_ne_nil k) fun c member => Text.isDigit_of_mem_ofNat member
  have value (k : Nat) : decimalValue (Json.digitValues (Text.ofNat k)) = k := by
    rw [← ofDigits_eq]
    exact Json.ofDigits_digitValues k
  have length (k : Nat) : (Json.digitValues (Text.ofNat k)).length = (Text.ofNat k).length := by
    simp [Json.digitValues]
  cases n with
  | ofNat k =>
      have literal := IsLiteral.unsigned (run k) (by rw [length]; exact short)
      rwa [value] at literal
  | negSucc k =>
      have literal := IsLiteral.minus (run (k + 1)) (by rw [length]; exact short)
      rwa [value] at literal

end Integer

end AdmissionGate
