/-
# AdmissionGate.Proofs.Json.Digits -- integers written and scanned

The decimal digits of a number read back as the number, only zero starts with a
zero, and no more digits are written than the power of ten above it says.  So an
integer in a document is one token whatever delimiter follows it
(`scanScalar_ofInt`), which is all that the reader needs to know about digits.
-/
import AdmissionGate.Json.Token
import AdmissionGate.Proofs.Text.Plain

namespace AdmissionGate

set_option autoImplicit false

namespace Text

theorem ofNat_ne_nil (n : Nat) : ofNat n ≠ [] := by
  simp [ofNat]

/-- A decimal number has at most `k` digits exactly if it is below the power of ten. -/
theorem length_ofNat_le_iff {n k : Nat} (positive : 0 < k) :
    (ofNat n).length ≤ k ↔ n < Nat.pow 10 k := by
  rw [ofNat, List.length_map]
  exact Nat.length_toDigits_le_iff (by decide) positive

theorem ofNat_of_lt {n : Nat} (small : n < 10) : ofNat n = [Code.ofChar n.digitChar] := by
  rw [ofNat, Nat.toDigits_of_lt_base small, List.map_singleton]

theorem ofNat_of_ge {n : Nat} (large : 10 ≤ n) :
    ofNat n = ofNat (n / 10) ++ [Code.ofChar (n % 10).digitChar] := by
  rw [ofNat, Nat.toDigits_of_base_le (by decide) large, List.map_append]
  rfl

/-- Only the number zero is written with a leading zero. -/
theorem head?_ofNat {n : Nat} (positive : 0 < n) : (ofNat n).head? ≠ some ('0' : Code) := by
  induction n using Nat.strongRecOn with
  | _ n ih =>
      by_cases small : n < 10
      · rw [ofNat_of_lt small]
        have digits : ∀ d : Fin 10, 0 < d.val →
            [Code.ofChar d.val.digitChar].head? ≠ some ('0' : Code) := by decide
        exact digits ⟨n, small⟩ positive
      · rw [ofNat_of_ge (by omega)]
        have front := ih (n / 10) (by omega) (by omega)
        cases shape : ofNat (n / 10) with
        | nil => exact absurd shape (ofNat_ne_nil _)
        | cons c t =>
            rw [shape] at front
            simpa using front

end Text

namespace Json

theorem ofDigits_digitValues (n : Nat) :
    Integer.ofDigits 10 (digitValues (Text.ofNat n)) = n := by
  have agree : ∀ (cs : List Char) (m : Nat),
      (digitValues (cs.map Code.ofChar)).foldl (fun n d => n * 10 + d) m =
        Nat.ofDigitChars 10 cs m := by
    intro cs
    induction cs with
    | nil => intro m; rfl
    | cons c cs ih =>
        intro m
        have step : m * 10 + (c.toNat - 48) = 10 * m + (c.toNat - '0'.toNat) := by
          rw [Nat.mul_comm]; rfl
        simp only [digitValues, List.map_cons, List.foldl_cons, Code.val_ofChar] at ih ⊢
        rw [Nat.ofDigitChars_cons, ← step]
        exact ih _
  rw [Integer.ofDigits, Text.ofNat, agree]
  exact Nat.ofDigitChars_ten_toDigits

/-- What may follow a value inside a document: the end of the text or a delimiter. -/
def Closed : Text → Prop
  | [] => True
  | c :: _ => c = ',' ∨ c = ']' ∨ c = '\x7d'

theorem takeWhile_isDigit_of_closed {rest : Text} (closed : Closed rest) :
    rest.takeWhile Code.isDigit = [] := by
  cases rest with
  | nil => rfl
  | cons c t => rcases closed with rfl | rfl | rfl <;> rfl

theorem scanFraction_of_closed {rest : Text} (closed : Closed rest) : scanFraction rest = [] := by
  cases rest with
  | nil => rfl
  | cons c t => rcases closed with rfl | rfl | rfl <;> rfl

theorem scanExponent_of_closed {rest : Text} (closed : Closed rest) :
    scanExponent rest = none := by
  cases rest with
  | nil => rfl
  | cons c t => rcases closed with rfl | rfl | rfl <;> rfl

theorem scanWhole_ofNat (n : Nat) {rest : Text} (closed : Closed rest) :
    scanWhole (Text.ofNat n ++ rest) = Text.ofNat n := by
  have digits : (Text.ofNat n ++ rest).takeWhile Code.isDigit = Text.ofNat n := by
    rw [List.takeWhile_append_of_pos fun c member => Text.isDigit_of_mem_ofNat member,
      takeWhile_isDigit_of_closed closed, List.append_nil]
  by_cases zero : n = 0
  · subst zero; rfl
  · have front := Text.head?_ofNat (Nat.pos_of_ne_zero zero)
    cases shape : Text.ofNat n with
    | nil => exact absurd shape (Text.ofNat_ne_nil n)
    | cons c t =>
        rw [shape] at front digits
        have other : c ≠ '0' := fun same => front (by rw [same]; rfl)
        rw [List.cons_append] at digits ⊢
        simp only [scanWhole, if_neg other]
        exact digits

/-- The digits of a number are one token, whatever delimiter follows. -/
theorem scanUnsigned_ofNat (maxDigits n : Nat) (negative : Bool) {rest : Text}
    (short : (Text.ofNat n).length ≤ maxDigits) (closed : Closed rest) :
    scanUnsigned maxDigits negative (Text.ofNat n ++ rest) =
      some (.scalar (.int (if negative then -(n : Int) else n)), (Text.ofNat n).length) := by
  have some_digits : (Text.ofNat n).isEmpty = false := by
    rw [List.isEmpty_eq_false_iff]
    exact Text.ofNat_ne_nil n
  unfold scanUnsigned
  simp only [scanWhole_ofNat n closed, some_digits, List.drop_left, scanFraction_of_closed closed,
    fractionWidth, List.isEmpty_nil, List.drop_zero, scanExponent_of_closed closed,
    Option.isNone_none, Bool.and_self, if_true, if_neg (Nat.not_lt.2 short), Nat.add_zero,
    ofDigits_digitValues]
  rfl

/-- The text does not start as a number does: not with a digit, not with a sign and a digit. -/
def startsUnlikeNumber : Text → Bool
  | c :: d :: _ => !c.isDigit && (c != '-' || !d.isDigit)
  | _ => false

/-- No word is the start of a number, with a sign or without. -/
theorem startsWith_word_eq_false {word : Text} (member : word ∈ words.map Prod.fst) {c : Code}
    (digit : c.isDigit = true) (rest : Text) :
    Text.startsWith (c :: rest) word = false ∧
      Text.startsWith (('-' : Code) :: c :: rest) word = false := by
  have letters : (words.map Prod.fst).all startsUnlikeNumber = true := by decide
  have shape := List.all_eq_true.1 letters word member
  match word with
  | l :: m :: t =>
      simp only [startsUnlikeNumber, Bool.and_eq_true, Bool.not_eq_true', Bool.or_eq_true,
        bne_iff_ne] at shape
      obtain ⟨first, second⟩ := shape
      have ne : l ≠ c := fun same => by rw [same, digit] at first; cases first
      refine ⟨by simp [Text.startsWith, List.isPrefixOf, ne], ?_⟩
      rcases second with ne | second
      · simp [Text.startsWith, List.isPrefixOf, ne]
      · have ne : m ≠ c := fun same => by rw [same, digit] at second; cases second
        simp [Text.startsWith, List.isPrefixOf, ne]

theorem find?_words_of_digit {c : Code} (digit : c.isDigit = true) (rest : Text) :
    (words.find? fun (word, _) => Text.startsWith (c :: rest) word) = none ∧
      (words.find? fun (word, _) => Text.startsWith (('-' : Code) :: c :: rest) word) = none := by
  refine ⟨List.find?_eq_none.2 fun entry member => ?_, List.find?_eq_none.2 fun entry member => ?_⟩
  · simp [(startsWith_word_eq_false (List.mem_map_of_mem member) digit rest).1]
  · simp [(startsWith_word_eq_false (List.mem_map_of_mem member) digit rest).2]

/-- A written integer is one token, whatever delimiter follows. -/
theorem scanScalar_ofInt {maxDigits : Nat} {n : Int} {rest : Text}
    (short : (Text.ofNat n.natAbs).length ≤ maxDigits) (closed : Closed rest) :
    scanScalar maxDigits (Text.ofInt n ++ rest) =
      (.scalar (.int n), (Text.ofInt n).length - 1) := by
  have first : ∀ m : Nat, ∃ c t, Text.ofNat m = c :: t ∧ c.isDigit = true := by
    intro m
    cases shape : Text.ofNat m with
    | nil => exact absurd shape (Text.ofNat_ne_nil m)
    | cons c t => exact ⟨c, t, rfl, Text.isDigit_of_mem_ofNat (n := m) (by simp [shape])⟩
  cases n with
  | ofNat m =>
      obtain ⟨c, t, shape, digit⟩ := first m
      have scanned := scanUnsigned_ofNat maxDigits m false short closed
      have positive : c ≠ '-' := by rintro rfl; cases digit
      simp only [Text.ofInt, shape, List.cons_append] at scanned ⊢
      unfold scanScalar
      rw [(find?_words_of_digit digit (t ++ rest)).1]
      simp only [if_neg positive, scanned]
      rfl
  | negSucc m =>
      obtain ⟨c, t, shape, digit⟩ := first (m + 1)
      have scanned := scanUnsigned_ofNat maxDigits (m + 1) true short closed
      simp only [Text.ofInt, List.cons_append, shape] at scanned ⊢
      unfold scanScalar
      rw [(find?_words_of_digit digit (t ++ rest)).2]
      simp only [if_true, scanned]
      rfl

end Json

end AdmissionGate
