/-
# AdmissionGate.Proofs.Text.Plain -- texts of printable ASCII

Numbers, dates, times and byte strings are shown in printable ASCII, and so is
everything that the JSON writer adds of its own.  Such a text survives any of the
encodings that contain ASCII, and it holds no surrogate half.
-/
import AdmissionGate.Calendar
import AdmissionGate.Text.Quoted

namespace AdmissionGate

set_option autoImplicit false

namespace Code

theorem val_ofChar (c : Char) : (ofChar c).val = c.toNat := rfl

theorem isDigit_ofChar {c : Char} (digit : c.isDigit = true) : (ofChar c).isDigit = true := by
  simp only [Char.isDigit, Bool.and_eq_true, decide_eq_true_eq] at digit
  obtain ⟨low, high⟩ := digit
  have low : 48 ≤ c.toNat := low
  have high : c.toNat ≤ 57 := high
  simp [isDigit, val_ofChar, low, high]

end Code

/-- Whether every code point of a text is printable ASCII. -/
def Text.Plain (t : Text) : Prop := ∀ c ∈ t, 0x20 ≤ c.val ∧ c.val < 0x7F

namespace Text

instance (t : Text) : Decidable (Plain t) := List.decidableBAll _ t

@[simp] theorem plain_nil : Plain [] := fun _ member => absurd member List.not_mem_nil

@[simp] theorem plain_cons {c : Code} {t : Text} :
    Plain (c :: t) ↔ (0x20 ≤ c.val ∧ c.val < 0x7F) ∧ Plain t := List.forall_mem_cons

@[simp] theorem plain_append {s t : Text} : Plain (s ++ t) ↔ Plain s ∧ Plain t :=
  List.forall_mem_append

theorem plain_flatMap {α : Type} {f : α → Text} {xs : List α} (each : ∀ x ∈ xs, Plain (f x)) :
    Plain (xs.flatMap f) := by
  intro c member
  obtain ⟨x, inList, inText⟩ := List.mem_flatMap.1 member
  exact each x inList c inText

/-- The texts in a row, the first one set apart from those that a separator stands before. -/
theorem join_cons (separator first : Text) (parts : List Text) :
    join separator (first :: parts) = first ++ parts.flatMap (separator ++ ·) := by
  induction parts generalizing first with
  | nil => simp [join]
  | cons next parts ih =>
      have later : join separator (first :: next :: parts) =
          first ++ (separator ++ join separator (next :: parts)) := by
        simp [join, List.intercalate, List.intersperse]
      rw [later, ih, List.flatMap_cons, List.append_assoc]

/-! ## Digits -/

theorem isDigit_of_mem_ofNat {n : Nat} {c : Code} (member : c ∈ ofNat n) : c.isDigit = true := by
  obtain ⟨d, inDigits, rfl⟩ := List.mem_map.1 member
  exact Code.isDigit_ofChar (Nat.isDigit_of_mem_toDigits (by decide) (by decide) inDigits)

@[simp] theorem plain_ofNat (n : Nat) : Plain (ofNat n) := by
  intro c member
  have digit := isDigit_of_mem_ofNat member
  simp only [Code.isDigit, Bool.and_eq_true, decide_eq_true_eq] at digit
  omega

@[simp] theorem plain_ofInt (n : Int) : Plain (ofInt n) := by
  cases n with
  | ofNat n => exact plain_ofNat n
  | negSucc n => exact plain_cons.2 ⟨by decide, plain_ofNat (n + 1)⟩

@[simp] theorem plain_padded (width n : Nat) : Plain (padded width n) := by
  refine plain_append.2 ⟨fun c member => ?_, plain_ofNat n⟩
  rw [List.eq_of_mem_replicate member]
  decide

theorem plain_ofHexDigit {d : Nat} (small : d < 16) :
    0x20 ≤ (Code.ofHexDigit d).val ∧ (Code.ofHexDigit d).val < 0x7F := by
  have digits : ∀ d : Fin 16,
      0x20 ≤ (Code.ofHexDigit d.val).val ∧ (Code.ofHexDigit d.val).val < 0x7F := by decide
  exact digits ⟨d, small⟩

@[simp] theorem plain_hex (width n : Nat) : Plain (hex width n) := by
  induction width generalizing n with
  | zero => exact plain_nil
  | succ width ih =>
      have last := plain_ofHexDigit (Nat.mod_lt n (by decide : 0 < 16))
      simp [hex, ih, last]

end Text

/-! ## Dates, times and byte strings -/

open Text

@[simp] theorem Date.plain_iso (d : Date) : Plain d.iso := by
  have dash : Plain ("-" : Text) := by decide
  simp [Date.iso, dash]

@[simp] theorem DateTime.plain_isoOffset (minutes : Int) : Plain (DateTime.isoOffset minutes) := by
  have colon : Plain (":" : Text) := by decide
  have sign : Plain [if minutes < 0 then ('-' : Code) else ('+' : Code)] := by split <;> decide
  simp [DateTime.isoOffset, colon, plain_cons.1 sign]

@[simp] theorem DateTime.plain_isoTime (t : DateTime) : Plain t.isoTime := by
  have colon : Plain (":" : Text) := by decide
  have point : Plain ("." : Text) := by decide
  have fraction : Plain (if t.microsecond = 0 then [] else "." ++ Text.padded 6 t.microsecond) := by
    split <;> simp [point]
  simp only [DateTime.isoTime, plain_append, plain_padded, colon, fraction, true_and]
  cases t.offset with
  | none => exact plain_nil
  | some minutes => exact plain_isoOffset minutes

theorem DateTime.plain_iso {separator : Code} (plain : Plain [separator]) (t : DateTime) :
    Plain (t.iso separator) := by
  have head := (plain_cons.1 plain).1
  exact plain_append.2 ⟨t.date.plain_iso, plain_cons.2 ⟨head, t.plain_isoTime⟩⟩

theorem Bytes.plain_escapeByte {quote : Code} (plain : Plain [quote]) (b : UInt8) :
    Plain (Bytes.escapeByte quote b) := by
  have byte := b.toNat_lt
  unfold Bytes.escapeByte
  by_cases ascii : b < 0x80
  · have small : b.toNat < 0x80 := UInt8.lt_iff_toNat_lt.1 ascii
    simp only [if_pos ascii, Text.escapeCode]
    split
    · rename_i special
      refine plain_cons.2 ⟨by decide, ?_⟩
      rcases special with same | same <;> rw [same]
      · exact plain
      · decide
    split
    · decide
    split
    · decide
    split
    · decide
    split
    · rename_i printable
      simp only [Code.isPrintable, if_pos small, Bool.and_eq_true, decide_eq_true_eq] at printable
      simp [printable]
    exact plain_append.2 ⟨by decide, plain_hex 2 _⟩
  · rw [if_neg ascii]
    exact plain_append.2 ⟨by decide, plain_hex 2 _⟩

/-- A byte string in quotes is printable ASCII. -/
theorem Bytes.plain_quoted (bytes : Bytes) : Plain bytes.quoted := by
  have quote : ∀ apostrophe : Bool,
      Plain [if apostrophe then ('"' : Code) else ('\x27' : Code)] := by decide
  have mark := quote (bytes.contains 0x27 && !bytes.contains 0x22)
  have body : Plain (bytes.flatMap (escapeByte _)) :=
    plain_flatMap fun b _ => Bytes.plain_escapeByte mark b
  refine plain_cons.2 ⟨by decide, plain_cons.2 ⟨(plain_cons.1 mark).1, ?_⟩⟩
  exact plain_append.2 ⟨body, mark⟩

end AdmissionGate
