/-
# AdmissionGate.Proofs.Value.Key -- keys are shown on one line

A value may be shown on several lines: a client model inside another value is.  But no
model can be the key of a map, nor can anything that holds one.  What can be a key are
numbers, dates, texts, byte strings and tuples of these, and each is shown on one line
(`unbroken_of_quoted`).
-/
import AdmissionGate.Proofs.Steps
import AdmissionGate.Proofs.Text.Unbroken
import AdmissionGate.Value.Display

namespace AdmissionGate

set_option autoImplicit false

open Text

/-! ## Numbers -/

theorem Integer.plain_of_write {n : Int} {t : Text} (written : write n = .ok t) : Plain t := by
  unfold write at written
  split at written
  · cases written
    exact plain_ofInt n
  · cases written

/-- The digits of a decimal number are below ten. -/
def Decimal.HasDigits (d : Decimal) : Prop := ∀ digit ∈ d.digits, digit < 10

namespace Binary

theorem hasDigits_decimal (n : Nat) (grid : Int) : (decimal n grid).HasDigits := by
  intro digit member
  -- the digits that are kept are some of those written
  have written : digit ∈ (Nat.toDigits 10 n).map fun c => c.toNat - 48 := by
    have kept := List.mem_reverse.1 member
    exact List.mem_reverse.1 ((List.dropWhile_suffix _).subset kept)
  obtain ⟨c, inDigits, rfl⟩ := List.mem_map.1 written
  have digit := Code.isDigit_ofChar (Nat.isDigit_of_mem_toDigits (by decide) (by decide) inDigits)
  simp only [Code.isDigit, Bool.and_eq_true, decide_eq_true_eq] at digit
  have high : c.toNat ≤ 57 := digit.2
  omega

theorem hasDigits_shortestFrom (x : Binary) (grids : Nat) (grid : Int) :
    (x.shortestFrom grids grid).HasDigits := by
  induction grids generalizing grid with
  | zero => exact hasDigits_decimal _ _
  | succ more ih =>
      unfold shortestFrom
      split
      · exact hasDigits_decimal _ _
      · exact ih (grid - 1)

end Binary

namespace Floating

theorem plain_digit {d : Nat} (small : d < 10) :
    0x20 ≤ (digit d).val ∧ (digit d).val < 0x7F := by
  have digits : ∀ d : Fin 10, 0x20 ≤ (digit d.val).val ∧ (digit d.val).val < 0x7F := by decide
  exact digits ⟨d, small⟩

theorem plain_writeExponent (e : Int) : Plain (writeExponent e) := by
  have sign : Plain [if e < 0 then ('-' : Code) else ('+' : Code)] := by
    split <;> decide
  exact plain_append.2 ⟨sign, plain_padded 2 _⟩

theorem plain_writeDecimal {d : Decimal} (small : d.HasDigits) :
    Plain (writeDecimal .display d) := by
  have digits : Plain (d.digits.map digit) := by
    intro c member
    obtain ⟨n, inDigits, rfl⟩ := List.mem_map.1 member
    exact plain_digit (small n inDigits)
  have front (n : Nat) : Plain ((d.digits.map digit).take n) :=
    fun c member => digits c (List.mem_of_mem_take member)
  have back (n : Nat) : Plain ((d.digits.map digit).drop n) :=
    fun c member => digits c (List.mem_of_mem_drop member)
  have zeros (n : Nat) : Plain (List.replicate n ('0' : Code)) := by
    intro c member
    rw [List.eq_of_mem_replicate member]
    decide
  have point : Plain ("." : Text) := by decide
  have mark : Plain ("e" : Text) := by decide
  have exponent := plain_writeExponent (d.point - 1)
  simp only [writeDecimal]
  split
  · split
    · simp +decide [zeros, digits]
    · split
      · simp +decide [zeros, digits]
      · simp [front, point, back]
  · split
    · have lone : Plain FloatFormat.display.loneDigit := by decide
      simp [digits, lone, mark, exponent]
    · have rest := back 1
      rw [List.drop_one] at rest
      simp [front, point, rest, mark, exponent]

/-- A floating-point number is shown in printable ASCII. -/
theorem plain_write (x : Float) : Plain (write .display x) := by
  have sign : Plain (if isNegative x then ("-" : Text) else "") := by
    split <;> decide
  simp only [write]
  split
  · decide
  split
  · simp +decide [sign]
  split
  · simp +decide [sign]
  · exact plain_append.2 ⟨sign, plain_writeDecimal (Binary.hasDigits_shortestFrom _ _ _)⟩

end Floating

/-! ## Dates and times -/

theorem Date.unbroken_parts (d : Date) : ∀ part ∈ d.parts, Unbroken part := by
  simp [parts]

theorem Date.unbroken_quoted (d : Date) : Unbroken d.quoted := by
  have numbers : Unbroken (Text.join ", " d.parts) := unbroken_join (by decide) d.unbroken_parts
  exact numbers.enclosed (by decide) (by decide)

theorem Calendar.unbroken_showDistance (minutes : Int) : Unbroken (showDistance minutes) := by
  have labelled (label : Text) (named : Unbroken label) (n : Int) :
      ∀ part ∈ (if n = 0 then [] else [label ++ Text.ofInt n]), Unbroken part := by
    split
    · exact List.forall_mem_nil _
    · exact List.forall_mem_singleton.2 (unbroken_append.2 ⟨named, (plain_ofInt n).unbroken⟩)
  have row {parts : List Text} (each : ∀ part ∈ parts, Unbroken part) :
      Unbroken (if parts.isEmpty then ("0" : Text) else Text.join ", " parts) := by
    split
    · decide
    · exact unbroken_join (by decide) each
  have days := labelled "days=" (by decide) (Int.fdiv minutes 1440)
  have seconds := labelled "seconds=" (by decide) (Int.fmod minutes 1440 * 60)
  have parts := row (List.forall_mem_append.2 ⟨days, seconds⟩)
  exact parts.enclosed (by decide) (by decide)

theorem DateTime.unbroken_quoted (t : DateTime) : Unbroken t.quoted := by
  simp only [quoted]
  refine Unbroken.enclosed (unbroken_join (by decide) ?_) (by decide) (by decide)
  simp only [List.forall_mem_append]
  refine ⟨⟨⟨t.date.unbroken_parts, by simp⟩, ?_⟩, ?_⟩
  · split
    · simp
    · split <;> simp
  · split
    · simp
    · split
      · simp +decide
      · simp +decide [Calendar.unbroken_showDistance]

/-! ## Values -/

theorem Sketch.unbroken_inParentheses {items : List Text} (each : ∀ item ∈ items, Unbroken item) :
    Unbroken (inParentheses ", " items) := by
  unfold inParentheses
  split
  · have item := each _ List.mem_cons_self
    exact item.enclosed (by decide) (by decide)
  · have row : Unbroken (Text.join ", " items) := unbroken_join (by decide) each
    exact row.enclosed (by decide) (by decide)

namespace Value

@[simp] theorem unbroken_typeName (v : Value) : Unbroken v.typeName := by
  cases v with
  | model cls attributes =>
      change Unbroken cls.name
      cases cls <;> decide
  | enclosing shape =>
      change Unbroken shape.typeName
      cases shape <;> decide
  | _ =>
      simp only [typeName]
      decide

mutual

theorem unbroken_line_sketch (inModel : Bool) : (v : Value) → v.unhashable? = none →
    (part : Sketch) → v.sketch inModel = .ok part → Unbroken part.line
  | .null, _, _, shown => by
      cases shown
      decide
  | .bool b, _, _, shown => by
      cases shown
      cases b <;> decide
  | .int n, _, _, shown => by
      rw [sketch] at shown
      obtain ⟨t, written, rfl⟩ := map_eq_ok_iff.1 shown
      exact (Integer.plain_of_write written).unbroken
  | .float x, _, _, shown => by
      cases shown
      exact (Floating.plain_write x).unbroken
  | .text t, _, _, shown => by
      cases shown
      exact Text.unbroken_quoted t
  | .bytes b, _, _, shown => by
      cases shown
      exact (Bytes.plain_quoted b).unbroken
  | .date d, _, _, shown => by
      cases shown
      exact d.unbroken_quoted
  | .dateTime t, _, _, shown => by
      cases shown
      exact t.unbroken_quoted
  | .tuple items, key, _, shown => by
      rw [sketch] at shown
      rw [unhashable?] at key
      obtain ⟨parts, each, rfl⟩ := map_eq_ok_iff.1 shown
      exact Sketch.unbroken_inParentheses (unbroken_lineItems inModel items key parts each)

theorem unbroken_lineItems (inModel : Bool) : (items : List Value) →
    unhashableItem? items = none → (parts : List Sketch) → sketchItems inModel items = .ok parts →
      ∀ t ∈ Sketch.lineItems parts, Unbroken t
  | [], _, _, shown => by
      cases shown
      exact List.forall_mem_nil _
  | x :: xs, keys, _, shown => by
      rw [unhashableItem?, Option.or_eq_none_iff] at keys
      obtain ⟨part, first, shown⟩ := bind_eq_ok_iff.1 shown
      obtain ⟨parts, rest, same⟩ := bind_eq_ok_iff.1 shown
      cases same
      rw [Sketch.lineItems, List.forall_mem_cons]
      exact ⟨unbroken_line_sketch inModel x keys.1 part first,
        unbroken_lineItems inModel xs keys.2 parts rest⟩

end

/-- **What can be a key is shown on one line.** -/
theorem unbroken_of_quoted {v : Value} {t : Text} (key : v.unhashable? = none)
    (shown : v.quoted = .ok t) : Unbroken t := by
  obtain ⟨part, sketched, rfl⟩ := map_eq_ok_iff.1 shown
  exact unbroken_line_sketch false v key part sketched

end Value

end AdmissionGate
