/-
# AdmissionGate.Proofs.Encoding.Codec -- decoding what was encoded

Each encoding spells a code point in bytes that its step reads off the front of
whatever follows them (`Spells`).  So a text that was encoded is decoded, wherever
its bytes start to be counted (`decodeWith_encode`); only the two halves of a
surrogate pair would come back from UTF-16 as one code point, and they are kept out
by asking for texts without halves.
-/
import AdmissionGate.Encoding.Encode
import AdmissionGate.Proofs.Json.Escape

namespace AdmissionGate

set_option autoImplicit false

namespace Encoding

/-- A step reads a code point off these bytes, whatever follows them. -/
def Spells (step : UInt8 → Bytes → Step) (c : Code) (bytes : Bytes) : Prop :=
  ∃ first more, bytes = first :: more ∧ ∀ rest, step first (more ++ rest) = .code c more.length

theorem decodeFrom_skip (encoding : Encoding) (step : UInt8 → Bytes → Step) (position : Nat)
    (read : Text) (xs rest : Bytes) :
    decodeFrom encoding step xs.length position read (xs ++ rest) =
      decodeFrom encoding step 0 (position + xs.length) read rest := by
  induction xs generalizing position with
  | nil => rfl
  | cons x xs ih =>
      simp only [List.length_cons, List.cons_append, decodeFrom]
      rw [ih, Nat.add_assoc, Nat.add_comm 1]

theorem decodeFrom_flatMap (encoding : Encoding) {step : UInt8 → Bytes → Step}
    {spell : Code → Bytes} {t : Text} (spells : ∀ c ∈ t, Spells step c (spell c))
    (position : Nat) (read : Text) :
    decodeFrom encoding step 0 position read (t.flatMap spell) = .ok (read.reverse ++ t) := by
  induction t generalizing position read with
  | nil => rw [List.append_nil]; rfl
  | cons c t ih =>
      obtain ⟨head, tail⟩ := List.forall_mem_cons.1 spells
      obtain ⟨first, more, bytes, reads⟩ := head
      rw [List.flatMap_cons, bytes, List.cons_append]
      simp only [decodeFrom, reads]
      rw [decodeFrom_skip, ih tail, List.reverse_cons, List.append_assoc, List.singleton_append]

/-! ## Bytes -/

theorem toNat_byte (n : Nat) : (byte n).toNat = n % 0x100 :=
  UInt8.toNat_ofNat'

theorem toNat_byte_of_lt {n : Nat} (small : n < 0x100) : (byte n).toNat = n := by
  rw [toNat_byte, Nat.mod_eq_of_lt small]

theorem byte_lt_iff {n : Nat} (small : n < 0x100) (b : UInt8) : byte n < b ↔ n < b.toNat := by
  rw [UInt8.lt_iff_toNat_lt, toNat_byte_of_lt small]

theorem isContinuation_continuation (n : Nat) : isContinuation (continuation n) = true := by
  have all : ∀ k : Fin 0x40, isContinuation (byte (0x80 + k.val)) = true := by decide
  exact all ⟨n % 0x40, Nat.mod_lt n (by decide)⟩

theorem toNat_continuation (n : Nat) : (continuation n).toNat = 0x80 + n % 0x40 :=
  toNat_byte_of_lt (by omega)

theorem payload_continuation (n : Nat) : payload (continuation n) = n % 0x40 := by
  rw [payload, toNat_continuation]
  omega

/-! ## UTF-8 -/

theorem spells_one {c : Code} (small : c.val < 0x80) : Spells (utf8Step true) c [byte c.val] := by
  refine ⟨_, _, rfl, fun rest => ?_⟩
  unfold utf8Step
  rw [if_pos ((byte_lt_iff (by omega) _).2 small), toNat_byte_of_lt (by omega), Code.ofNat_val]
  rfl

theorem spells_two {c : Code} (low : 0x80 ≤ c.val) (high : c.val < 0x800) :
    Spells (utf8Step true) c [byte (0xC0 + c.val / 0x40), continuation c.val] := by
  have lead : 0xC0 + c.val / 0x40 < 0x100 := by omega
  have value : (0xC0 + c.val / 0x40) % 0x20 * 0x40 + c.val % 0x40 = c.val := by omega
  refine ⟨_, _, rfl, fun rest => ?_⟩
  simp only [utf8Step, byte_lt_iff lead, UInt8.reduceToNat]
  rw [if_neg (by omega), if_neg (by omega), if_pos (by omega)]
  simp only [List.cons_append, isContinuation_continuation, if_true, payload_continuation,
    toNat_byte_of_lt lead, value, Code.ofNat_val]
  rfl

theorem followsThree_continuation {n : Nat} (low : 0x800 ≤ n) (high : n < 0x10000) :
    followsThree true (byte (0xE0 + n / 0x1000)) (continuation (n / 0x40)) = true := by
  have large : (byte (0xE0 + n / 0x1000) == 0xE0 && continuation (n / 0x40) < 0xA0) = false := by
    rw [Bool.and_eq_false_iff]
    by_cases first : n < 0x1000
    · refine .inr (decide_eq_false ?_)
      rw [UInt8.lt_iff_toNat_lt, toNat_continuation]
      show ¬ _ < 0xA0
      omega
    · refine .inl (beq_eq_false_iff_ne.2 fun same => ?_)
      have number : (byte (0xE0 + n / 0x1000)).toNat = 0xE0 := congrArg UInt8.toNat same
      rw [toNat_byte] at number
      omega
  rw [followsThree, isContinuation_continuation, large]
  rfl

theorem spells_three {c : Code} (low : 0x800 ≤ c.val) (high : c.val < 0x10000) :
    Spells (utf8Step true) c
      [byte (0xE0 + c.val / 0x1000), continuation (c.val / 0x40), continuation c.val] := by
  have lead : 0xE0 + c.val / 0x1000 < 0x100 := by omega
  have value : ((0xE0 + c.val / 0x1000) % 0x10 * 0x40 + c.val / 0x40 % 0x40) * 0x40 +
      c.val % 0x40 = c.val := by omega
  refine ⟨_, _, rfl, fun rest => ?_⟩
  simp only [utf8Step, byte_lt_iff lead, UInt8.reduceToNat]
  rw [if_neg (by omega), if_neg (by omega), if_neg (by omega), if_pos (by omega)]
  simp only [List.cons_append, followsThree_continuation low high, brokenHalf,
    isContinuation_continuation, Bool.not_true, Bool.and_false, Bool.or_self, Bool.false_eq_true,
    if_false, if_true, payload_continuation, toNat_byte_of_lt lead, value, Code.ofNat_val]
  rfl

theorem followsFour_continuation {n : Nat} (low : 0x10000 ≤ n) (high : n < 0x110000) :
    followsFour (byte (0xF0 + n / 0x40000)) (continuation (n / 0x1000)) = true := by
  have large : (byte (0xF0 + n / 0x40000) == 0xF0 && continuation (n / 0x1000) < 0x90) = false := by
    rw [Bool.and_eq_false_iff]
    by_cases first : n < 0x40000
    · refine .inr (decide_eq_false ?_)
      rw [UInt8.lt_iff_toNat_lt, toNat_continuation]
      show ¬ _ < 0x90
      omega
    · refine .inl (beq_eq_false_iff_ne.2 fun same => ?_)
      have number : (byte (0xF0 + n / 0x40000)).toNat = 0xF0 := congrArg UInt8.toNat same
      rw [toNat_byte] at number
      omega
  have small : (byte (0xF0 + n / 0x40000) == 0xF4 && 0x90 ≤ continuation (n / 0x1000)) = false := by
    rw [Bool.and_eq_false_iff]
    by_cases last : 0x100000 ≤ n
    · refine .inr (decide_eq_false ?_)
      rw [UInt8.le_iff_toNat_le, toNat_continuation]
      show ¬ 0x90 ≤ _
      omega
    · refine .inl (beq_eq_false_iff_ne.2 fun same => ?_)
      have number : (byte (0xF0 + n / 0x40000)).toNat = 0xF4 := congrArg UInt8.toNat same
      rw [toNat_byte] at number
      omega
  rw [followsFour, isContinuation_continuation, large, small]
  rfl

theorem spells_four {c : Code} (low : 0x10000 ≤ c.val) :
    Spells (utf8Step true) c
      [byte (0xF0 + c.val / 0x40000), continuation (c.val / 0x1000), continuation (c.val / 0x40),
        continuation c.val] := by
  have high := c.isLt
  have lead : 0xF0 + c.val / 0x40000 < 0x100 := by omega
  have value : (((0xF0 + c.val / 0x40000) % 0x08 * 0x40 + c.val / 0x1000 % 0x40) * 0x40 +
      c.val / 0x40 % 0x40) * 0x40 + c.val % 0x40 = c.val := by omega
  refine ⟨_, _, rfl, fun rest => ?_⟩
  simp only [utf8Step, byte_lt_iff lead, UInt8.reduceToNat]
  rw [if_neg (by omega), if_neg (by omega), if_neg (by omega), if_neg (by omega), if_pos (by omega)]
  simp only [List.cons_append, followsFour_continuation low high, isContinuation_continuation,
    Bool.not_true, Bool.false_eq_true, if_false, if_true, payload_continuation,
    toNat_byte_of_lt lead, value, Code.ofNat_val]
  rfl

/-- Every code point is read off its bytes in UTF-8, surrogate halves included. -/
theorem spells_utf8Bytes (c : Code) : Spells (utf8Step true) c (utf8Bytes c) := by
  unfold utf8Bytes
  by_cases one : c.val < 0x80
  · rw [if_pos one]
    exact spells_one one
  by_cases two : c.val < 0x800
  · rw [if_neg one, if_pos two]
    exact spells_two (by omega) two
  by_cases three : c.val < 0x10000
  · rw [if_neg one, if_neg two, if_pos three]
    exact spells_three (by omega) three
  · rw [if_neg one, if_neg two, if_neg three]
    exact spells_four (by omega)

/-! ## UTF-16 and UTF-32 -/

/-- A unit is two bytes, from which the low half of the number comes back. -/
theorem exists_unitBytes (order : ByteOrder) (n : Nat) :
    ∃ a b, unitBytes order n = [a, b] ∧ unit16 order a b = n % 0x10000 := by
  cases order with
  | little =>
      refine ⟨_, _, rfl, ?_⟩
      rw [unit16, toNat_byte, toNat_byte]
      omega
  | big =>
      refine ⟨_, _, rfl, ?_⟩
      rw [unit16, toNat_byte, toNat_byte]
      omega

theorem spells_utf16Bytes (order : ByteOrder) {c : Code} (whole : c.isSurrogate = false) :
    Spells (utf16Step order) c (utf16Bytes order c) := by
  unfold utf16Bytes
  by_cases small : c.val < 0x10000
  · obtain ⟨a, b, bytes, unit⟩ := exists_unitBytes order c.val
    have single : c.isHighSurrogate = false := by
      simp only [Code.isSurrogate, Code.isHighSurrogate, Bool.and_eq_false_iff,
        decide_eq_false_iff_not] at whole ⊢
      omega
    rw [if_pos small, bytes]
    refine ⟨a, [b], rfl, fun rest => ?_⟩
    simp only [utf16Step, List.singleton_append, unit, Nat.mod_eq_of_lt small, Code.ofNat_val,
      single, Bool.false_and, Bool.false_eq_true, if_false]
    split <;> rfl
  · have large : 0x10000 ≤ c.val := by omega
    have high := Json.highHalf_bounds large
    have low := Json.lowHalf_bounds c
    obtain ⟨a, b, first, unit⟩ := exists_unitBytes order (Json.highHalf c)
    obtain ⟨d, e, second, next⟩ := exists_unitBytes order (Json.lowHalf c)
    rw [Nat.mod_eq_of_lt (by omega)] at unit next
    have bytes : unitBytes order (0xD800 + (c.val - 0x10000) / 0x400) ++
        unitBytes order (0xDC00 + (c.val - 0x10000) % 0x400) = [a, b, d, e] := by
      show unitBytes order (Json.highHalf c) ++ unitBytes order (Json.lowHalf c) = _
      rw [first, second]
      rfl
    rw [if_neg small, bytes]
    refine ⟨a, [b, d, e], rfl, fun rest => ?_⟩
    simp only [utf16Step, List.cons_append, unit, next, Json.isHighSurrogate_highHalf large,
      Json.isLowSurrogate_lowHalf, Bool.and_self, if_true, Json.ofSurrogates_halves large]
    rfl

/-- What four bytes are read as, by their number. -/
def stepOfNumber (n : Nat) : Step :=
  match Code.ofNat? n with
  | some c => .code c 3
  | none => .refuse 4 .outOfRange

theorem stepOfNumber_val (c : Code) : stepOfNumber c.val = .code c 3 := by
  have known : Code.ofNat? c.val = some c := dif_pos c.isLt
  rw [stepOfNumber, known]

/-- Four bytes whose number in their order is a code point are read as that code point. -/
theorem utf32Step_of_number {order : ByteOrder} {first second third fourth : UInt8} {c : Code}
    (number : (match order with
      | .little => unit16 .little third fourth * 0x10000 + unit16 .little first second
      | .big => unit16 .big first second * 0x10000 + unit16 .big third fourth) = c.val)
    (rest : Bytes) :
    utf32Step order first (second :: third :: fourth :: rest) = .code c 3 := by
  have reads := congrArg stepOfNumber number
  rw [stepOfNumber_val] at reads
  exact reads

theorem spells_utf32Bytes (order : ByteOrder) (c : Code) :
    Spells (utf32Step order) c (utf32Bytes order c) := by
  have bound := c.isLt
  have number : c.val / 0x10000 % 0x10000 * 0x10000 + c.val % 0x10000 = c.val := by omega
  obtain ⟨a, b, low, lowUnit⟩ := exists_unitBytes order c.val
  obtain ⟨d, e, high, highUnit⟩ := exists_unitBytes order (c.val / 0x10000)
  rw [← lowUnit, ← highUnit] at number
  cases order with
  | little =>
      exact ⟨a, [b, d, e], by rw [utf32Bytes, low, high, List.cons_append, List.singleton_append],
        utf32Step_of_number number⟩
  | big =>
      exact ⟨d, [e, a, b], by rw [utf32Bytes, low, high, List.cons_append, List.singleton_append],
        utf32Step_of_number number⟩

/-! ## Texts -/

/-- A text in UTF-8 is decoded, surrogate halves included. -/
theorem decodeWith_utf8 (t : Text) (position : Nat) :
    decodeWith .utf8 (step .utf8) position (encode .utf8 t) = .ok t :=
  decodeFrom_flatMap .utf8 (fun c _ => spells_utf8Bytes c) position []

/-- **A text without surrogate halves is decoded from its bytes in every encoding.** -/
theorem decodeWith_encode (e : Encoding) {t : Text} (whole : ∀ c ∈ t, c.isSurrogate = false)
    (position : Nat) : decodeWith e e.step position (e.encode t) = .ok t := by
  cases e with
  | utf8 => exact decodeWith_utf8 t position
  | utf16 order =>
      exact decodeFrom_flatMap _ (fun c member => spells_utf16Bytes order (whole c member))
        position []
  | utf32 order => exact decodeFrom_flatMap _ (fun c _ => spells_utf32Bytes order c) position []

end Encoding

end AdmissionGate
