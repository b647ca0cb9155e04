/-
# AdmissionGate.Proofs.Encoding.Detect -- telling the encoding of what was encoded

A document comes in ten forms: in five encodings, each with a byte order mark or
without (`form`).  If it starts with two ASCII characters, none of them zero, then
its form is told from its first bytes (`layout_form`), and so it comes back as what
it was from each of the ten (`decodeDocument_form`).

In UTF-8 less is enough: no zero among the first two characters and no mark in
front (`layout_utf8`).
-/
import AdmissionGate.Proofs.Encoding.Ascii
import AdmissionGate.Proofs.Encoding.Codec

namespace AdmissionGate

set_option autoImplicit false

namespace Encoding

/-- The bytes of a text, behind the byte order mark of its encoding if it is to be marked. -/
def form (e : Encoding) (isMarked : Bool) (t : Text) : Bytes :=
  (if isMarked then e.markOf else []) ++ e.encode t

/-! ## UTF-8 -/

theorem byte_ne_zero {n : Nat} (positive : 0 < n) (small : n < 0x100) : byte n ≠ 0 := by
  intro zero
  have number : (byte n).toNat = 0 := congrArg UInt8.toNat zero
  rw [toNat_byte_of_lt small] at number
  omega

theorem continuation_ne_zero (n : Nat) : continuation n ≠ 0 :=
  byte_ne_zero (by omega) (by omega)

theorem nonzero_of_mem_utf8Bytes {c : Code} (nonzero : c ≠ 0) {b : UInt8}
    (member : b ∈ utf8Bytes c) : b ≠ 0 := by
  have bound := c.isLt
  have positive : 0 < c.val := Nat.pos_of_ne_zero fun same => nonzero (Fin.ext same)
  unfold utf8Bytes at member
  by_cases one : c.val < 0x80
  · rw [if_pos one, List.mem_singleton] at member
    exact member ▸ byte_ne_zero positive (by omega)
  by_cases two : c.val < 0x800
  · simp only [if_neg one, if_pos two, List.mem_cons, List.not_mem_nil, or_false] at member
    rcases member with rfl | rfl
    · exact byte_ne_zero (by omega) (by omega)
    · exact continuation_ne_zero _
  by_cases three : c.val < 0x10000
  · simp only [if_neg one, if_neg two, if_pos three, List.mem_cons, List.not_mem_nil,
      or_false] at member
    rcases member with rfl | rfl | rfl
    · exact byte_ne_zero (by omega) (by omega)
    · exact continuation_ne_zero _
    · exact continuation_ne_zero _
  · simp only [if_neg one, if_neg two, if_neg three, List.mem_cons, List.not_mem_nil,
      or_false] at member
    rcases member with rfl | rfl | rfl | rfl
    · exact byte_ne_zero (by omega) (by omega)
    · exact continuation_ne_zero _
    · exact continuation_ne_zero _
    · exact continuation_ne_zero _

/-- A code point takes a byte at least, so the first two bytes belong to the first two of them. -/
theorem mem_take_encode_utf8 {t : Text} {b : UInt8} (member : b ∈ (encode .utf8 t).take 2) :
    ∃ c ∈ t.take 2, b ∈ utf8Bytes c := by
  have front : ∀ c : Code, ∃ first more, utf8Bytes c = first :: more := by
    intro c
    obtain ⟨first, more, bytes, -⟩ := spells_utf8Bytes c
    exact ⟨first, more, bytes⟩
  cases t with
  | nil => cases member
  | cons c t =>
      obtain ⟨first, more, bytes⟩ := front c
      cases t with
      | nil =>
          refine ⟨c, List.mem_cons_self, ?_⟩
          have inside := List.mem_of_mem_take member
          rwa [encode, List.flatMap_cons, List.flatMap_nil, List.append_nil] at inside
      | cons d t =>
          obtain ⟨second, further, others⟩ := front d
          simp only [encode, List.flatMap_cons, bytes, others, List.cons_append,
            List.take_succ_cons, List.mem_cons] at member
          rcases member with rfl | member
          · exact ⟨c, List.mem_cons_self, by rw [bytes]; exact List.mem_cons_self⟩
          cases more with
          | nil =>
              simp only [List.nil_append, List.take_succ_cons, List.take_zero,
                List.mem_singleton] at member
              subst member
              exact ⟨d, by simp, by rw [others]; exact List.mem_cons_self⟩
          | cons next more =>
              simp only [List.cons_append, List.take_succ_cons, List.take_zero,
                List.mem_singleton] at member
              subst member
              exact ⟨c, List.mem_cons_self, by rw [bytes]; simp⟩

/-- What starts with no mark is not taken for marked: the bytes of a mark in front would be read as
a zero, as the mark or not at all. -/
theorem marked?_utf8Bytes {c : Code} (nonzero : c ≠ 0) (unmarked : c ≠ Code.byteOrderMark)
    (rest : Bytes) : marked? (utf8Bytes c ++ rest) = none := by
  obtain ⟨first, more, bytes, reads⟩ := spells_utf8Bytes c
  have reads := reads rest
  rw [bytes, List.cons_append]
  unfold marked?
  split <;> rename_i shape
  case h_6 => rfl
  all_goals
    obtain ⟨rfl, tail⟩ := List.cons.inj shape
    rw [tail] at reads
  case h_1 =>
      injection reads with zero
      exact absurd zero.symm nonzero
  case h_5 =>
      injection reads with mark
      exact absurd mark.symm unmarked
  all_goals cases reads

/-- **A text in UTF-8 is told for UTF-8 if it has no zero among its first two code points and no
mark in front.** -/
theorem layout_utf8 {t : Text} (nonzero : ∀ c ∈ t.take 2, c ≠ 0)
    (unmarked : t.head? ≠ some Code.byteOrderMark) :
    layout (encode .utf8 t) = { encoding := .utf8 } := by
  have told : marked? (encode .utf8 t) = none := by
    cases t with
    | nil => rfl
    | cons c t =>
        rw [encode, List.flatMap_cons]
        exact marked?_utf8Bytes (nonzero c List.mem_cons_self)
          (fun same => unmarked (congrArg some same)) _
  have plain : ∀ b ∈ (encode .utf8 t).take 2, b ≠ 0 := by
    intro b member
    obtain ⟨c, inText, inBytes⟩ := mem_take_encode_utf8 member
    exact nonzero_of_mem_utf8Bytes (nonzero c inText) inBytes
  rw [layout, told, unmarked_of_nonzero plain]
  rfl

/-- Such a text is decoded from its bytes, surrogate halves included. -/
theorem decodeDocument_utf8 {t : Text} (nonzero : ∀ c ∈ t.take 2, c ≠ 0)
    (unmarked : t.head? ≠ some Code.byteOrderMark) : decodeDocument (encode .utf8 t) = .ok t := by
  rw [decodeDocument, layout_utf8 nonzero unmarked]
  exact decodeWith_utf8 t 0

/-! ## The ten forms -/

def formLayout (e : Encoding) (isMarked : Bool) : Layout :=
  if isMarked then
    { encoding := e
      mark := e.markOf.length
      position := match e with | .utf8 => 0 | _ => e.markOf.length }
  else { encoding := e }

theorem unitBytes_ascii (order : ByteOrder) {n : Nat} (ascii : n < 0x80) :
    unitBytes order n = match order with | .little => [byte n, 0] | .big => [0, byte n] := by
  have high : n / 0x100 = 0 := by omega
  cases order with
  | little => rw [unitBytes, high]; rfl
  | big => rw [unitBytes, high]; rfl

def asciiSpelling (b : UInt8) : Encoding → Bytes
  | .utf8 => [b]
  | .utf16 .little => [b, 0]
  | .utf16 .big => [0, b]
  | .utf32 .little => [b, 0, 0, 0]
  | .utf32 .big => [0, 0, 0, b]

theorem encode_cons_ascii (e : Encoding) {c : Code} (ascii : c.val < 0x80) (t : Text) :
    e.encode (c :: t) = asciiSpelling (byte c.val) e ++ e.encode t := by
  have upper : c.val / 0x10000 = 0 := by omega
  cases e with
  | utf8 => rw [encode, List.flatMap_cons, utf8Bytes, if_pos ascii]; rfl
  | utf16 order =>
      rw [encode, List.flatMap_cons, utf16Bytes, if_pos (by omega), unitBytes_ascii order ascii]
      cases order with
      | little => rfl
      | big => rfl
  | utf32 order =>
      rw [encode, List.flatMap_cons]
      cases order with
      | little => rw [utf32Bytes, upper, unitBytes_ascii _ ascii]; rfl
      | big => rw [utf32Bytes, upper, unitBytes_ascii _ ascii]; rfl

/-- The first two code points are ASCII, and not zero. -/
def StartsAscii (t : Text) : Prop := ∀ c ∈ t.take 2, 0 < c.val ∧ c.val < 0x80

theorem marked?_utf16Little {b : UInt8} (nonzero : b ≠ 0) (rest : Bytes) :
    marked? (0xFF :: 0xFE :: b :: rest) = some ⟨.utf16 .little, 2, 2⟩ := by
  refine marked?.eq_4 _ fun tail same => ?_
  exact nonzero (List.cons.inj same).1

theorem marked?_zero {b : UInt8} (nonzero : b ≠ 0) (rest : Bytes) :
    marked? (0 :: b :: rest) = none := by
  unfold marked?
  split <;> rename_i shape
  case h_1 =>
      simp only [List.cons.injEq] at shape
      exact absurd shape.2.1 nonzero
  case h_6 => rfl
  all_goals cases shape

theorem layout_marked (e : Encoding) {c : Code} (low : 0 < c.val) (high : c.val < 0x80) (t : Text) :
    layout (e.markOf ++ e.encode (c :: t)) = formLayout e true := by
  have nonzero : byte c.val ≠ 0 := byte_ne_zero low (by omega)
  rw [encode_cons_ascii e high]
  match e with
  | .utf8 => rfl
  | .utf16 .little =>
      exact congrArg (fun l : Option Layout => l.getD _) (marked?_utf16Little nonzero _)
  | .utf16 .big => rfl
  | .utf32 .little => rfl
  | .utf32 .big => rfl

/-- Without a mark the zero bytes tell the encoding. -/
theorem unmarked_ascii (e : Encoding) {c : Code} {t : Text} (starts : StartsAscii (c :: t)) :
    unmarked (e.encode (c :: t)) = e := by
  have nonzero : ∀ d ∈ (c :: t).take 2, byte d.val ≠ 0 := fun d member =>
    byte_ne_zero (starts d member).1 (by have := (starts d member).2; omega)
  have first := nonzero c List.mem_cons_self
  rw [encode_cons_ascii e (starts c List.mem_cons_self).2]
  cases t with
  | nil =>
      match e with
      | .utf8 => rfl
      | .utf16 .little => exact (if_neg first).trans rfl
      | .utf16 .big => rfl
      | .utf32 .little => exact (if_neg first).trans rfl
      | .utf32 .big => rfl
  | cons d t =>
      have second := nonzero d (by simp)
      rw [encode_cons_ascii e (starts d (by simp)).2]
      match e with
      | .utf8 => exact unmarked_of_nonzero (by simp [asciiSpelling, first, second])
      | .utf16 .little => simp [asciiSpelling, unmarked, first, second]
      | .utf16 .big => simp [asciiSpelling, unmarked, first]
      | .utf32 .little => simp [asciiSpelling, unmarked, first]
      | .utf32 .big => rfl

theorem marked?_ascii (e : Encoding) {c : Code} (low : 0 < c.val) (high : c.val < 0x80) (t : Text) :
    marked? (e.encode (c :: t)) = none := by
  have nonzero : byte c.val ≠ 0 := byte_ne_zero low (by omega)
  have number : (byte c.val).toNat = c.val := toNat_byte_of_lt (by omega)
  have front := marked?_of_ascii (by rwa [number]) (by rwa [number])
  rw [encode_cons_ascii e high]
  match e with
  | .utf8 => exact front _
  | .utf16 .little => exact front _
  | .utf16 .big => exact marked?_zero nonzero _
  | .utf32 .little => exact front _
  | .utf32 .big => rfl

/-- **The layout of a form is told from its first bytes.** -/
theorem layout_form {c : Code} {t : Text} (starts : StartsAscii (c :: t)) (e : Encoding)
    (isMarked : Bool) : layout (form e isMarked (c :: t)) = formLayout e isMarked := by
  obtain ⟨low, high⟩ := starts c List.mem_cons_self
  cases isMarked with
  | true => exact layout_marked e low high t
  | false =>
      rw [form, if_neg Bool.false_ne_true, List.nil_append, layout, marked?_ascii e low high,
        unmarked_ascii e starts]
      rfl

/-- **A document that starts with two ASCII characters is decoded from each of its forms.** -/
theorem decodeDocument_form {t : Text} (whole : ∀ c ∈ t, c.isSurrogate = false)
    (starts : StartsAscii t) (e : Encoding) (isMarked : Bool) :
    decodeDocument (form e isMarked t) = .ok t := by
  cases t with
  | nil =>
      match e, isMarked with
      | .utf8, true | .utf8, false => rfl
      | .utf16 .little, true | .utf16 .little, false => rfl
      | .utf16 .big, true | .utf16 .big, false => rfl
      | .utf32 .little, true | .utf32 .little, false => rfl
      | .utf32 .big, true | .utf32 .big, false => rfl
  | cons c t =>
      rw [decodeDocument, layout_form starts]
      cases isMarked with
      | true =>
          show decodeWith e e.step _ ((e.markOf ++ e.encode (c :: t)).drop e.markOf.length) = _
          rw [List.drop_left]
          exact decodeWith_encode e whole _
      | false => exact decodeWith_encode e whole 0

theorem encode_ne_nil (e : Encoding) {t : Text} (whole : ∀ c ∈ t, c.isSurrogate = false)
    (given : t ≠ []) : e.encode t ≠ [] := by
  intro none
  have decodes := decodeWith_encode e whole 0
  rw [none] at decodes
  cases decodes
  exact given rfl

theorem form_ne_nil (e : Encoding) (isMarked : Bool) {t : Text}
    (whole : ∀ c ∈ t, c.isSurrogate = false) (given : t ≠ []) : form e isMarked t ≠ [] :=
  fun none => encode_ne_nil e whole given (List.append_eq_nil_iff.1 none).2

end Encoding

end AdmissionGate
