/-
# AdmissionGate.Proofs.Encoding.Ascii -- documents in printable ASCII

A document in printable ASCII has no byte order mark and no zero byte, so it is
taken for UTF-8, and its text comes back code point by code point.
-/
import AdmissionGate.Encoding.Detect
import AdmissionGate.Proofs.Text.Plain

namespace AdmissionGate

set_option autoImplicit false

namespace Encoding

theorem toNat_ofNat_of_plain {c : Code} (plain : 0x20 ≤ c.val ∧ c.val < 0x7F) :
    (UInt8.ofNat c.val).toNat = c.val := by
  rw [UInt8.toNat_ofNat']
  omega

/-- The bytes of printable ASCII are below 0x80. -/
theorem mem_asciiBytes {t : Text} (plain : t.Plain) {b : UInt8} (member : b ∈ asciiBytes t) :
    0x20 ≤ b.toNat ∧ b.toNat < 0x7F := by
  obtain ⟨c, inText, rfl⟩ := List.mem_map.1 member
  rw [toNat_ofNat_of_plain (plain c inText)]
  exact plain c inText

theorem marked?_of_ascii {b : UInt8} (low : 0 < b.toNat) (high : b.toNat < 0x80) (bytes : Bytes) :
    marked? (b :: bytes) = none := by
  unfold marked?
  split <;> rename_i shape
  case h_6 => rfl
  all_goals
    obtain ⟨rfl, -⟩ := List.cons.inj shape
    revert low high
    decide

theorem unmarked_of_nonzero {bytes : Bytes} (nonzero : ∀ b ∈ bytes.take 2, b ≠ 0) :
    unmarked bytes = .utf8 := by
  unfold unmarked
  split
  · simp only [List.take_succ_cons, List.forall_mem_cons] at nonzero
    rw [if_neg nonzero.1, if_neg nonzero.2.1]
  · simp only [List.take_succ_cons, List.forall_mem_cons] at nonzero
    rw [if_neg nonzero.1, if_neg nonzero.2.1]
  · rfl

theorem layout_asciiBytes {t : Text} (plain : t.Plain) :
    layout (asciiBytes t) = { encoding := .utf8 } := by
  have nonzero : ∀ b ∈ asciiBytes t, b ≠ 0 := by
    rintro b member rfl
    exact absurd (mem_asciiBytes plain member).1 (by decide)
  have unmarked : marked? (asciiBytes t) = none := by
    cases t with
    | nil => rfl
    | cons c t =>
        obtain ⟨low, high⟩ := mem_asciiBytes plain List.mem_cons_self
        exact marked?_of_ascii (by omega) (by omega) _
  have told := unmarked_of_nonzero fun b member => nonzero b (List.mem_of_mem_take member)
  rw [layout, unmarked, told]
  rfl

theorem utf8Step_of_plain {c : Code} (plain : 0x20 ≤ c.val ∧ c.val < 0x7F) (rest : Bytes) :
    utf8Step true (UInt8.ofNat c.val) rest = .code c 0 := by
  have small : UInt8.ofNat c.val < 0x80 := by
    rw [UInt8.lt_iff_toNat_lt, toNat_ofNat_of_plain plain]
    show c.val < 128
    omega
  unfold utf8Step
  rw [if_pos small, toNat_ofNat_of_plain plain]
  exact congrArg (Step.code · 0) (Fin.ext (Nat.mod_eq_of_lt c.isLt))

theorem decodeFrom_asciiBytes {t : Text} (plain : t.Plain) (position : Nat) (read : Text) :
    decodeFrom .utf8 (utf8Step true) 0 position read (asciiBytes t) = .ok (read.reverse ++ t) := by
  induction t generalizing position read with
  | nil => rw [List.append_nil]; rfl
  | cons c t ih =>
      obtain ⟨head, tail⟩ := Text.plain_cons.1 plain
      simp only [asciiBytes, List.map_cons, decodeFrom, utf8Step_of_plain head] at ih ⊢
      rw [ih tail, List.reverse_cons, List.append_assoc, List.singleton_append]

/-- **A text of printable ASCII is decoded from its bytes.** -/
theorem decodeDocument_asciiBytes {t : Text} (plain : t.Plain) :
    decodeDocument (asciiBytes t) = .ok t := by
  rw [decodeDocument, layout_asciiBytes plain]
  exact decodeFrom_asciiBytes plain 0 []

end Encoding

end AdmissionGate
