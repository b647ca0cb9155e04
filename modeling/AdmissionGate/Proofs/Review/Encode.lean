/-
# AdmissionGate.Proofs.Review.Encode -- captured objects as bytes

A captured object is encoded again before the gate sees it.  What the gate then
decodes is the captured object brought to its normal form once, and nothing else:
no label, annotation or name is altered on the way but by `Json.normal`.
-/
import AdmissionGate.Proofs.Json.Exact
import AdmissionGate.Proofs.Json.RoundTrip
import AdmissionGate.Review

namespace AdmissionGate

set_option autoImplicit false

namespace Review

theorem encodeState_of_spelled {v : Value} {t : Text} (spelled : Json.Spelled v t)
    (given : v ≠ .null) : encodeState v = .ok (.ofRaw (Encoding.asciiBytes t)) := by
  unfold encodeState
  split
  · exact absurd rfl given
  · rw [spelled.written]

/-- The bytes of a captured tree are some ASCII, and the document in them is its normal form. -/
theorem exists_encoded {v : Value} (tree : Json.isTree v = true) (given : v ≠ .null)
    (shallow : Json.depth v ≤ 600) :
    ∃ raw, encodeState v = .ok (.ofRaw raw) ∧ raw ≠ [] ∧ (∀ b ∈ raw, b < 0x80) ∧
      Json.readBytes .standard raw = .ok (Json.normal v) := by
  obtain ⟨t, spelled⟩ := Json.exists_spelled v tree
  refine ⟨_, encodeState_of_spelled spelled given, ?_, ?_,
    Json.readBytes_spelled spelled (Nat.le_refl _) (Nat.le_trans shallow (by decide))⟩
  · intro empty
    exact spelled.ne_nil (List.map_eq_nil_iff.1 empty)
  · intro b member
    have bounds := Encoding.mem_asciiBytes spelled.plain member
    rw [UInt8.lt_iff_toNat_lt]
    exact Nat.lt_of_lt_of_le bounds.2 (by decide)

/-- The bytes of a captured tree that is its own normal form hold the tree. -/
theorem exists_encoded_of_isExact {v : Value} (exact : Json.isExact v = true) (given : v ≠ .null)
    (shallow : Json.depth v ≤ 600) :
    ∃ raw, encodeState v = .ok (.ofRaw raw) ∧ raw ≠ [] ∧
      Json.readBytes .standard raw = .ok v := by
  obtain ⟨raw, encoded, some_bytes, -, reads⟩ :=
    exists_encoded (Json.isTree_of_isExact v exact) given shallow
  rw [Json.normal_of_isExact v exact] at reads
  exact ⟨raw, encoded, some_bytes, reads⟩

/-- **Encoding a captured object and decoding it again is one normalisation.**  The object is a
tree that is nested at most 600 deep; its bytes are some ASCII, the document in them is its normal
form, and so the metadata in them are those of the normal form, or the fault is. -/
theorem decode_encodeState {v : Value} (tree : Json.isTree v = true) (given : v ≠ .null)
    (shallow : Json.depth v ≤ 600) :
    ∃ raw, encodeState v = .ok (.ofRaw raw) ∧
      raw ≠ [] ∧ (∀ b ∈ raw, b < 0x80) ∧
      Json.readBytes .standard raw = .ok (Json.normal v) ∧
      Metadata.decode raw = Metadata.ofDocument (Json.normal v) := by
  obtain ⟨raw, encoded, some_bytes, ascii, reads⟩ := exists_encoded tree given shallow
  exact ⟨raw, encoded, some_bytes, ascii, reads, by rw [Metadata.decode, reads]⟩

/-- An object with two keys of one name, one of them no text, and with the halves of a surrogate
pair in a row. -/
def twiceNamed : Value := .map [
  ("metadata", .map [
    ("labels", .map [
      (.int 1, "a"),
      (.null, "b"),
      ("1", .text [Code.ofNat 0xD83D, Code.ofNat 0xDE00, Code.ofNat 0xDC00])]),
    ("name", .date ⟨2024, 1, 2⟩)]),
  (.bool true, .tuple [.int (-7), .null])]

theorem decode_encodeState_twiceNamed :
    (Json.isTree twiceNamed = true ∧ twiceNamed ≠ .null ∧ Json.depth twiceNamed ≤ 600) ∧
      ∃ raw, encodeState twiceNamed = .ok (.ofRaw raw) ∧ raw ≠ [] ∧ (∀ b ∈ raw, b < 0x80) ∧
        Json.readBytes .standard raw = .ok (.map [
          ("metadata", .map [
            ("labels", .map [("1", .text [0x1F600, 0xDC00]), ("null", "b")]),
            ("name", "2024-01-02")]),
          ("true", .list [.int (-7), .null])]) ∧
        Metadata.decode raw = .ok {
          name := "2024-01-02"
          labels := .map [("1", .text [0x1F600, 0xDC00]), ("null", "b")] } := by
  have tree : Json.isTree twiceNamed = true := by decide
  have given : twiceNamed ≠ .null := by simp [twiceNamed]
  have shallow : Json.depth twiceNamed ≤ 600 := by decide
  exact ⟨⟨tree, given, shallow⟩, decode_encodeState tree given shallow⟩

end Review

end AdmissionGate
