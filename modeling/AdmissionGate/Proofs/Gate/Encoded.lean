/-
# AdmissionGate.Proofs.Gate.Encoded -- one document, encoded in several ways

A document that starts with two ASCII characters can be sent in ten forms.  Each is
decoded to the same text, so each gives the same metadata or the same fault, at the
same position, and the gate gives the same answer (`encodings_agree`): a marked
object does not pass by being sent in another encoding.
-/
import AdmissionGate.Proofs.Encoding.Detect
import AdmissionGate.Proofs.Gate.Presented

namespace AdmissionGate

set_option autoImplicit false

open Encoding

/-- The labels and annotations of raw bytes are a matter of the text that they spell. -/
theorem ObjectState.extract_of_text {bytes : Bytes} {t : Text} (given : bytes ≠ [])
    (decodes : decodeDocument bytes = .ok t) :
    (ofRaw bytes).extract = (Metadata.ofText t).map fun m => (m.labels, m.annotations) := by
  rw [extract_ofRaw given, Metadata.decode_of_text decodes]

/-- **The gate cannot tell how a document is encoded.**  A document of at least one character that
starts with two ASCII characters, none of them zero, has the same metadata or the same decoding
fault in each of its ten forms, and the gate answers a request alike, whichever of them are the
bytes of its new and of its old state. -/
theorem encodings_agree {t : Text} (whole : ∀ c ∈ t, c.isSurrogate = false) (given : t ≠ [])
    (starts : StartsAscii t) :
    (∀ e isMarked, decodeDocument (form e isMarked t) = .ok t) ∧
      ((∃ m, ∀ e isMarked, Metadata.decode (form e isMarked t) = .ok m) ∨
        ∃ cause, ∀ e isMarked, Metadata.decode (form e isMarked t) = .error (.decode cause)) ∧
      ∀ (v : Validator) (verbosity : Nat) (r : Request) (e e' : Encoding)
        (isMarked isMarked' : Bool),
        v.handle verbosity { r with new := .ofRaw (form e isMarked t) } =
            v.handle verbosity { r with new := .ofRaw (form e' isMarked' t) } ∧
          v.handle verbosity { r with old := .ofRaw (form e isMarked t) } =
            v.handle verbosity { r with old := .ofRaw (form e' isMarked' t) } := by
  have decodes := decodeDocument_form whole starts
  have outcome : ∀ e isMarked, Metadata.decode (form e isMarked t) = Metadata.ofText t :=
    fun e isMarked => Metadata.decode_of_text (decodes e isMarked)
  refine ⟨decodes, ?_, ?_⟩
  · rcases Metadata.decode_cases (form .utf8 false t) with ⟨m, accepted, -⟩ | ⟨cause, refused⟩
    · refine .inl ⟨m, fun e isMarked => ?_⟩
      rw [outcome, ← outcome .utf8 false, accepted]
    · refine .inr ⟨cause, fun e isMarked => ?_⟩
      rw [outcome, ← outcome .utf8 false, refused]
  · intro v verbosity r e e' isMarked isMarked'
    have extracted : ∀ e isMarked, (ObjectState.ofRaw (form e isMarked t)).extract =
        (Metadata.ofText t).map fun m => (m.labels, m.annotations) := fun e isMarked =>
      ObjectState.extract_of_text (form_ne_nil e isMarked whole given) (decodes e isMarked)
    have same := (extracted e isMarked).trans (extracted e' isMarked').symm
    exact ⟨v.handle_congr verbosity r same rfl, v.handle_congr verbosity r rfl same⟩

/-- A marked object with a character that takes two units in UTF-16. -/
def markedText : Text :=
  "\x7b\"metadata\":\x7b\"labels\":\x7b\"managed-by\":\"arm\",\"𝒳\":\"é\"\x7d\x7d\x7d"

theorem encodings_agree_markedText :
    ((∀ c ∈ markedText, c.isSurrogate = false) ∧ markedText ≠ [] ∧ StartsAscii markedText) ∧
      ∀ e isMarked, Metadata.decode (form e isMarked markedText) =
        .ok { labels := .map [("managed-by", "arm"), ("𝒳", "é")] } := by
  have whole : markedText.all (fun c => !c.isSurrogate) = true := by cbv
  have starts : (markedText.take 2).all (fun c => 0 < c.val && c.val < 0x80) = true := by cbv
  have given : markedText.isEmpty = false := by cbv
  simp only [List.all_eq_true, Bool.not_eq_true', Bool.and_eq_true,
    decide_eq_true_eq] at whole starts
  rw [List.isEmpty_eq_false_iff] at given
  refine ⟨⟨whole, given, starts⟩, fun e isMarked => ?_⟩
  obtain ⟨decodes, -⟩ := encodings_agree whole given starts
  rw [Metadata.decode_of_text (decodes e isMarked)]
  cbv

end AdmissionGate
