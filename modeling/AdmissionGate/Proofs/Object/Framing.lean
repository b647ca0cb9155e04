/-
# AdmissionGate.Proofs.Object.Framing -- no document is cut short, and none is extended

The metadata of a document are given for the whole document and nothing else.
Blanks behind it are let pass, anything else behind it is told as extra data with the
place where it starts, and what is cut off before its last brace gives a decoding
fault (`decode_framed`).
-/
import AdmissionGate.Proofs.Encoding.Detect
import AdmissionGate.Proofs.Json.Frame
import AdmissionGate.Proofs.Object.Decode
import Mathlib.Data.List.DropRight

namespace AdmissionGate

set_option autoImplicit false

open Encoding

namespace Metadata

/-- The message about extra data behind a document. -/
def extraDataMessage (line column position : Nat) : Text :=
  "error decoding object from json: Extra data: line " ++ Text.ofNat line ++ " column " ++
    Text.ofNat column ++ " (char " ++ Text.ofNat position ++ ")"

theorem message_extraData (line column position : Nat) :
    (DecodeFault.json (.syntaxAt .extraData line column position)).message =
      extraDataMessage line column position := by
  have words : ("error decoding object from json: " : Text) ++
      (("Extra data" : Text) ++ (": line " : Text)) =
        "error decoding object from json: Extra data: line " := by decide
  simp only [DecodeFault.message, Json.Fault.message, Json.Trouble.message, extraDataMessage,
    ← words, List.append_assoc]

/-- A text that UTF-8 is told from: no zero among its first two code points, and no mark. -/
def StartsPlain (t : Text) : Prop :=
  (∀ c ∈ t.take 2, c ≠ Code.ofNat 0) ∧ t.head? ≠ some Code.byteOrderMark

theorem decode_utf8 {t : Text} (plain : StartsPlain t) : decode (encode .utf8 t) = ofText t :=
  decode_of_text (decodeDocument_utf8 plain.1 plain.2)

/-- A text that gives metadata, with anything behind it, gives the same metadata if that is blank,
and else the fault of the extra data. -/
theorem ofText_append {t : Text} {m : Metadata} (accepted : ofText t = .ok m) (s : Text) :
    ((∀ c ∈ s, Json.isSpace c = true) ∧ ofText (t ++ s) = .ok m) ∨
      ∃ blanks c rest, s = blanks ++ c :: rest ∧ (∀ b ∈ blanks, Json.isSpace b = true) ∧
        Json.isSpace c = false ∧
        ofText (t ++ s) = .error (.decode (.json (Json.Refusal.locate (t ++ s)
          (.unexpected .extraData (t ++ blanks).length)))) := by
  obtain ⟨entries, reads, given⟩ := exists_read_of_ofText accepted
  rcases Json.blank_or_visible s with blank | ⟨blanks, c, rest, rfl, blank, visible⟩
  · refine .inl ⟨blank, ?_⟩
    rw [ofText, Json.read_blanks reads blank]
    exact given
  · refine .inr ⟨blanks, c, rest, rfl, blank, visible, ?_⟩
    rw [ofText, Json.read_extra reads blank visible]

/-- What gives metadata takes two code points, so UTF-8 is told from it with anything behind it. -/
theorem startsPlain_append {t : Text} {m : Metadata} (plain : StartsPlain t)
    (accepted : ofText t = .ok m) (s : Text) : StartsPlain (t ++ s) := by
  obtain ⟨entries, reads, -⟩ := exists_read_of_ofText accepted
  have long := Json.two_le_length_of_run (Json.read_eq_ok.1 reads)
  match t with
  | c :: d :: t => exact plain

theorem startsPlain_of_prefix {t u : Text} (plain : StartsPlain (t ++ u)) : StartsPlain t := by
  obtain ⟨nonzero, unmarked⟩ := plain
  refine ⟨fun c member => nonzero c ?_, fun marked => unmarked ?_⟩
  · rw [List.take_append]
    exact List.mem_append_left _ member
  · rw [List.head?_append, marked]
    rfl

/-- **A document ends where it ends.**  Let a text without zeros and without a mark in front give
metadata in UTF-8.  With blanks behind it, it gives the same metadata; with anything else, it gives
the fault of extra data at the first code point that is no blank, told with its line, its column and
its position.  And whatever is cut off before its last code point that is no blank gives a decoding
fault. -/
theorem decode_framed {t : Text} {m : Metadata} (nonzero : (0 : Code) ∉ t)
    (unmarked : t.head? ≠ some Code.byteOrderMark) (accepted : decode (encode .utf8 t) = .ok m) :
    (∀ s : Text,
      ((∀ c ∈ s, Json.isSpace c = true) ∧ decode (encode .utf8 (t ++ s)) = .ok m) ∨
        ∃ blanks c rest, s = blanks ++ c :: rest ∧ (∀ b ∈ blanks, Json.isSpace b = true) ∧
          Json.isSpace c = false ∧
          ∃ cause column, decode (encode .utf8 (t ++ s)) = .error (.decode cause) ∧
            Json.IsColumn (t ++ blanks) column ∧
            cause.message = extraDataMessage ((t ++ blanks).count ('\n' : Code) + 1) column
              (t.length + blanks.length)) ∧
      ∀ p : Text, p <+: t.rdropWhile Json.isSpace → p ≠ t.rdropWhile Json.isSpace →
        ∃ cause, decode (encode .utf8 p) = .error (.decode cause) := by
  have plain : StartsPlain t := by
    refine ⟨?_, unmarked⟩
    rintro c member rfl
    exact nonzero (List.mem_of_mem_take member)
  constructor
  · intro s
    rw [decode_utf8 plain] at accepted
    rw [decode_utf8 (startsPlain_append plain accepted s)]
    rcases ofText_append accepted s with blank | ⟨blanks, c, rest, rfl, blank, visible, refused⟩
    · exact .inl blank
    · rw [← List.append_assoc] at refused ⊢
      refine .inr ⟨blanks, c, rest, rfl, blank, visible, _, _, refused,
        Json.isColumn_columnAt (t ++ blanks) (c :: rest), ?_⟩
      rw [Json.Refusal.locate, message_extraData, Json.lineAt_append, List.length_append]
  · rintro p ⟨cut, whole⟩ proper
    obtain ⟨tail, parts⟩ := List.rdropWhile_prefix (p := Json.isSpace) (l := t)
    have text : p ++ (cut ++ tail) = t := by rw [← List.append_assoc, whole, parts]
    have short : StartsPlain p := startsPlain_of_prefix (text ▸ plain)
    rcases decode_cases (encode .utf8 p) with ⟨m', early, -⟩ | refused
    · exfalso
      rw [decode_utf8 short] at early
      rw [decode_utf8 plain, ← text] at accepted
      rcases ofText_append early (cut ++ tail) with ⟨blank, -⟩ | ⟨_, _, _, -, -, -, extra⟩
      · have last : ∀ h, ¬ Json.isSpace ((t.rdropWhile Json.isSpace).getLast h) = true :=
          List.rdropWhile_last_not Json.isSpace t
        have some_cut : cut ≠ [] := by
          rintro rfl
          exact proper (by rw [← whole, List.append_nil])
        rw [← whole] at last
        refine last (List.append_ne_nil_of_right_ne_nil p some_cut)
          (blank _ (List.mem_append_left _ ?_))
        rw [List.getLast_append_of_right_ne_nil _ _ some_cut]
        exact List.getLast_mem some_cut
      · simp [extra] at accepted
    · exact refused

/-- A document over two lines, with blanks behind it. -/
def spacedText : Text := "\x7b\"metadata\":\n\x7b\"labels\":\x7b\"é\":\"\\u00e9\"\x7d\x7d\x7d\n "

theorem decode_framed_spacedText :
    ((0 : Code) ∉ spacedText ∧ spacedText.head? ≠ some Code.byteOrderMark ∧
        decode (encode .utf8 spacedText) = .ok { labels := .map [("é", "é")] }) ∧
      (∃ cause column, decode (encode .utf8 (spacedText ++ "x")) = .error (.decode cause) ∧
        cause.message = extraDataMessage 3 column 41) ∧
      ∃ cause, decode (encode .utf8 (spacedText.take 30)) = .error (.decode cause) := by
  have nonzero : spacedText.contains (0 : Code) = false := by cbv
  have unmarked : (spacedText.head? == some Code.byteOrderMark) = false := by cbv
  have accepted : decode (encode .utf8 spacedText) = .ok { labels := .map [("é", "é")] } := by cbv
  simp only [List.contains_eq_mem, decide_eq_false_iff_not, beq_eq_false_iff_ne] at nonzero unmarked
  obtain ⟨extended, cut⟩ := decode_framed nonzero unmarked accepted
  refine ⟨⟨nonzero, unmarked, accepted⟩, ?_, ?_⟩
  · rcases extended "x" with ⟨blank, -⟩ | ⟨blanks, c, rest, parts, -, -, cause, column, given⟩
    · exact absurd (blank 'x' List.mem_cons_self) (by decide)
    · have lines : spacedText.count ('\n' : Code) = 2 := by cbv
      have width : spacedText.length = 41 := by cbv
      cases blanks with
      | nil =>
          rw [List.append_nil, lines, width] at given
          exact ⟨cause, column, given.1, given.2.2⟩
      | cons b blanks => cases blanks <;> cases parts
  · have front : (spacedText.take 30).isPrefixOf (spacedText.rdropWhile Json.isSpace) = true := by
      cbv
    have proper : (spacedText.take 30 == spacedText.rdropWhile Json.isSpace) = false := by cbv
    exact cut _ (List.isPrefixOf_iff_prefix.1 front) (beq_eq_false_iff_ne.1 proper)

end Metadata

end AdmissionGate
