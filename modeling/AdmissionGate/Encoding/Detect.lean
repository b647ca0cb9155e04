/-
# AdmissionGate.Encoding.Detect -- telling the encoding of a JSON document

A document may start with a byte order mark, which names its encoding and is no
part of its text; the mark of little-endian UTF-32 starts with that of UTF-16,
so the longer marks are looked for first.  Without a mark the zero bytes among
the first four tell the width of a unit and its byte order, because a document
starts with two ASCII characters; of a document of two bytes they tell UTF-16,
and any other document is UTF-8.

Positions of refused bytes count the mark of UTF-16 and UTF-32 but not that of
UTF-8.
-/
import AdmissionGate.Encoding.Basic

namespace AdmissionGate

namespace Encoding

/-- How the text of a document is encoded: which encoding, after how many bytes of mark, and the
position at which the first byte after them is counted. -/
structure Layout where
  encoding : Encoding
  mark : Nat := 0
  position : Nat := 0
  deriving DecidableEq, Repr

/-- The layout that a byte order mark announces. -/
def marked? : Bytes → Option Layout
  | 0x00 :: 0x00 :: 0xFE :: 0xFF :: _ => some ⟨.utf32 .big, 4, 4⟩
  | 0xFF :: 0xFE :: 0x00 :: 0x00 :: _ => some ⟨.utf32 .little, 4, 4⟩
  | 0xFE :: 0xFF :: _ => some ⟨.utf16 .big, 2, 2⟩
  | 0xFF :: 0xFE :: _ => some ⟨.utf16 .little, 2, 2⟩
  | 0xEF :: 0xBB :: 0xBF :: _ => some ⟨.utf8, 3, 0⟩
  | _ => none

/-- The encoding that the zero bytes of a document without a mark tell. -/
def unmarked : Bytes → Encoding
  | a :: b :: c :: d :: _ =>
    if a = 0 then (if b = 0 then .utf32 .big else .utf16 .big)
    else if b = 0 then (if c = 0 ∧ d = 0 then .utf32 .little else .utf16 .little)
    else .utf8
  | [a, b] => if a = 0 then .utf16 .big else if b = 0 then .utf16 .little else .utf8
  | _ => .utf8

def layout (bytes : Bytes) : Layout := (marked? bytes).getD { encoding := unmarked bytes }

def decodeDocument (bytes : Bytes) : Except Fault Text :=
  let l := layout bytes
  decodeWith l.encoding l.encoding.step l.position (bytes.drop l.mark)

end Encoding

end AdmissionGate
