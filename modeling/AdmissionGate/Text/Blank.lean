/-
# AdmissionGate.Text.Blank -- blank code points and trimming

Settings and log lines are trimmed of every blank that the character database
knows: the control characters that separate lines, columns, pages or records,
the next-line control, and the space and line or paragraph separators.

`Text.trim` keeps the inner blanks: it drops a run of blanks at either end and
nothing else.
-/
import AdmissionGate.Text.Basic

namespace AdmissionGate

def Code.isBlank (c : Code) : Bool :=
  (9 ≤ c.val && c.val ≤ 13) || (28 ≤ c.val && c.val ≤ 32) || c.val == 0x85 || c.val == 0xA0 ||
  c.val == 0x1680 || (0x2000 ≤ c.val && c.val ≤ 0x200A) || c.val == 0x2028 || c.val == 0x2029 ||
  c.val == 0x202F || c.val == 0x205F || c.val == 0x3000

namespace Text

def trimStart (t : Text) : Text := t.dropWhile Code.isBlank

def trimEnd (t : Text) : Text := (t.reverse.dropWhile Code.isBlank).reverse

/-- The text without the blanks at either end. -/
def trim (t : Text) : Text := t.trimStart.trimEnd

end Text

end AdmissionGate
