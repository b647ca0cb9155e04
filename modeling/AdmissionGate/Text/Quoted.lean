/-
# AdmissionGate.Text.Quoted -- texts and byte strings in quotes

Log lines and error messages show a text between quotes.  The quote is `'`
unless the text holds a `'` and no `"`; the quote and the backslash are escaped,
tab, newline and carriage return by their letters, and every other code point
that is not printable by its number: two hexadecimal digits below 0x100, four
below 0x10000, eight above.  A byte string is shown the same way after a `b`,
with every byte outside printable ASCII by its number.
-/
import AdmissionGate.Text.Printable

namespace AdmissionGate

namespace Text

/-- The quote that a text with these code points is put between. -/
def quoteFor (t : Text) : Code := if t.contains '\x27' && !t.contains '"' then '"' else '\x27'

def escapeCode (quote c : Code) : Text :=
  if c = quote ∨ c = '\\' then ['\\', c]
  else if c = '\t' then "\\t"
  else if c = '\n' then "\\n"
  else if c = '\r' then "\\r"
  else if c.isPrintable then [c]
  else if c.val < 0x100 then "\\x" ++ hex 2 c.val
  else if c.val < 0x10000 then "\\u" ++ hex 4 c.val
  else "\\U" ++ hex 8 c.val

def quoted (t : Text) : Text :=
  let quote := t.quoteFor
  quote :: t.flatMap (escapeCode quote) ++ [quote]

end Text

abbrev Bytes := List UInt8

namespace Bytes

/-- One byte inside quotes; only bytes of printable ASCII stand for themselves. -/
def escapeByte (quote : Code) (b : UInt8) : Text :=
  let c : Code := ⟨b.toNat, Nat.lt_trans b.toNat_lt (by decide)⟩
  if b < 0x80 then Text.escapeCode quote c else "\\x" ++ Text.hex 2 b.toNat

/-- The byte string in quotes, after a `b`. -/
def quoted (bytes : Bytes) : Text :=
  let quote : Code := if bytes.contains 0x27 && !bytes.contains 0x22 then '"' else '\x27'
  ('b' : Code) :: quote :: bytes.flatMap (escapeByte quote) ++ [quote]

end Bytes

end AdmissionGate
