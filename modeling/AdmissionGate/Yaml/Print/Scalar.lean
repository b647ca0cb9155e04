/-
# AdmissionGate.Yaml.Print.Scalar -- scalars as text

A scalar is written plainly if it reads back as what it is, otherwise between
single quotes, and between double quotes if it holds code points outside printable
ASCII or blanks beside line ends.  Byte strings are written as blocks.

A line is broken at a lone space once it is longer than `lineWidth`; between double
quotes, where a backslash can stand for the end of a line, after an escape as well.
-/
import AdmissionGate.Encoding.Base64
import AdmissionGate.Yaml.Cursor
import AdmissionGate.Yaml.Implicit
import AdmissionGate.Yaml.Print.Pen

namespace AdmissionGate

namespace Yaml

namespace Print

def lineWidth : Nat := 80

/-- The length from which on a key is written with its mark. -/
def keyLimit : Nat := 128

structure Scalar where
  tag : Tag
  text : Text
  /-- A byte string, for which a block is preferred. -/
  isBlock : Bool := false

def Scalar.ofValue : Value → Except Integer.Fault Scalar
  | .bool b => .ok ⟨.bool, if b then "true" else "false", false⟩
  | .int n => (⟨.int, ·, false⟩) <$> Integer.write n
  | .float x => .ok ⟨.float, Floating.write .yaml x, false⟩
  | .text t => .ok ⟨.text, t, false⟩
  | .bytes b => .ok ⟨.binary, Base64.encode b, true⟩
  | .date d => .ok ⟨.timestamp, d.iso, false⟩
  | .dateTime t => .ok ⟨.timestamp, t.iso ' ', false⟩
  | _ => .ok ⟨.null, "null", false⟩

/-! ## Which texts may be written how -/

/-- Whether a code point ends a line in a text that is written. -/
def isLineEnd (c : Code) : Bool := isBreak c && c.val ≠ 13

def isMultiline (t : Text) : Bool := t.any isLineEnd

/-- Whether a code point has to be escaped wherever it stands. -/
def isSpecial (c : Code) : Bool := !(c == '\n' || (32 ≤ c.val && c.val ≤ 126))

/-- Whether some code point is of one class and the next of another. -/
def hasPair (isFirst isSecond : Code → Bool) : Text → Bool
  | [] => false
  | a :: t => (isFirst a && t.head?.any isSecond) || hasPair isFirst isSecond t

/-- Whether the text starts or ends with a space or the end of a line. -/
def hasOuterGap (t : Text) : Bool :=
  let isGap (c : Code) : Bool := c == ' ' || isLineEnd c
  t.head?.any isGap || t.getLast?.any isGap

/-- Whether a mark of a block stands in the rest of a text, whose first code point has a gap in
front of it or not. -/
def hasInnerMark (afterGap : Bool) : Text → Bool
  | [] => false
  | c :: t =>
    (c == ':' && atGap t) || (c == '#' && afterGap) ||
      hasInnerMark (isBlank c || isBreak c) t

/-- Whether a text would be taken for something else than plain text in a block. -/
def hasMark (t : Text) : Bool :=
  match t with
  | [] => false
  | c :: rest =>
    t.startsWith "---" || t.startsWith "..." || isOneOf "#,[]\x7b\x7d&*!|>\x27\"%@\x60" c ||
      ((c == '?' || c == ':' || c == '-') && atGap rest) ||
      hasInnerMark (isBlank c || isBreak c) rest

/-- Whether a text keeps its form between single quotes. -/
def fitsSingle (t : Text) : Bool :=
  let isSpace (c : Code) : Bool := c == ' '
  !t.any isSpecial && !hasPair isLineEnd isSpace t && !hasPair isSpace isLineEnd t

def fitsPlain (t : Text) : Bool :=
  fitsSingle t && !isMultiline t && !hasOuterGap t && !hasMark t

inductive Style where
  | plain
  | single
  | double
  | block
  deriving DecidableEq, Repr

/-- The way to write a scalar; a key has one line. -/
def Scalar.style (s : Scalar) (isKey : Bool) : Style :=
  if s.isBlock then (if s.text.isEmpty || isKey then .double else .block)
  else if Implicit.tagOf s.text = s.tag && fitsPlain s.text then .plain
  else if fitsSingle s.text && !(isKey && isMultiline s.text) then .single
  else .double

/-- Whether the tag of a scalar goes without saying. -/
def Scalar.isImplied (s : Scalar) (style : Style) : Bool :=
  match style with
  | .plain => Implicit.tagOf s.text = s.tag
  | _ => s.tag = .text

/-! ## Writing them -/

/-- Whether a line is broken at a space: it is alone, and the line is long. -/
def breaksAt (p : Pen) (afterSpace : Bool) (t : Text) : Bool :=
  !afterSpace && t.head? ≠ some ' ' && lineWidth < p.column

def plainCodes (splits : Bool) (indent : Nat) : (afterSpace : Bool) → Text → Pen → Pen
  | _, [], p => p
  | afterSpace, c :: t, p =>
    if c = ' ' && splits && breaksAt p afterSpace t then
      plainCodes splits indent true t (p.indentTo indent).close
    else plainCodes splits indent (c == ' ') t (p.put [c])

def plain (splits : Bool) (indent : Nat) (t : Text) (p : Pen) : Pen :=
  plainCodes splits indent false t (if p.afterBlank then p else p.put " ").close

/-- The code points between single quotes after a code point; none is before the first. -/
def singleCodes (splits : Bool) (indent : Nat) : (before : Option Code) → Text → Pen → Pen
  | _, [], p => p
  | before, c :: t, p =>
    let p :=
      if c = ' ' then
        if splits && before.isSome && !t.isEmpty && breaksAt p (before == some ' ') t then
          p.indentTo indent
        else p.put " "
      else if c = '\n' then
        let p := if before = some '\n' then p.newline else p.newline.newline
        if t.head? = some '\n' then p else p.indentTo indent
      else if c = '\x27' then p.put "\x27\x27"
      else p.put [c]
    singleCodes splits indent (some c) t p

def single (splits : Bool) (indent : Nat) (t : Text) (p : Pen) : Pen :=
  (singleCodes splits indent none t (p.mark "\x27")).follow "\x27"

def letterEscapes : List (Nat × Char) := [
  (0, '0'), (7, 'a'), (8, 'b'), (9, 't'), (10, 'n'), (11, 'v'), (12, 'f'), (13, 'r'), (27, 'e'),
  (34, '"'), (92, '\\'), (0x85, 'N'), (0xA0, '_'), (0x2028, 'L'), (0x2029, 'P')]

/-- A code point as it is written between double quotes, if it is escaped there. -/
def escaped? (c : Code) : Option Text :=
  match letterEscapes.find? (·.1 = c.val) with
  | some (_, letter) => some ['\\', letter]
  | none =>
    if 32 ≤ c.val && c.val ≤ 126 then none
    else if c.val < 0x100 then some ("\\x" ++ Text.upperHex 2 c.val)
    else if c.val < 0x10000 then some ("\\u" ++ Text.upperHex 4 c.val)
    else some ("\\U" ++ Text.upperHex 8 c.val)

/-- End the line between double quotes; a space at the start of the next one is escaped. -/
def breakDouble (indent : Nat) (t : Text) (p : Pen) : Pen :=
  let p := ((p.put "\\").indentTo indent).close
  if t.head? = some ' ' then p.put "\\" else p

/-- The code points between double quotes.  No line ends before the first of them, nor around the
last. -/
def doubleCodes (splits : Bool) (indent : Nat) :
    (isFirst afterEscape : Bool) → Text → Pen → Pen
  | _, _, [], p => p
  | isFirst, afterEscape, c :: t, p =>
    let mayBreak := splits && !isFirst && !t.isEmpty
    match escaped? c with
    | some e =>
      let p := p.put e
      let p := if mayBreak && lineWidth + 1 < p.column then breakDouble indent t p else p
      doubleCodes splits indent false true t p
    | none =>
      let p :=
        if mayBreak && (c == ' ' || afterEscape) && lineWidth < p.column then
          breakDouble indent (c :: t) p
        else p
      doubleCodes splits indent false false t (p.put [c])

def double (splits : Bool) (indent : Nat) (t : Text) (p : Pen) : Pen :=
  (doubleCodes splits indent true false t (p.mark "\"")).follow "\""

/-- The lines of a block, each at an indentation and with its end. -/
def blockLines (indent : Nat) : List Text → Pen → Pen
  | [], p => p
  | line :: lines, p => blockLines indent lines ((p.indentTo indent).put line).newline

/-- A scalar whose lines all have an end, as a block. -/
def block (indent : Nat) (t : Text) (p : Pen) : Pen :=
  blockLines indent ((Text.split '\n' t).dropLast) (p.mark "|").newline

/-- A scalar with its tag, its further lines at an indentation. -/
def Scalar.write (s : Scalar) (isKey : Bool) (indent : Nat) (p : Pen) : Pen :=
  let style := s.style isKey
  let p := if s.isImplied style then p else p.mark s.tag.written
  match style with
  | .plain => plain (!isKey) indent s.text p
  | .single => single (!isKey) indent s.text p
  | .double => double (!isKey) indent s.text p
  | .block => block indent s.text p

/-- Whether a scalar, with an anchor of some length, is a key without a mark. -/
def Scalar.isSimpleKey (s : Scalar) (anchorLength : Nat) : Bool :=
  anchorLength + s.tag.written.length + s.text.length < keyLimit && !s.text.isEmpty &&
    !isMultiline s.text

end Print

end Yaml

end AdmissionGate
