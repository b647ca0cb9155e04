/-
# AdmissionGate.Yaml.Cursor -- a place in a text

A cursor knows the rest of the text and how many code points, lines and columns
are behind it.  A carriage return and the line feed after it end one line; so do
each of them alone, and the line ends of other scripts.  The byte order mark has
no width.  The length of the whole text goes along, as a bound for walks over the rest.

`Scan` reads at a cursor and moves it on; `refuse` gives the whole document up.
-/
import AdmissionGate.Yaml.Fault

namespace AdmissionGate

namespace Yaml

/-! ## Classes of code points -/

/-- Whether a code point ends a line, alone or after a carriage return. -/
def isBreak (c : Code) : Bool :=
  c.val == 10 || c.val == 13 || c.val == 0x85 || c.val == 0x2028 || c.val == 0x2029

def isBlank (c : Code) : Bool := c == ' ' || c == '\t'

/-- Whether a code point may stand in the name of an anchor, a handle or a directive. -/
def isNameCode (c : Code) : Bool := c.isAlphanumeric || c == '-' || c == '_'

def isOneOf (codes : String) (c : Code) : Bool := (codes : Text).contains c

def atBreak (t : Text) : Bool := t.head?.all isBreak

/-- Whether the text ends, or a space or the end of a line stands here. -/
def atSpace (t : Text) : Bool := t.head?.all fun (c : Code) => c == ' ' || isBreak c

/-- Whether the text ends, or a blank or the end of a line stands here. -/
def atGap (t : Text) : Bool := t.head?.all fun (c : Code) => isBlank c || isBreak c

/-- Whether the text starts with a mark of three code points and a gap after it. -/
def startsMark (mark : String) (t : Text) : Bool := t.startsWith mark && atGap (t.drop 3)

def atDocumentMark (t : Text) : Bool := startsMark "---" t || startsMark "..." t

/-- Whether a code point may stand in a document at all. -/
def isAllowed (c : Code) : Bool :=
  c.val == 9 || c.val == 10 || c.val == 13 || (32 ≤ c.val && c.val ≤ 126) || c.val == 0x85 ||
    (0xA0 ≤ c.val && c.val < 0xD800) || (0xE000 ≤ c.val && c.val ≤ 0xFFFD) || 0x10000 ≤ c.val

/-! ## Cursors -/

structure Cursor where
  rest : Text
  /-- The code points of the whole text. -/
  size : Nat
  /-- The code points before the place. -/
  index : Nat := 0
  /-- The lines that ended before the place. -/
  line : Nat := 0
  /-- The columns before the place on its line. -/
  column : Nat := 0

namespace Cursor

def ofText (t : Text) : Cursor := { rest := t, size := t.length }

def next (c : Cursor) : Cursor :=
  match c.rest with
  | [] => c
  | code :: rest =>
    if isBreak code && !(code == '\r' && rest.head? == some '\n') then
      ⟨rest, c.size, c.index + 1, c.line + 1, 0⟩
    else
      let column := if code = Code.byteOrderMark then c.column else c.column + 1
      ⟨rest, c.size, c.index + 1, c.line, column⟩

def skip : Nat → Cursor → Cursor
  | 0, c => c
  | n + 1, c => skip n c.next

end Cursor

/-! ## Reading -/

abbrev Scan (α : Type) := StateT Cursor (Except Fault) α

namespace Scan

def refuse {α : Type} : Scan α := throw .malformed

def rest : Scan Text := return (← get).rest

/-- As many steps as a walk can take that reads on with every step but the last. -/
def fuel : Scan Nat := return (← get).size + 1

def column : Scan Nat := return (← get).column

def peek : Scan (Option Code) := return (← get).rest.head?

def skip (n : Nat) : Scan Unit := modify (Cursor.skip n)

/-- Read code points as long as they are of a class. -/
def span (isMember : Code → Bool) : Scan Text := do
  let t := (← rest).takeWhile isMember
  skip t.length
  return t

def accept (c : Code) : Scan Bool := do
  if (← peek) = some c then
    skip 1
    return true
  return false

/-- Read a given code point, which has to stand here. -/
def expect (c : Code) : Scan Unit := do
  if !(← accept c) then refuse

/-- Refuse unless the rest of the text is as it has to be. -/
def require (holds : Text → Bool) : Scan Unit := do
  if !holds (← rest) then refuse

/-- Read the end of a line, if it stands here: a line feed, unless it belongs to another script. -/
def lineBreak? : Scan (Option Code) := do
  match ← rest with
  | [] => return none
  | c :: t =>
    if !isBreak c then return none
    if c = '\r' ∧ t.head? = some '\n' then skip 2 else skip 1
    return some (if 0x2028 ≤ c.val then c else '\n')

/-- Move on over spaces, and over a comment after them, to the end of the line or further text. -/
def toComment : Scan Unit := do
  let _ ← span (· == ' ')
  if (← peek) = some '#' then
    let _ ← span (!isBreak ·)

/-- Move on over spaces and a comment; nothing else may stand before the end of the line, which is
read as well. -/
def endLine : Scan Unit := do
  toComment
  require atBreak
  let _ ← lineBreak?

end Scan

end Yaml

end AdmissionGate
