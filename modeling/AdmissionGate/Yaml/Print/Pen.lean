/-
# AdmissionGate.Yaml.Print.Pen -- writing with columns

A pen knows the text written so far, the column it stands at, whether a blank is
behind it, and whether the line holds nothing but indentation and marks that keep
it open for a collection on the same line.
-/
import AdmissionGate.Text.Basic

namespace AdmissionGate

namespace Yaml

structure Pen where
  /-- The text so far, the last code point first. -/
  written : Text := []
  column : Nat := 0
  /-- A mark needs no blank in front of it here. -/
  afterBlank : Bool := true
  /-- The line may go on with a collection. -/
  isOpen : Bool := true

namespace Pen

def text (p : Pen) : Text := p.written.reverse

def put (p : Pen) (t : Text) : Pen :=
  { p with written := t.reverse ++ p.written, column := p.column + t.length }

/-- Leave the line to content: neither a blank is behind the pen nor may a collection start. -/
def close (p : Pen) : Pen := { p with afterBlank := false, isOpen := false }

/-- Write a mark, after a blank unless one is there. -/
def mark (p : Pen) (t : Text) : Pen := (if p.afterBlank then p.put t else p.put (" " ++ t)).close

/-- Write a mark that needs no blank in front of it. -/
def follow (p : Pen) (t : Text) : Pen := (p.put t).close

/-- Write a mark after which the line may still go on with a collection. -/
def markOpen (p : Pen) (t : Text) : Pen := { p.mark t with isOpen := p.isOpen }

def newline (p : Pen) : Pen :=
  { written := ('\n' : Code) :: p.written, column := 0, afterBlank := true, isOpen := true }

/-- Go to a column on a line with nothing but indentation: on this one, if it is one. -/
def indentTo (p : Pen) (indent : Nat) : Pen :=
  let p :=
    if !p.isOpen || indent < p.column || (p.column = indent && !p.afterBlank) then p.newline else p
  if p.column < indent then
    { p.put (List.replicate (indent - p.column) ' ') with afterBlank := true }
  else p

end Pen

end Yaml

end AdmissionGate
