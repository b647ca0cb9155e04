/-
# AdmissionGate.Json.Writer -- writing values as JSON text

A value is written in ASCII on one line: a comma and a space between items, a
colon and a space after a name, every code point outside ASCII as one escape or
as two for the halves of a surrogate pair.  A tuple is written as a list; a
value that JSON has no form for is written as the text it is displayed as.

The names of an object are texts; a key that is a number, a truth value or null
is written as the text of that JSON value, and any other key is refused.  Two
keys may thus be written as one name.  A container that holds itself is refused.
-/
import AdmissionGate.Value.Display

namespace AdmissionGate

namespace Json

inductive WriteFault where
  | integer (cause : Integer.Fault)
  /-- A key of this type has no name. -/
  | key (typeName : Text)
  | circular
  deriving DecidableEq

def WriteFault.message : WriteFault → Text
  | integer cause => cause.message
  | key typeName => "keys must be str, int, float, bool or None, not " ++ typeName
  | circular => "Circular reference detected"

/-- The escape of a number below 0x10000. -/
def escapeUnit (n : Nat) : Text := "\\u" ++ Text.hex 4 n

def escapeCode (c : Code) : Text :=
  if c = '"' then "\\\""
  else if c = '\\' then "\\\\"
  else if c = '\n' then "\\n"
  else if c = '\r' then "\\r"
  else if c = '\t' then "\\t"
  else if c = '\x0c' then "\\f"
  else if c = '\x08' then "\\b"
  else if 0x20 ≤ c.val ∧ c.val < 0x7F then [c]
  else if c.val < 0x10000 then escapeUnit c.val
  else
    escapeUnit (0xD800 + (c.val - 0x10000) / 0x400) ++
      escapeUnit (0xDC00 + (c.val - 0x10000) % 0x400)

def writeText (t : Text) : Text := ('"' : Code) :: (t.flatMap escapeCode ++ [('"' : Code)])

/-- An integer, unless it has too many digits. -/
def writeInt (n : Int) : Except WriteFault Text :=
  match Integer.write n with
  | .ok t => .ok t
  | .error cause => .error (.integer cause)

/-- A value that JSON has no form for, as the text it is displayed as. -/
def writeDisplayed (v : Value) : Except WriteFault Text :=
  match v.display with
  | .ok t => .ok (writeText t)
  | .error cause => .error (.integer cause)

/-- The name that a key is written as. -/
def keyName : Value → Except WriteFault Text
  | .text t => .ok t
  | .null => .ok "null"
  | .bool b => .ok (if b then "true" else "false")
  | .int n => writeInt n
  | .float x => .ok (Floating.write .json x)
  | v => .error (.key v.qualifiedTypeName)

mutual

def write : Value → Except WriteFault Text
  | .null => .ok "null"
  | .bool b => .ok (if b then "true" else "false")
  | .int n => writeInt n
  | .float x => .ok (Floating.write .json x)
  | .text t => .ok (writeText t)
  | .list items | .tuple items => do
    let parts ← writeItems items
    return "[" ++ Text.join ", " parts ++ "]"
  | .map entries => do
    let parts ← writeEntries entries
    return "\x7b" ++ Text.join ", " parts ++ "\x7d"
  | .enclosing _ => .error .circular
  | .bytes b => writeDisplayed (.bytes b)
  | .date d => writeDisplayed (.date d)
  | .dateTime t => writeDisplayed (.dateTime t)
  | .set items => writeDisplayed (.set items)
  | .model cls attributes => writeDisplayed (.model cls attributes)

def writeItems : List Value → Except WriteFault (List Text)
  | [] => .ok []
  | x :: xs => do
    let part ← write x
    let parts ← writeItems xs
    return part :: parts

/-- The members of an object, each as name, colon and value. -/
def writeEntries : List (Value × Value) → Except WriteFault (List Text)
  | [] => .ok []
  | (k, v) :: rest => do
    let name ← keyName k
    let value ← write v
    let parts ← writeEntries rest
    return (writeText name ++ ": " ++ value) :: parts

end

end Json

end AdmissionGate
