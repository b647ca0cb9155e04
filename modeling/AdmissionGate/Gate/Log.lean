/-
# AdmissionGate.Gate.Log -- the decision log

The log is silent unless its verbosity is raised: 2 shows denials and errors, 3
every decision.  The verbosity is an integer literal in a setting; anything else,
and a negative number, counts as 0.

An entry is one line: the log's mark, the message, and the fields as `name=value`
with a space before each, without the blanks at its end.

The log is a text.  The stream that it goes to is taken to accept every text, though
a strict UTF-8 stream refuses one with half a surrogate pair in it, and the stack is
taken to be as deep as the values that are shown.
-/
import AdmissionGate.Fault
import AdmissionGate.Text.Blank

namespace AdmissionGate

namespace Log

/-- The verbosity that a setting gives; it may be unset. -/
def verbosity (setting : Option Text) : Nat :=
  match Integer.read 10 (setting.getD []).trim with
  | .ok n => n.toNat
  | .error _ => 0

def mark : Text := "[admission]"

/-- A field: its name, and its value as text if it can be shown. -/
abbrev Field := Text × Except Fault Text

/-- The fields as text, up to the first that cannot be shown. -/
def showFields : List Field → Except Fault (List Text)
  | [] => .ok []
  | (name, value) :: rest => do
    let value ← value
    let parts ← showFields rest
    return (name ++ "=" ++ value) :: parts

/-- The line of an entry, without its end. -/
def line (message : Text) (fields : List Text) : Text :=
  (mark ++ " " ++ message ++ " " ++ Text.join " " fields).trimEnd

/-- What an entry of a level adds to the log: the text that is handed to its stream, which is taken
to accept every text. -/
def emit (verbosity : Nat) (level : Int) (message : Text) (fields : List Field) :
    Except Fault Text :=
  if (verbosity : Int) < level then .ok []
  else do
    let parts ← showFields fields
    return line message parts ++ "\n"

/-- The fields that pairs of name and value spell; the last value of each name counts. -/
def fieldsOf (pairs : List (Value × Value)) : Except Fault Entries := do
  pairs.forM fun (name, _) => discard name.hashed
  return Entries.ofList pairs

def fieldName : Value → Except Fault Text
  | .text name => .ok name
  | _ => .error .fieldNotText

/-- The names that the parts of an entry have themselves. -/
def isReserved (name : Text) : Bool := name == "level" || name == "msg"

def isSilent (verbosity : Nat) (level : Value) : Except Fault Bool :=
  (Value.less (.int verbosity) level).mapError .order

/-- An entry from outside.  The names of its fields are checked before its level, and the fields
are shown before the message. -/
def record (verbosity : Nat) (level message : Value) (fields : Entries) : Except Fault Text := do
  let fields ← fields.mapM fun (name, v) => return (← fieldName name, v)
  match fields.find? fun (name, _) => isReserved name with
  | some (name, _) => .error (.reservedField name)
  | none =>
    if ← isSilent verbosity level then return []
    let parts ← showFields (fields.map fun (name, v) => (name, v.shown))
    let message ← message.shown
    return line message parts ++ "\n"

end Log

end AdmissionGate
