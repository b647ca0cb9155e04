/-
# AdmissionGate.Gate.Verdict -- what the gate answers

A verdict is an outcome with a status code, a reason and a message.  The response
to a request names the request, says whether it is allowed, and gives the status:
the code, and reason and message unless they are empty.  A verdict that is given
from outside may hold any values; those of the gate hold an integer and two texts.
-/
import AdmissionGate.Value.Display

namespace AdmissionGate

/-- An outcome.  Only `allow` lets a request pass. -/
inductive Outcome where
  | allow
  | deny
  | error
  /-- An outcome that the gate itself never gives. -/
  | other (v : Value)

namespace Outcome

def name : Outcome → Value
  | allow => "ALLOW"
  | deny => "DENY"
  | error => "ERROR"
  | other v => v

def ofName (v : Value) : Outcome :=
  match v with
  | .text name =>
    if name = Text.ofString "ALLOW" then allow
    else if name = Text.ofString "DENY" then deny
    else if name = Text.ofString "ERROR" then error
    else other v
  | v => other v

end Outcome

structure Verdict where
  outcome : Outcome
  code : Value
  reason : Value := .text []
  message : Value := .text []

namespace Verdict

def allow (reason : Value) : Verdict := { outcome := .allow, code := .int 200, reason := reason }

def deny (reason : Value) : Verdict := { outcome := .deny, code := .int 403, reason := reason }

def error (code : Value) (message : Text) : Verdict :=
  { outcome := .error, code := code, message := .text message }

def isAllowed (v : Verdict) : Bool :=
  match v.outcome with
  | .allow => true
  | _ => false

/-- A member of a status, absent if it does not count as given. -/
def statusMember (name : Text) (v : Value) : List (Text × Value) :=
  if v.isTruthy then [(name, v)] else []

def status (v : Verdict) : List (Text × Value) :=
  ("code", v.code) :: (statusMember "reason" v.reason ++ statusMember "message" v.message)

end Verdict

/-- The message of an error that carries arguments: none gives no text, one is displayed, several
are shown as a tuple.  The error of a missing key shows its one argument in quotes. -/
def errorMessage (missingKey : Bool) : List Value → Except Integer.Fault Text
  | [] => .ok []
  | [v] => if missingKey then v.quoted else v.display
  | vs => (Value.tuple vs).quoted

end AdmissionGate
