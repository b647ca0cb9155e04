/-
# AdmissionGate.Gate.Whitelist -- the users that may change managed resources

Users are given as a collection of names, as one name, or not at all; a setting
gives them as a comma-separated list.  A whitelist is the set of the given names
without the empty one, each of them verbatim.

A source of users may also be used up: `Users.once` is what is left of names that
can be walked a single time, and `Users.consult` returns the rest with the
whitelist.
-/
import AdmissionGate.Fault
import AdmissionGate.Text.Blank

namespace AdmissionGate

/-- A set of users: no two members are the same. -/
abbrev Whitelist := List Value

inductive Users where
  /-- A collection of names, a name, or null. -/
  | given (v : Value)
  /-- Names that are walked at most once. -/
  | once (rest : List Value)

namespace Whitelist

def holds (w : Whitelist) (v : Value) : Bool := w.any (·.same v)

/-- Whether a user is a member.  Asking takes a user that could be a member, or a set. -/
def contains (w : Whitelist) (user : Value) : Except Fault Bool :=
  match user with
  | .set _ => .ok false
  | user =>
    match user.unhashable? with
    | some typeName => .error (.unhashable typeName)
    | none => .ok (holds w user)

def add (w : Whitelist) (user : Value) : Whitelist := if holds w user then w else w ++ [user]

/-- Add the users that are not empty, up to the first that cannot be a member; the users after that
one are returned with the fault. -/
def addAll (w : Whitelist) : List Value → Except (Fault × List Value) Whitelist
  | [] => .ok w
  | user :: rest =>
    if user.isTruthy then
      match user.unhashable? with
      | some typeName => .error (.unhashable typeName, rest)
      | none => addAll (add w user) rest
    else addAll w rest

def ofList (users : List Value) : Except Fault Whitelist := (addAll [] users).mapError (·.1)

/-- The whitelist that a value gives: of a text the one name, of null or anything else that is empty
none, of a collection its elements. -/
def ofValue (users : Value) : Except Fault Whitelist :=
  match users with
  | .text t => ofList [.text t]
  | users => if users.isTruthy then users.elements >>= ofList else .ok []

end Whitelist

/-- The whitelist that a source gives, and what is left of the source. -/
def Users.consult : Users → Except Fault Whitelist × Users
  | .given v => (Whitelist.ofValue v, .given v)
  | .once users =>
    match Whitelist.addAll [] users with
    | .ok w => (.ok w, .once [])
    | .error (fault, rest) => (.error fault, .once rest)

def Whitelist.inOrder (w : Whitelist) : Except Fault (List Value) :=
  (Value.inOrder w).mapError .order

/-- The segments of a comma-separated list, trimmed, without the blank ones. -/
def splitList (t : Text) : List Text :=
  ((Text.split ',' t).map Text.trim).filter (!·.isEmpty)

/-- The segments of a setting that should be a text; one that does not count as given has none. -/
def splitSetting (v : Value) : Except Fault (List Text) :=
  if v.isTruthy then
    match v with
    | .text t => .ok (splitList t)
    | .bytes _ => .error .separatorNotBytes
    | v => .error (.noAttribute v.qualifiedTypeName "split")
  else .ok []

end AdmissionGate
