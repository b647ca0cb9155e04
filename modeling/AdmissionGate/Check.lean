/-
# AdmissionGate.Check -- checking a captured review without a server

`Check.run` reads a captured review, asks the gate for its verdict with the users
of a setting whitelisted, and reports the answer that a server would get as a YAML
document, after what the gate logged.

It ends with 0 if the request is allowed and with 1 if it is denied or in error.
An input that is no usable review ends it with 2 and one line that says why.  A
review whose members are of the wrong types is a fault that ends it without an exit
code of its own; what was logged before stays on the output.
-/
import AdmissionGate.Review
import AdmissionGate.Yaml.Load
import AdmissionGate.Yaml.Print.Graph

namespace AdmissionGate

namespace Check

inductive Source where
  /-- A stream, whose text is taken as it is. -/
  | stream
  /-- A file, whose line ends are all taken as line feeds. -/
  | file
  deriving DecidableEq, Repr

/-- The settings of a check, each of which may be unset. -/
structure Settings where
  /-- The whitelisted users, parted by commas. -/
  users : Option Text := none
  /-- The verbosity of the log. -/
  verbosity : Option Text := none

inductive Ending where
  | exit (code : Nat)
  | fault (cause : Fault)
  deriving DecidableEq

/-- What a check says, and how it ends. -/
structure Report where
  ending : Ending
  output : Text := []
  errors : Text := []
  deriving DecidableEq

/-! ## Input -/

/-- A text with every carriage return, and every pair of one with a line feed, as a line feed. -/
def lineFeeds : (afterReturn : Bool) → Text → Text
  | _, [] => []
  | afterReturn, c :: t =>
    if c = '\r' then ('\n' : Code) :: lineFeeds true t
    else if c = '\n' ∧ afterReturn then lineFeeds false t
    else c :: lineFeeds false t

def readText (source : Source) (bytes : Bytes) : Except Fault Text :=
  match Encoding.decodeUtf8 bytes with
  | .ok t => .ok (match source with | .stream => t | .file => lineFeeds false t)
  | .error cause => .error (.encoding cause)

def readGraph (t : Text) : Except Fault Yaml.Graph := (Yaml.Graph.ofText t).mapError .yaml

def rootOf (g : Yaml.Graph) : Yaml.Spot := ⟨g, g.root⟩

/-! ## Output -/

abbrev Adding (α : Type) := StateM Yaml.Graph α

/-- Add a value; its number. -/
def add (c : Yaml.Cell) : Adding Nat := fun g =>
  (g.cells.size, { g with cells := g.cells.push c })

def addMap (members : List (Text × Nat)) : Adding Nat := do
  let entries ← members.mapM fun (name, v) => do return (← add (.scalar (.text name)), v)
  add (.map entries)

/-- The number of the identifier of the request in a review; an absent one is empty. -/
def identifier : Adding Nat := do
  match (Review.requestOf (rootOf (← get))).toOption.bind (Outline.member? · "uid") with
  | some s => return s.number
  | none => add (.scalar (.text []))

/-- Make a review the answer to it; its identifier stays what it is. -/
def addAnswer (v : Verdict) : Adding Unit := do
  let uid ← identifier
  let status ← v.status.mapM fun (name, w) => do return (name, ← add (.scalar w))
  let status ← addMap status
  let allowed ← add (.scalar (.bool v.isAllowed))
  let response ← addMap [("uid", uid), ("allowed", allowed), ("status", status)]
  let version ← add (.scalar (.text "admission.k8s.io/v1"))
  let kind ← add (.scalar (.text "AdmissionReview"))
  let root ← addMap [("apiVersion", version), ("kind", kind), ("response", response)]
  modify ({ · with root := root })

/-- The answer to a review, as a document. -/
def answer (g : Yaml.Graph) (v : Verdict) : Except Fault Text :=
  ((addAnswer v).run g).2.print.mapError .integer

/-! ## The check -/

/-- The gate that the settings ask for. -/
def gate (s : Settings) : Except Fault Validator :=
  Validator.ofUsers (.list ((splitList (s.users.getD [])).map .text))

/-- The verdict on a request and what the gate logs. -/
def decide (s : Settings) (r : Request) : Except Fault Decision := do
  (← gate s).handle (Log.verbosity s.verbosity) r

def exitCode (v : Verdict) : Nat := if v.isAllowed then 0 else 1

def report (g : Yaml.Graph) (d : Decision) : Report :=
  match answer g d.verdict with
  | .ok t => ⟨.exit (exitCode d.verdict), d.log ++ t, []⟩
  | .error fault => ⟨.fault fault, d.log, []⟩

def reportFault (fault : Fault) : Report :=
  if fault.isOfValue then ⟨.exit 2, [], "[check] " ++ fault.message ++ "\n"⟩
  else { ending := .fault fault }

/-- Check the review in a text. -/
def runText (s : Settings) (t : Text) : Report :=
  match readGraph t with
  | .error fault => reportFault fault
  | .ok g =>
    match Review.read (rootOf g) with
    | .error fault => reportFault fault
    | .ok r =>
      match decide s r with
      | .error fault => { ending := .fault fault }
      | .ok d => report g d

/-- Check the review in an input. -/
def run (s : Settings) (source : Source) (bytes : Bytes) : Report :=
  match readText source bytes with
  | .error fault => { ending := .fault fault }
  | .ok t => runText s t

end Check

end AdmissionGate
