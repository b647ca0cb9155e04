/-
# AdmissionGate.Fault -- what can go wrong with a request

A request may be ill-typed in any member, and an object may be no object at all.
`Fault` lists the causes that the gate, the object states and the review reader
tell apart; `Fault.message` is their one wording.  `Fault.kind` sorts them: a
fault of a value is one that the review tool reports for an input that is no
usable review, every other kind is a mistake in the types of the input.
-/
import AdmissionGate.Json.Reader
import AdmissionGate.Json.Writer
import AdmissionGate.Value.Order
import AdmissionGate.Yaml.Fault

namespace AdmissionGate

/-- Why a document gives no object metadata. -/
inductive DecodeFault where
  /-- The bytes are no JSON document. -/
  | json (cause : Json.Fault)
  /-- The document is of this type and not an object. -/
  | document (typeName : Text)
  /-- The member `metadata` is of this type and not an object. -/
  | metadata (typeName : Text)
  /-- A member of the metadata is of this type and not a text. -/
  | text (field typeName : Text)
  /-- A member of the metadata is of this type and not a map. -/
  | map (field typeName : Text)
  /-- The entry at a key, shown in quotes, is not a text at a text; the value is of this type. -/
  | entry (field key typeName : Text)
  deriving DecidableEq

def DecodeFault.message : DecodeFault → Text
  | json cause => "error decoding object from json: " ++ cause.message
  | document typeName =>
    "cannot decode " ++ typeName ++ " into object metadata: expected a JSON object"
  | metadata typeName => "metadata: expected object, got " ++ typeName
  | text field typeName => "metadata." ++ field ++ ": expected string, got " ++ typeName
  | map field typeName => "metadata." ++ field ++ ": expected map of strings, got " ++ typeName
  | entry field key typeName =>
    "metadata." ++ field ++ "[" ++ key ++ "]: expected string value, got " ++ typeName

/-- What a walk over a value needs and does not find. -/
inductive Fault where
  | decode (cause : DecodeFault)
  | yaml (cause : Yaml.Fault)
  | integer (cause : Integer.Fault)
  | write (cause : Json.WriteFault)
  | encoding (cause : Encoding.Fault)
  | order (cause : OrderFault)
  /-- A value of this type cannot be a member of a set or a key. -/
  | unhashable (typeName : Text)
  /-- A value of this type has no elements. -/
  | notIterable (typeName : Text)
  /-- A value of this type has no such attribute. -/
  | noAttribute (typeName name : Text)
  /-- The kind of a resource is of this type and cannot be shown alone. -/
  | kindNotText (typeName : Text)
  /-- A value of this type has no entries that could be set. -/
  | noEntries (typeName : Text)
  /-- A list has no entry at a text key. -/
  | listKey
  /-- A list forgets items by position only. -/
  | listErase
  /-- A set forgets a member of its own choice only. -/
  | setErase
  /-- The entry at a position of a list of entries is no pair. -/
  | entryNotPair (position : Nat)
  /-- The entry at a position of a list of entries has this many parts. -/
  | entryLength (position length : Nat)
  /-- Metadata with fewer than the two parts labels and annotations. -/
  | tooFewParts (count : Nat)
  /-- Metadata with more parts than labels and annotations. -/
  | tooManyParts
  /-- The document has no member `request` that is an object. -/
  | noRequest
  /-- A byte string is not parted at a text. -/
  | separatorNotBytes
  /-- A log field may not have this name. -/
  | reservedField (name : Text)
  /-- The name of a log field is no text. -/
  | fieldNotText
  /-- The members of object metadata are fixed. -/
  | fixedField (name : Text)
  /-- The name of a member is of this type and not a text. -/
  | memberNotText (typeName : Text)
  /-- A value of this type stands in the place of an operation. -/
  | notOperation (typeName : Text)
  /-- A value of this type stands for no class of objects. -/
  | classNeeded (typeName : Text)
  /-- A value of this type holds no members of an object. -/
  | membersNeeded (typeName : Text)
  /-- This member of an object is its own and cannot be replaced. -/
  | ownMember (name : Text)
  deriving DecidableEq

inductive FaultKind where
  | decode
  | document
  | value
  | encoding
  | type
  | member
  | fixedField
  /-- A word that is not one of those that are known. -/
  | word
  /-- A text that ends too early. -/
  | length
  /-- A number that is too large. -/
  | size
  | recursion
  deriving DecidableEq, Repr

namespace Fault

def message : Fault → Text
  | decode cause => cause.message
  | yaml cause => cause.message
  | integer cause => cause.message
  | write cause => cause.message
  | encoding cause => cause.message
  | order cause => cause.message
  | unhashable typeName => "unhashable type: \x27" ++ typeName ++ "\x27"
  | notIterable typeName => "\x27" ++ typeName ++ "\x27 object is not iterable"
  | noAttribute typeName name =>
    "\x27" ++ typeName ++ "\x27 object has no attribute \x27" ++ name ++ "\x27"
  | kindNotText typeName => "__str__ returned non-string (type " ++ typeName ++ ")"
  | noEntries typeName => "\x27" ++ typeName ++ "\x27 object does not support item assignment"
  | listKey => "list indices must be integers or slices, not str"
  | listErase => "pop expected at most 1 argument, got 2"
  | setErase => "set.pop() takes no arguments (2 given)"
  | entryNotPair position =>
    "cannot convert dictionary update sequence element #" ++ Text.ofNat position ++
      " to a sequence"
  | entryLength position length =>
    "dictionary update sequence element #" ++ Text.ofNat position ++ " has length " ++
      Text.ofNat length ++ "; 2 is required"
  | tooFewParts count =>
    "not enough values to unpack (expected 2, got " ++ Text.ofNat count ++ ")"
  | tooManyParts => "too many values to unpack (expected 2)"
  | noRequest => "document has no \x60request\x60 object; is it an AdmissionReview?"
  | separatorNotBytes => "a bytes-like object is required, not \x27str\x27"
  | reservedField name => "vlog() got multiple values for argument \x27" ++ name ++ "\x27"
  | fieldNotText => "keywords must be strings"
  | fixedField name => "cannot assign to field " ++ name.quoted
  | memberNotText typeName => "attribute name must be string, not \x27" ++ typeName ++ "\x27"
  | notOperation typeName => "\x27" ++ typeName ++ "\x27 object is not callable"
  | classNeeded typeName =>
    "__class__ must be set to a class, not \x27" ++ typeName ++ "\x27 object"
  | membersNeeded typeName =>
    "__dict__ must be set to a dictionary, not a \x27" ++ typeName ++ "\x27"
  | ownMember name =>
    "attribute \x27" ++ name ++ "\x27 of \x27Unstructured\x27 objects is not writable"

def kindOfYaml : Yaml.Fault → FaultKind
  | .malformed => .document
  | .escape number => if number < 0x80000000 then .value else .size
  | .integer _ | .float _ | .calendar _ => .value
  | .places => .size
  | .noDigits => .length
  | .time => .member
  | .timeOfMap => .type
  | .truth _ => .word
  | .endlessDefault => .recursion

def kind : Fault → FaultKind
  | decode _ => .decode
  | yaml cause => kindOfYaml cause
  | encoding _ => .encoding
  | integer _ | entryLength _ _ | tooFewParts _ | tooManyParts | noRequest => .value
  | write (.integer _) | write .circular => .value
  | write (.key _) => .type
  | unhashable _ | notIterable _ | kindNotText _ | noEntries _ | listKey | listErase
  | setErase | entryNotPair _ | reservedField _ | order _ | separatorNotBytes | fieldNotText
  | memberNotText _ | notOperation _ | classNeeded _ | membersNeeded _ => .type
  | noAttribute _ _ | ownMember _ => .member
  | fixedField _ => .fixedField

/-- Whether a fault lies in the value of an input rather than in its types. -/
def isOfValue (fault : Fault) : Bool :=
  match fault.kind with
  | .decode | .document | .value | .encoding => true
  | .type | .member | .fixedField | .word | .length | .size | .recursion => false

end Fault

namespace Value

/-- A value as text, at the top. -/
def shown (v : Value) : Except Fault Text := v.display.mapError .integer

/-- A value that can be a member of a set or a key. -/
def hashed (v : Value) : Except Fault Value :=
  match v.unhashable? with
  | some typeName => .error (.unhashable typeName)
  | none => .ok v

/-- The elements of a value that can be walked. -/
def elements (v : Value) : Except Fault (List Value) :=
  match v.elements? with
  | some items => .ok items
  | none => .error (.notIterable v.qualifiedTypeName)

/-- The entries of a value whose members are looked up by name. -/
def lookedUp (v : Value) : Except Fault Entries :=
  match v with
  | .map entries => .ok entries
  | v => .error (.noAttribute v.qualifiedTypeName "get")

end Value

end AdmissionGate
