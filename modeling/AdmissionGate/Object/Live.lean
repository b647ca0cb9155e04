/-
# AdmissionGate.Object.Live -- objects that are held

An object may be held as it is and not as bytes: as a document that is read and
changed in place, or as object metadata, which are fixed.

A holder may put any value beside a document.  Reading and setting are operations
with names, and each calls another one by its name; a value beside the document
under such a name stands in the place of that operation, which then fails before
the document is looked at.
-/
import AdmissionGate.Object.Document

namespace AdmissionGate

/-- An object that is held and not encoded. -/
inductive LiveObject where
  /-- A document that is read in place.  A value that was put beside it under the name of an
  operation stands in the place of that operation. -/
  | document (content : Value) (beside : List (Text × Value) := [])
  /-- Metadata that have been taken from a document or given member by member. -/
  | metadata (m : Metadata)

namespace LiveObject

/-- Check that none of some values stands in the place of an operation; the operations are looked at
in turn. -/
def checkOperations (beside : List (Text × Value)) : List Text → Except Fault Unit
  | [] => .ok ()
  | name :: names =>
    match beside.lookup name with
    | some v => .error (.notOperation v.qualifiedTypeName)
    | none => checkOperations beside names

def get (object : LiveObject) (field : MapField) : Except Fault Value :=
  match object with
  | document content beside => do
    checkOperations beside [field.getter, "_metadata"]
    Document.get content field
  | metadata m => .ok (m.get field)

/-- Set labels or annotations of an object; object metadata have no setters.  The object after the
call is returned in any case, with the fault if the call fails. -/
def set (object : LiveObject) (field : MapField) (value : Value) : LiveObject × Option Fault :=
  match object with
  | document content beside =>
    match checkOperations beside [field.setter, "_set_metadata_field"] with
    | .ok () =>
      let (content, fault) := Document.set content field value
      (document content beside, fault)
    | .error fault => (object, some fault)
  | metadata m => (metadata m, some (.noAttribute "PartialObjectMetadata" field.setter))

/-- The values beside a document with one more. -/
def put (beside : List (Text × Value)) (name : Text) (value : Value) : List (Text × Value) :=
  (name, value) :: beside.filter (·.1 != name)

/-- The object whose members are the entries of a map. -/
def ofEntries (entries : Entries) : LiveObject :=
  document (Metadata.member entries "object")
    (entries.filterMap fun (k, v) => match k with | .text name => some (name, v) | _ => none)

/-- Replace a member of an object.  A document is the member `object`; what an object is made of has
three names of its own, of which only the table of all members can be replaced, and by a map. -/
def assign (object : LiveObject) (member value : Value) : LiveObject × Option Fault :=
  match member, object with
  | .text name, document content beside =>
    if name = Text.ofString "object" then (document value beside, none)
    else if name = Text.ofString "__class__" then
      (object, some (.classNeeded value.qualifiedTypeName))
    else if name = Text.ofString "__dict__" then
      match value with
      | .map entries => (ofEntries entries, none)
      | value => (object, some (.membersNeeded value.qualifiedTypeName))
    else if name = Text.ofString "__weakref__" then (object, some (.ownMember name))
    else (document content (put beside name value), none)
  | .text name, metadata m => (metadata m, some (.fixedField name))
  | member, object => (object, some (.memberNotText member.qualifiedTypeName))

end LiveObject

end AdmissionGate
