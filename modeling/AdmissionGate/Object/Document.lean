/-
# AdmissionGate.Object.Document -- objects that are documents

An object that a client holds is often just its document.  Labels and annotations
are read in place, under the same rules as `Metadata.ofDocument` but without a
look at name and namespace, and they can be set.

Setting first makes sure that there is a member `metadata`, then takes the new
map, then stores it; null removes the map instead.  A step that fails leaves what
the steps before it did, so a failing `set` adds at most an empty `metadata`.
-/
import AdmissionGate.Object.Metadata

namespace AdmissionGate

namespace Entries

/-- The pair of key and value that an entry of a list of entries is. -/
def pair (position : Nat) (v : Value) : Except Fault (Value × Value) :=
  match v.elements? with
  | none => .error (.entryNotPair position)
  | some [key, value] =>
    match key.unhashable? with
    | some typeName => .error (.unhashable typeName)
    | none => .ok (key, value)
  | some items => .error (.entryLength position items.length)

/-- The entries that a list of pairs spells, counted from a position. -/
def ofPairs (position : Nat) (entries : Entries) : List Value → Except Fault Entries
  | [] => .ok entries
  | v :: rest =>
    match pair position v with
    | .ok (key, value) => ofPairs (position + 1) (entries.insert key value) rest
    | .error fault => .error fault

/-- The entries of a map, or those that a list of pairs spells. -/
def ofValue : Value → Except Fault Entries
  | .map entries => .ok entries
  | v =>
    match v.elements? with
    | some items => ofPairs 0 [] items
    | none => .error (.notIterable v.qualifiedTypeName)

end Entries

namespace Document

/-- The entries of the member `metadata`; absent or null it has none. -/
def metadata (document : Value) : Except Fault Entries := do
  let entries ← document.lookedUp
  match Metadata.member entries "metadata" with
  | .null => return []
  | .map entries => return entries
  | v => .error (.decode (.metadata v.typeName))

def get (document : Value) (field : MapField) : Except Fault Value := do
  let entries ← metadata document
  Metadata.readMap field (Metadata.member entries field.name)

/-- Make sure that there is a member `metadata`, and return it. -/
def withMetadata (entries : Entries) : Entries × Value :=
  match entries.get? "metadata" with
  | some v => (entries, v)
  | none => (entries.insert (.text "metadata") (.map []), .map [])

def eraseMap (field : MapField) : Value → Except Fault Value
  | .map entries => .ok (.map (Entries.erase entries field.name))
  | .list _ => .error .listErase
  | .set _ => .error .setErase
  | v => .error (.noAttribute v.qualifiedTypeName "pop")

def storeMap (field : MapField) (new : Entries) : Value → Except Fault Value
  | .map entries => .ok (.map (Entries.insert entries (.text field.name) (.map new)))
  | .list _ => .error .listKey
  | v => .error (.noEntries v.qualifiedTypeName)

/-- The metadata after setting a map to a value. -/
def changed (field : MapField) (value metadata : Value) : Except Fault Value :=
  match value with
  | .null => eraseMap field metadata
  | value =>
    match Entries.ofValue value with
    | .ok new => storeMap field new metadata
    | .error fault => .error fault

/-- Set labels or annotations.  The document after the call is returned in any case, with the fault
if the call fails. -/
def set (document : Value) (field : MapField) (value : Value) : Value × Option Fault :=
  match document with
  | .map entries =>
    let (entries, metadata) := withMetadata entries
    match changed field value metadata with
    | .ok metadata => (.map (entries.insert (.text "metadata") metadata), none)
    | .error fault => (.map entries, some fault)
  | v => (v, some (.noAttribute v.qualifiedTypeName "setdefault"))

end Document

end AdmissionGate
