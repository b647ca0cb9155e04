/-
# AdmissionGate.Proofs.Object.Metadata -- what is wrong with a document

`documentFaults` lists everything that keeps a document from giving object metadata,
in the order in which it is looked for, and `membersOf` is what the document says of
itself.  Taking the metadata from a document gives the first fault of that list, or
what the document says if the list is empty (`ofDocument_eq`).

Each reading step is described in the same way, and `firstOr_bind` puts two of them
in a row.
-/
import AdmissionGate.Object.Metadata

namespace AdmissionGate

set_option autoImplicit false

/-- A value, unless there are faults: then the first of them. -/
def firstOr {α : Type} (faults : List Fault) (value : α) : Except Fault α :=
  match faults with
  | [] => .ok value
  | fault :: _ => .error fault

theorem firstOr_bind {α β : Type} (faults others : List Fault) (a : α) {f : α → Except Fault β}
    {b : β} (next : f a = firstOr others b) :
    (firstOr faults a >>= f) = firstOr (faults ++ others) b := by
  cases faults with
  | nil => exact next
  | cons fault rest => rfl

theorem firstOr_bind_pure {α β : Type} (faults : List Fault) (a : α) (f : α → β) :
    (firstOr faults a >>= fun a => pure (f a)) = firstOr faults (f a) := by
  cases faults <;> rfl

theorem firstOr_eq_ok {α : Type} {faults : List Fault} {a b : α} :
    firstOr faults a = .ok b ↔ faults = [] ∧ a = b := by
  cases faults with
  | nil => simp [firstOr]
  | cons fault rest => simp [firstOr]

theorem firstOr_eq_error {α : Type} {faults : List Fault} {a : α} {fault : Fault} :
    firstOr faults a = .error fault ↔ faults.head? = some fault := by
  cases faults with
  | nil => simp [firstOr]
  | cons first rest => simp [firstOr]

theorem Value.isText_iff {v : Value} : v.isText = true ↔ ∃ t, v = .text t := by
  cases v <;> simp [isText]

def Value.IsStringMap (v : Value) : Prop :=
  v = .null ∨ ∃ entries, v = .map entries ∧
    ∀ entry ∈ entries, entry.1.isText = true ∧ entry.2.isText = true

namespace Metadata

/-! ## Members -/

/-- What keeps a member from being a text. -/
def textFaults (field : Text) : Value → List Fault
  | .null | .text _ => []
  | v => [.decode (.text field v.typeName)]

def textOf : Value → Value
  | .null => .text []
  | v => v

theorem readText_eq (field : Text) (v : Value) :
    readText field v = firstOr (textFaults field v) (textOf v) := by
  cases v <;> rfl

/-- The fault of an entry that is not a text at a text; a key that cannot be shown leaves no room
for another. -/
def entryFault (field : MapField) (entry : Value × Value) : Fault :=
  match entry.1.quoted with
  | .ok key => .decode (.entry field.name key entry.2.typeName)
  | .error cause => .integer cause

def isTextEntry (entry : Value × Value) : Bool := entry.1.isText && entry.2.isText

def entryFaults (field : MapField) (entries : Entries) : List Fault :=
  (entries.filter fun entry => !isTextEntry entry).map (entryFault field)

theorem checkEntries_eq (field : MapField) (entries : Entries) :
    checkEntries field entries = firstOr (entryFaults field entries) () := by
  induction entries with
  | nil => rfl
  | cons entry rest ih =>
      obtain ⟨k, v⟩ := entry
      unfold checkEntries
      by_cases fits : (k.isText && v.isText) = true
      · have kept : entryFaults field ((k, v) :: rest) = entryFaults field rest := by
          simp only [entryFaults, isTextEntry]
          rw [List.filter_cons_of_neg (by simp [fits])]
        rw [if_pos fits, ih, kept]
      · have found : entryFaults field ((k, v) :: rest) =
            entryFault field (k, v) :: entryFaults field rest := by
          simp only [entryFaults, isTextEntry, Bool.not_eq_true] at fits ⊢
          rw [List.filter_cons_of_pos (by simp [fits]), List.map_cons]
        rw [if_neg fits, found, firstOr, entryFault]
        cases k.quoted <;> rfl

/-- What keeps a member from being a map from text to text. -/
def mapFaults (field : MapField) : Value → List Fault
  | .null => []
  | .map entries => entryFaults field entries
  | v => [.decode (.map field.name v.typeName)]

theorem readMap_eq (field : MapField) (v : Value) :
    readMap field v = firstOr (mapFaults field v) v := by
  cases v with
  | map entries =>
      simp only [readMap, checkEntries_eq, mapFaults]
      cases entryFaults field entries <;> rfl
  | _ => rfl

/-! ## Documents -/

def memberFaults (entries : Entries) : List Fault :=
  textFaults "name" (member entries "name") ++
    (textFaults "namespace" (member entries "namespace") ++
      (mapFaults .labels (member entries "labels") ++
        mapFaults .annotations (member entries "annotations")))

def ofMembers (entries : Entries) : Metadata where
  name := textOf (member entries "name")
  «namespace» := textOf (member entries "namespace")
  labels := member entries "labels"
  annotations := member entries "annotations"

theorem ofEntries_eq (entries : Entries) :
    ofEntries entries = firstOr (memberFaults entries) (ofMembers entries) := by
  unfold ofEntries
  simp only [readText_eq, readMap_eq]
  refine firstOr_bind _ _ _ (firstOr_bind _ _ _ (firstOr_bind _ _ _ ?_))
  exact firstOr_bind_pure _ _ _

def documentFaults : Value → List Fault
  | .map document =>
    match member document "metadata" with
    | .null => []
    | .map entries => memberFaults entries
    | v => [.decode (.metadata v.typeName)]
  | v => [.decode (.document v.typeName)]

/-- What a document says in its member `metadata`; where that is no map it says nothing. -/
def membersOf : Value → Metadata
  | .map document =>
    match member document "metadata" with
    | .map entries => ofMembers entries
    | _ => {}
  | _ => {}

/-- **The metadata of a document are what it says, or its first fault.** -/
theorem ofDocument_eq (document : Value) :
    ofDocument document = firstOr (documentFaults document) (membersOf document) := by
  cases document with
  | map entries =>
      simp only [ofDocument, documentFaults, membersOf]
      cases member entries "metadata" with
      | map members => exact ofEntries_eq members
      | _ => rfl
  | _ => rfl

end Metadata

end AdmissionGate
