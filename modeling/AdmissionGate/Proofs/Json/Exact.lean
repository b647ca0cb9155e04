/-
# AdmissionGate.Proofs.Json.Exact -- values that survive being written

A value that is made like a document -- short integers, texts without a surrogate
pair in two halves, maps from distinct texts -- is its own normal form
(`normal_of_isExact`), so writing and reading it changes nothing.
-/
import AdmissionGate.Proofs.Json.Normal

namespace AdmissionGate

set_option autoImplicit false

def Entries.areDistinct (entries : Entries) : Bool :=
  decide (entries.Pairwise fun a b => a.1.same b.1 = false)

namespace Json

/-- Whether no high surrogate half stands right before a low one. -/
def isUnpaired : Text → Bool
  | [] => true
  | [_] => true
  | c :: d :: t => !(c.isHighSurrogate && d.isLowSurrogate) && isUnpaired (d :: t)

/-- Whether a key is a text that is kept. -/
def isExactName : Value → Bool
  | .text t => isUnpaired t
  | _ => false

mutual

/-- Whether a value is a tree of nulls, truth values, short integers and texts without surrogate
pairs in two halves, in lists and in maps from distinct texts. -/
def isExact : Value → Bool
  | .null | .bool _ => true
  | .int n => isShort n
  | .text t => isUnpaired t
  | .list items => areExact items
  | .map entries => areExactMembers entries && Entries.areDistinct entries
  | _ => false

def areExact : List Value → Bool
  | [] => true
  | x :: xs => isExact x && areExact xs

/-- Whether the entries of a map are such trees at texts that are kept. -/
def areExactMembers : List (Value × Value) → Bool
  | [] => true
  | (k, v) :: rest => isExactName k && isExact v && areExactMembers rest

end

theorem merged_of_isUnpaired {t : Text} (unpaired : isUnpaired t = true) : merged t = t := by
  induction t using merged.induct with
  | case1 => rfl
  | case2 c => rfl
  | case3 c d t pair _ => simp [isUnpaired, pair] at unpaired
  | case4 c d t single ih =>
      rw [isUnpaired, Bool.and_eq_true] at unpaired
      rw [merged, if_neg single, ih unpaired.2]

theorem isExactName_iff {k : Value} :
    isExactName k = true ↔ ∃ t, k = .text t ∧ isUnpaired t = true := by
  cases k <;> simp [isExactName]

/-! ## Entries with distinct keys -/

theorem insert_of_fresh {entries : Entries} {k : Value}
    (fresh : ∀ entry ∈ entries, entry.1.same k = false) (v : Value) :
    entries.insert k v = entries ++ [(k, v)] := by
  induction entries with
  | nil => rfl
  | cons entry rest ih =>
      obtain ⟨other, w⟩ := entry
      obtain ⟨differs, others⟩ := List.forall_mem_cons.1 fresh
      rw [Entries.insert, if_neg (by simp [differs]), ih others, List.cons_append]

theorem foldl_insert_of_distinct {entries : Entries}
    (distinct : entries.Pairwise fun a b => a.1.same b.1 = false) (done : Entries)
    (fresh : ∀ entry ∈ entries, ∀ before ∈ done, before.1.same entry.1 = false) :
    entries.foldl (fun done (k, v) => Entries.insert done k v) done = done ++ entries := by
  induction entries generalizing done with
  | nil => rw [List.foldl_nil, List.append_nil]
  | cons entry rest ih =>
      obtain ⟨k, v⟩ := entry
      obtain ⟨differs, others⟩ := List.pairwise_cons.1 distinct
      obtain ⟨first, later⟩ := List.forall_mem_cons.1 fresh
      have next : ∀ entry ∈ rest, ∀ before ∈ done ++ [(k, v)], before.1.same entry.1 = false := by
        intro entry member
        refine List.forall_mem_append.2 ⟨later entry member, ?_⟩
        exact List.forall_mem_singleton.2 (differs entry member)
      have inserted : done.insert k v = done ++ [(k, v)] := insert_of_fresh first v
      rw [List.foldl_cons]
      show rest.foldl _ (done.insert k v) = _
      rw [inserted, ih others _ next, List.append_assoc, List.singleton_append]

/-- Inserting entries with distinct keys one by one gives them back. -/
theorem ofList_of_areDistinct {entries : Entries} (distinct : entries.areDistinct = true) :
    Entries.ofList entries = entries := by
  have folded := foldl_insert_of_distinct (of_decide_eq_true distinct) []
    fun _ _ _ member => absurd member List.not_mem_nil
  rwa [List.nil_append] at folded

/-! ## Every exact value -/

mutual

theorem isTree_of_isExact : (v : Value) → isExact v = true → isTree v = true
  | .null, _ => rfl
  | .bool _, _ => rfl
  | .text _, _ => rfl
  | .int n, exact => by
      rw [isExact] at exact
      rw [isTree, exact]
  | .list items, exact => by
      rw [isExact] at exact
      rw [isTree, areTrees_of_areExact items exact]
  | .map entries, exact => by
      rw [isExact, Bool.and_eq_true] at exact
      rw [isTree, areMembers_of_areExactMembers entries exact.1]

theorem areTrees_of_areExact : (items : List Value) → areExact items = true →
    areTrees items = true
  | [], _ => rfl
  | x :: xs, exact => by
      rw [areExact, Bool.and_eq_true] at exact
      rw [areTrees, isTree_of_isExact x exact.1, areTrees_of_areExact xs exact.2, Bool.and_self]

theorem areMembers_of_areExactMembers : (entries : List (Value × Value)) →
    areExactMembers entries = true → areMembers entries = true
  | [], _ => rfl
  | (k, v) :: rest, exact => by
      rw [areExactMembers, Bool.and_eq_true, Bool.and_eq_true] at exact
      obtain ⟨t, rfl, -⟩ := isExactName_iff.1 exact.1.1
      rw [areMembers, isTree_of_isExact v exact.1.2, areMembers_of_areExactMembers rest exact.2]
      rfl

end

mutual

/-- **An exact value is its own normal form.** -/
theorem normal_of_isExact : (v : Value) → isExact v = true → normal v = v
  | .null, _ => rfl
  | .bool _, _ => rfl
  | .int _, _ => rfl
  | .text t, exact => by
      rw [isExact] at exact
      rw [normal, merged_of_isUnpaired exact]
  | .list items, exact => by
      rw [isExact] at exact
      rw [normal, normalItems_of_areExact items exact]
  | .map entries, exact => by
      rw [isExact, Bool.and_eq_true] at exact
      rw [normal, normalEntries_of_areExactMembers entries exact.1, ofList_of_areDistinct exact.2]

theorem normalItems_of_areExact : (items : List Value) → areExact items = true →
    normalItems items = items
  | [], _ => rfl
  | x :: xs, exact => by
      rw [areExact, Bool.and_eq_true] at exact
      rw [normalItems, normal_of_isExact x exact.1, normalItems_of_areExact xs exact.2]

theorem normalEntries_of_areExactMembers : (entries : List (Value × Value)) →
    areExactMembers entries = true → normalEntries entries = entries
  | [], _ => rfl
  | (k, v) :: rest, exact => by
      rw [areExactMembers, Bool.and_eq_true, Bool.and_eq_true] at exact
      obtain ⟨t, rfl, unpaired⟩ := isExactName_iff.1 exact.1.1
      rw [normalEntries, normal_of_isExact v exact.1.2,
        normalEntries_of_areExactMembers rest exact.2, nameOf, merged_of_isUnpaired unpaired]

end

end Json

end AdmissionGate
