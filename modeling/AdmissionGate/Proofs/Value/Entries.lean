/-
# AdmissionGate.Proofs.Value.Entries -- what setting an entry leaves alone

The entry at a name can be set and removed; `put` does the one or the other, null
standing for removal.  Everything that is left alone is `others`, the entries at any
other key, in their order.  So a map whose keys are distinct is after a `put` the new
entry and the others, in some order (`perm_put`), and what follows for one `put`
after another is read off from there: the second at the same name wins, and two at
different names can change places.
-/
import AdmissionGate.Object.Metadata
import AdmissionGate.Proofs.Json.Exact

namespace AdmissionGate

set_option autoImplicit false

namespace Value

/-- A text is the same key as itself only. -/
@[simp] theorem same_text_iff {k : Value} {t : Text} : k.same (.text t) = true ↔ k = .text t := by
  cases k <;> simp [same, integer?]

@[simp] theorem same_text_self (t : Text) : (Value.text t).same (.text t) = true :=
  same_text_iff.2 rfl

theorem same_text_of_ne {s t : Text} (different : s ≠ t) :
    (Value.text s).same (.text t) = false := by
  simp [Bool.eq_false_iff, different]

end Value

namespace Entries

/-- The entries at any key but one text. -/
def others (entries : Entries) (name : Text) : Entries :=
  entries.filter fun entry => !entry.1.same (.text name)

/-- Set the value at a name, or remove it if the value is null. -/
def put (entries : Entries) (name : Text) : Value → Entries
  | .null => entries.erase name
  | v => entries.insert (.text name) v

/-- The entry that is set at a name; null is no entry. -/
def entryAt (name : Text) : Value → Entries
  | .null => []
  | v => [(.text name, v)]

variable {entries : Entries} {name other : Text}

/-! ## One entry after the other -/

theorem get?_cons (k v : Value) (rest : Entries) (name : Text) :
    Entries.get? ((k, v) :: rest) name =
      if k.same (.text name) then some v else Entries.get? rest name := by
  cases k <;> simp [Entries.get?, Value.same, Value.integer?]

@[simp] theorem get?_cons_self (name : Text) (v : Value) (rest : Entries) :
    Entries.get? ((.text name, v) :: rest) name = some v := by
  simp [get?_cons]

theorem get?_cons_of_ne (different : other ≠ name) (v : Value) (rest : Entries) :
    Entries.get? ((.text other, v) :: rest) name = Entries.get? rest name := by
  simp [get?_cons, different]

theorem erase_cons (k v : Value) (rest : Entries) (name : Text) :
    Entries.erase ((k, v) :: rest) name =
      if k.same (.text name) then rest else (k, v) :: Entries.erase rest name := by
  cases k <;> simp [Entries.erase, Value.same, Value.integer?]

theorem others_cons (k v : Value) (rest : Entries) (name : Text) :
    others ((k, v) :: rest) name =
      if k.same (.text name) then others rest name else (k, v) :: others rest name := by
  by_cases same : k.same (.text name) = true <;> simp [others, same]

theorem areDistinct_cons {k v : Value} {rest : Entries} :
    areDistinct ((k, v) :: rest) = true ↔
      (∀ entry ∈ rest, k.same entry.1 = false) ∧ areDistinct rest = true := by
  simp only [areDistinct, decide_eq_true_eq, List.pairwise_cons]

/-! ## What is left alone -/

@[simp] theorem others_insert (entries : Entries) (name : Text) (v : Value) :
    others (entries.insert (.text name) v) name = others entries name := by
  induction entries with
  | nil => simp [Entries.insert, others]
  | cons entry rest ih =>
      obtain ⟨k, w⟩ := entry
      by_cases same : k.same (.text name) = true <;> simp [Entries.insert, others_cons, same, ih]

@[simp] theorem others_erase (entries : Entries) (name : Text) :
    others (entries.erase name) name = others entries name := by
  induction entries with
  | nil => rfl
  | cons entry rest ih =>
      obtain ⟨k, w⟩ := entry
      by_cases same : k.same (.text name) = true <;> simp [erase_cons, others_cons, same, ih]

@[simp] theorem others_put (entries : Entries) (name : Text) (v : Value) :
    others (entries.put name v) name = others entries name := by
  cases v with
  | null => exact others_erase entries name
  | _ => exact others_insert entries name _

theorem others_comm (entries : Entries) (name other : Text) :
    others (others entries name) other = others (others entries other) name := by
  simp only [others, List.filter_filter]
  exact List.filter_congr fun entry _ => Bool.and_comm _ _

@[simp] theorem get?_others_self (entries : Entries) (name : Text) :
    (others entries name).get? name = none := by
  induction entries with
  | nil => rfl
  | cons entry rest ih =>
      obtain ⟨k, v⟩ := entry
      by_cases same : k.same (.text name) = true <;> simp [others_cons, get?_cons, same, ih]

/-- What stands at another name is among the others. -/
theorem get?_others (different : other ≠ name) (entries : Entries) :
    (others entries name).get? other = entries.get? other := by
  induction entries with
  | nil => rfl
  | cons entry rest ih =>
      obtain ⟨k, v⟩ := entry
      rw [others_cons, get?_cons]
      by_cases same : k.same (.text name) = true
      · have fresh : k.same (.text other) = false := by
          rw [Value.same_text_iff.1 same]
          exact Value.same_text_of_ne different.symm
        rw [if_pos same, ih, if_neg (Bool.eq_false_iff.1 fresh)]
      · rw [if_neg same, get?_cons, ih]

/-- Setting the entry at a name does not change what stands at another. -/
theorem get?_put_of_ne (different : other ≠ name) (entries : Entries) (v : Value) :
    (entries.put name v).get? other = entries.get? other := by
  rw [← get?_others different, others_put, get?_others different]

@[simp] theorem get?_insert_self (entries : Entries) (name : Text) (v : Value) :
    (entries.insert (.text name) v).get? name = some v := by
  induction entries with
  | nil => simp [Entries.insert]
  | cons entry rest ih =>
      obtain ⟨k, w⟩ := entry
      by_cases same : k.same (.text name) = true <;> simp [Entries.insert, get?_cons, same, ih]

theorem get?_insert_of_ne (different : other ≠ name) (entries : Entries) (v : Value) :
    (entries.insert (.text name) v).get? other = entries.get? other := by
  rw [← get?_others different, others_insert, get?_others different]

/-- Of two entries set at one name the second stays. -/
@[simp] theorem insert_insert (entries : Entries) (name : Text) (v w : Value) :
    (entries.insert (.text name) v).insert (.text name) w = entries.insert (.text name) w := by
  induction entries with
  | nil => simp [Entries.insert]
  | cons entry rest ih =>
      obtain ⟨k, u⟩ := entry
      by_cases same : k.same (.text name) = true <;> simp [Entries.insert, same, ih]

/-! ## Distinct keys -/

theorem others_eq_self (fresh : ∀ entry ∈ entries, (Value.text name).same entry.1 = false) :
    others entries name = entries := by
  refine List.filter_eq_self.2 fun entry member => ?_
  rw [Bool.not_eq_true', Bool.eq_false_iff]
  intro same
  have known := fresh entry member
  simp [Value.same_text_iff.1 same] at known

theorem get?_eq_none_of_fresh (fresh : ∀ entry ∈ entries, (Value.text name).same entry.1 = false) :
    entries.get? name = none := by
  rw [← others_eq_self fresh]
  exact get?_others_self entries name

/-- No second entry is left where the first is removed. -/
theorem erase_eq_others (distinct : entries.areDistinct = true) (name : Text) :
    entries.erase name = others entries name := by
  induction entries with
  | nil => rfl
  | cons entry rest ih =>
      obtain ⟨k, v⟩ := entry
      obtain ⟨fresh, restDistinct⟩ := areDistinct_cons.1 distinct
      rw [erase_cons, others_cons]
      by_cases same : k.same (.text name) = true
      · rw [Value.same_text_iff.1 same] at fresh
        rw [if_pos same, if_pos same, others_eq_self fresh]
      · rw [if_neg same, if_neg same, ih restDistinct]

theorem perm_insert (distinct : entries.areDistinct = true) (name : Text) (v : Value) :
    (entries.insert (.text name) v).Perm ((.text name, v) :: others entries name) := by
  induction entries with
  | nil => exact .refl _
  | cons entry rest ih =>
      obtain ⟨k, w⟩ := entry
      obtain ⟨fresh, restDistinct⟩ := areDistinct_cons.1 distinct
      rw [Entries.insert, others_cons]
      by_cases same : k.same (.text name) = true
      · rw [Value.same_text_iff.1 same] at fresh ⊢
        simp [others_eq_self fresh]
      · rw [if_neg same, if_neg same]
        exact ((ih restDistinct).cons _).trans (.swap _ _ _)

/-- **Setting an entry gives that entry and the others.** -/
theorem perm_put (distinct : entries.areDistinct = true) (name : Text) (v : Value) :
    (entries.put name v).Perm (entryAt name v ++ others entries name) := by
  cases v with
  | null => exact .of_eq (erase_eq_others distinct name)
  | _ => exact perm_insert distinct name _

theorem mem_insert {entry : Value × Value} {key v : Value}
    (member : entry ∈ entries.insert key v) :
    (∃ old ∈ entries, old.1 = entry.1) ∨ entry.1 = key := by
  induction entries with
  | nil =>
      rw [List.mem_singleton.1 member]
      exact .inr rfl
  | cons first rest ih =>
      obtain ⟨k, w⟩ := first
      rw [Entries.insert] at member
      split at member
      · rcases List.mem_cons.1 member with rfl | inRest
        · exact .inl ⟨_, List.mem_cons_self, rfl⟩
        · exact .inl ⟨_, List.mem_cons_of_mem _ inRest, rfl⟩
      · rcases List.mem_cons.1 member with rfl | inRest
        · exact .inl ⟨_, List.mem_cons_self, rfl⟩
        · rcases ih inRest with ⟨old, inside, same⟩ | new
          · exact .inl ⟨old, List.mem_cons_of_mem _ inside, same⟩
          · exact .inr new

theorem areDistinct_insert (distinct : entries.areDistinct = true) (key v : Value) :
    (entries.insert key v).areDistinct = true := by
  induction entries with
  | nil => rfl
  | cons entry rest ih =>
      obtain ⟨k, w⟩ := entry
      obtain ⟨fresh, restDistinct⟩ := areDistinct_cons.1 distinct
      rw [Entries.insert]
      split
      · exact areDistinct_cons.2 ⟨fresh, restDistinct⟩
      · rename_i differs
        refine areDistinct_cons.2 ⟨fun later member => ?_, ih restDistinct⟩
        rcases mem_insert member with ⟨old, inside, same⟩ | new
        · rw [← same]
          exact fresh old inside
        · rw [new]
          exact Bool.eq_false_iff.2 differs

theorem areDistinct_others (distinct : entries.areDistinct = true) (name : Text) :
    (others entries name).areDistinct = true := by
  have pairs := of_decide_eq_true distinct
  exact decide_eq_true (pairs.sublist List.filter_sublist)

theorem areDistinct_put (distinct : entries.areDistinct = true) (name : Text) (v : Value) :
    (entries.put name v).areDistinct = true := by
  cases v with
  | null =>
      rw [put, erase_eq_others distinct]
      exact areDistinct_others distinct name
  | _ => exact areDistinct_insert distinct _ _

/-- What was set at a name is what stands there. -/
theorem member_put_self (distinct : entries.areDistinct = true) (name : Text) (v : Value) :
    Metadata.member (entries.put name v) name = v := by
  unfold Metadata.member
  cases v with
  | null =>
      simp [put, erase_eq_others distinct]
  | _ => simp [put]

/-! ## One after the other -/

theorem others_entryAt_append (different : other ≠ name) (v : Value) (rest : Entries) :
    others (entryAt name v ++ rest) other = entryAt name v ++ others rest other := by
  have kept : (Value.text name).same (.text other) = false :=
    Value.same_text_of_ne different.symm
  cases v with
  | null => rfl
  | _ => simp [entryAt, others, kept]

/-- Of two values put at one name the second stays. -/
theorem perm_put_put (distinct : entries.areDistinct = true) (name : Text) (v w : Value) :
    ((entries.put name v).put name w).Perm (entries.put name w) := by
  have second := perm_put (areDistinct_put distinct name v) name w
  rw [others_put] at second
  exact second.trans (perm_put distinct name w).symm

/-- Values put at two names can be put in any order. -/
theorem perm_put_comm (distinct : entries.areDistinct = true) (different : other ≠ name)
    (v w : Value) :
    ((entries.put name v).put other w).Perm ((entries.put other w).put name v) := by
  have apart {a b : Text} (differ : b ≠ a) (x y : Value) : ((entries.put a x).put b y).Perm
      (entryAt b y ++ (entryAt a x ++ others (others entries a) b)) := by
    refine (perm_put (areDistinct_put distinct a x) b y).trans (.append_left _ ?_)
    rw [← others_entryAt_append differ]
    exact (perm_put distinct a x).filter _
  refine (apart different v w).trans (.trans ?_ (apart different.symm w v).symm)
  rw [others_comm, ← List.append_assoc, ← List.append_assoc]
  exact .append_right _ List.perm_append_comm

end Entries

end AdmissionGate
