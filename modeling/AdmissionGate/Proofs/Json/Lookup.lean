/-
# AdmissionGate.Proofs.Json.Lookup -- what stands at a name after a round trip

A map that is written and read again may lose an entry: two names that differ in how
they hold a code point, once as such and once in two halves, are one name afterwards.
A name in ASCII is met by no other one (`merged_eq_iff`), so what stands at it is what
stood there, in its normal form (`get?_normal`).  A map from text to text stays one.
-/
import AdmissionGate.Proofs.Json.Spelled
import AdmissionGate.Proofs.Object.Metadata
import AdmissionGate.Proofs.Value.Entries

namespace AdmissionGate

set_option autoImplicit false

namespace Json

/-! ## Names in ASCII -/

/-- No two halves make a code point of ASCII. -/
theorem eq_of_merged_eq {s t : Text} (plain : t.Plain) (same : merged s = t) : s = t := by
  induction s using merged.induct generalizing t with
  | case1 => exact same
  | case2 c => exact same
  | case3 c d s pair _ =>
      rw [merged, if_pos pair] at same
      subst same
      have low := (plain _ List.mem_cons_self).2
      simp only [Code.ofSurrogates] at low
      omega
  | case4 c d s single ih =>
      rw [merged, if_neg single] at same
      subst same
      rw [← ih (Text.plain_cons.1 plain).2 rfl]

theorem merged_eq_iff {s t : Text} (plain : t.Plain) : merged s = t ↔ s = t := by
  constructor
  · intro same
    exact eq_of_merged_eq plain same
  · rintro rfl
    exact merged_of_plain plain

/-! ## What stands at a name -/

section Lookup

variable {entries : Entries} {name : Text}

/-- Of the entries that are put in, at most one stands at the name; without one, what was there
before stays. -/
theorem get?_foldl_insert (texts : ∀ entry ∈ entries, entry.1.isText = true)
    (distinct : entries.areDistinct = true) (plain : name.Plain) (done : Entries) :
    ((normalEntries entries).foldl (fun done (k, v) => Entries.insert done k v) done).get? name =
      ((entries.get? name).map normal).or (done.get? name) := by
  induction entries generalizing done with
  | nil => rfl
  | cons entry rest ih =>
      obtain ⟨k, v⟩ := entry
      obtain ⟨isText, others⟩ := List.forall_mem_cons.1 texts
      obtain ⟨fresh, restDistinct⟩ := Entries.areDistinct_cons.1 distinct
      obtain ⟨t, rfl⟩ := Value.isText_iff.1 isText
      have next : (normalEntries ((.text t, v) :: rest)).foldl
          (fun done (k, v) => Entries.insert done k v) done =
            (normalEntries rest).foldl (fun done (k, v) => Entries.insert done k v)
              (done.insert (.text (merged t)) (normal v)) := rfl
      rw [next, ih others restDistinct]
      by_cases here : t = name
      · -- the keys are distinct, so no later entry replaces this one
        subst here
        rw [Entries.get?_cons_self, Entries.get?_eq_none_of_fresh fresh, merged_of_plain plain,
          Entries.get?_insert_self]
        rfl
      · have away : name ≠ merged t := by
          intro same
          exact here ((merged_eq_iff plain).1 same.symm)
        rw [Entries.get?_cons_of_ne here, Entries.get?_insert_of_ne away]

/-- **What stands at a name in ASCII after a round trip is what stood there.** -/
theorem get?_normal (texts : ∀ entry ∈ entries, entry.1.isText = true)
    (distinct : entries.areDistinct = true) (plain : name.Plain) :
    (Entries.ofList (normalEntries entries)).get? name = (entries.get? name).map normal := by
  rw [Entries.ofList, get?_foldl_insert texts distinct plain]
  exact Option.or_none

theorem member_normal (texts : ∀ entry ∈ entries, entry.1.isText = true)
    (distinct : entries.areDistinct = true) (plain : name.Plain) :
    Metadata.member (Entries.ofList (normalEntries entries)) name =
      normal (Metadata.member entries name) := by
  rw [Metadata.member, get?_normal texts distinct plain, Metadata.member]
  cases entries.get? name with
  | none => rfl
  | some v => rfl

end Lookup

/-! ## Maps from text to text -/

theorem isText_of_mem_normalEntries {entries : Entries}
    (texts : ∀ entry ∈ entries, entry.1.isText = true ∧ entry.2.isText = true) :
    ∀ entry ∈ normalEntries entries, entry.1.isText = true ∧ entry.2.isText = true := by
  induction entries with
  | nil =>
      intro entry impossible
      cases impossible
  | cons entry rest ih =>
      obtain ⟨k, v⟩ := entry
      obtain ⟨⟨-, isText⟩, others⟩ := List.forall_mem_cons.1 texts
      obtain ⟨t, rfl⟩ := Value.isText_iff.1 isText
      exact List.forall_mem_cons.2 ⟨⟨rfl, rfl⟩, ih others⟩

end Json

namespace Entries

theorem isText_of_mem_insert {entries : Entries} {k v : Value}
    (texts : ∀ entry ∈ entries, entry.1.isText = true ∧ entry.2.isText = true)
    (new : k.isText = true ∧ v.isText = true) :
    ∀ entry ∈ entries.insert k v, entry.1.isText = true ∧ entry.2.isText = true := by
  induction entries with
  | nil => exact List.forall_mem_singleton.2 new
  | cons entry rest ih =>
      obtain ⟨other, w⟩ := entry
      obtain ⟨first, others⟩ := List.forall_mem_cons.1 texts
      rw [Entries.insert]
      split
      · exact List.forall_mem_cons.2 ⟨⟨first.1, new.2⟩, others⟩
      · exact List.forall_mem_cons.2 ⟨first, ih others⟩

theorem isText_of_mem_ofList {pairs : Entries}
    (texts : ∀ entry ∈ pairs, entry.1.isText = true ∧ entry.2.isText = true) :
    ∀ entry ∈ Entries.ofList pairs, entry.1.isText = true ∧ entry.2.isText = true := by
  have step : ∀ done : Entries,
      (∀ entry ∈ done, entry.1.isText = true ∧ entry.2.isText = true) →
        ∀ entry ∈ pairs.foldl (fun done (k, v) => Entries.insert done k v) done,
          entry.1.isText = true ∧ entry.2.isText = true := by
    induction pairs with
    | nil =>
        intro done given
        exact given
    | cons pair rest ih =>
        intro done given
        obtain ⟨first, others⟩ := List.forall_mem_cons.1 texts
        exact ih others _ (isText_of_mem_insert given first)
  exact step [] fun entry impossible => by cases impossible

end Entries

/-- A map from text to text is one after a round trip. -/
theorem Value.IsStringMap.normal {v : Value} (typed : v.IsStringMap) :
    (Json.normal v).IsStringMap := by
  rcases typed with rfl | ⟨entries, rfl, texts⟩
  · exact .inl rfl
  · exact .inr ⟨_, rfl, Entries.isText_of_mem_ofList (Json.isText_of_mem_normalEntries texts)⟩

end AdmissionGate
