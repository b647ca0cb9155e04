/-
# AdmissionGate.Proofs.Gate.Whitelist -- whitelists of names

Users are well-typed if they are null, one name or a list of names (`NamesOf`).  Their
whitelist holds the given names without the empty one, and making a whitelist of a
whitelist changes nothing.

Whatever the users are, if they give a whitelist at all then its members can be members
of another one, so that a gate can make its whitelist again for every request.
-/
import AdmissionGate.Gate.Whitelist
import AdmissionGate.Proofs.Steps

namespace AdmissionGate

set_option autoImplicit false

/-- The names that well-typed users give. -/
inductive NamesOf : Value → List Text → Prop
  | nobody : NamesOf .null []
  | one (name : Text) : NamesOf (.text name) [name]
  | many (names : List Text) : NamesOf (.list (names.map .text)) names

namespace Whitelist

def ofNames (names : List Text) : Whitelist := names.map .text

@[simp] theorem holds_ofNames_iff {names : List Text} {v : Value} :
    holds (ofNames names) v = true ↔ ∃ name ∈ names, v = .text name := by
  have same (name : Text) : Value.same (.text name) v = true ↔ v = .text name := by
    cases v with
    | text t => simp only [Value.same, beq_iff_eq, Value.text.injEq, eq_comm (a := name)]
    | _ => simp [Value.same]
  simp [holds, ofNames, same]

theorem holds_ofNames (names : List Text) (name : Text) :
    holds (ofNames names) (.text name) = true ↔ name ∈ names := by
  simp [holds_ofNames_iff]

/-- Whitelists of the same names hold the same users. -/
theorem holds_congr {names more : List Text} (same : ∀ name, name ∈ names ↔ name ∈ more)
    (v : Value) : holds (ofNames names) v = holds (ofNames more) v := by
  rw [Bool.eq_iff_iff, holds_ofNames_iff, holds_ofNames_iff]
  simp only [same]

theorem contains_congr {w other : Whitelist} {v : Value} (same : w.holds v = other.holds v) :
    w.contains v = other.contains v := by
  unfold contains
  split
  · rfl
  · rw [same]

@[simp] theorem contains_text (w : Whitelist) (name : Text) :
    w.contains (.text name) = .ok (holds w (.text name)) := rfl

/-- Adding a name keeps the others. -/
theorem add_ofNames (held : List Text) (first : Text) :
    ∃ next, add (ofNames held) (.text first) = ofNames next ∧
      ∀ name, name ∈ next ↔ name ∈ held ∨ name = first := by
  unfold add
  by_cases known : first ∈ held
  · rw [if_pos ((holds_ofNames held first).2 known)]
    refine ⟨held, rfl, fun name => ⟨.inl, ?_⟩⟩
    rintro (inHeld | rfl)
    · exact inHeld
    · exact known
  · rw [if_neg fun holds => known ((holds_ofNames held first).1 holds)]
    exact ⟨held ++ [first], by simp [ofNames], by simp⟩

/-- Adding names one by one adds those that are not empty. -/
theorem addAll_ofNames (held names : List Text) :
    ∃ all, addAll (ofNames held) (names.map .text) = .ok (ofNames all) ∧
      ∀ name, name ∈ all ↔ name ∈ held ∨ (name ∈ names ∧ name ≠ []) := by
  induction names generalizing held with
  | nil => exact ⟨held, rfl, by simp⟩
  | cons first rest ih =>
      by_cases empty : first = []
      · subst empty
        obtain ⟨all, added, mem⟩ := ih held
        refine ⟨all, added, fun name => ?_⟩
        rw [mem, List.mem_cons]
        constructor
        · rintro (inHeld | ⟨inRest, given⟩)
          · exact .inl inHeld
          · exact .inr ⟨.inr inRest, given⟩
        · rintro (inHeld | ⟨rfl | inRest, given⟩)
          · exact .inl inHeld
          · exact absurd rfl given
          · exact .inr ⟨inRest, given⟩
      · have truthy : (Value.text first).isTruthy = true := by
          simp [Value.isTruthy, empty]
        obtain ⟨next, added, memNext⟩ := add_ofNames held first
        obtain ⟨all, allAdded, mem⟩ := ih next
        refine ⟨all, ?_, fun name => ?_⟩
        · rw [List.map_cons, addAll, if_pos truthy]
          simp only [Value.unhashable?, added]
          exact allAdded
        · rw [mem, memNext, List.mem_cons]
          constructor
          · rintro ((inHeld | rfl) | ⟨inRest, given⟩)
            · exact .inl inHeld
            · exact .inr ⟨.inl rfl, empty⟩
            · exact .inr ⟨.inr inRest, given⟩
          · rintro (inHeld | ⟨rfl | inRest, given⟩)
            · exact .inl (.inl inHeld)
            · exact .inl (.inr rfl)
            · exact .inr ⟨inRest, given⟩

theorem ofList_ofNames (names : List Text) :
    ∃ all, ofList (names.map .text) = .ok (ofNames all) ∧
      ∀ name, name ∈ all ↔ name ∈ names ∧ name ≠ [] := by
  obtain ⟨all, added, mem⟩ := addAll_ofNames [] names
  refine ⟨all, ?_, fun name => by rw [mem]; simp⟩
  have start : addAll [] (names.map .text) = .ok (ofNames all) := added
  rw [ofList, start]
  rfl

/-- Well-typed users give the whitelist of their names without the empty one. -/
theorem ofValue_of_namesOf {users : Value} {names : List Text} (given : NamesOf users names) :
    ∃ all, ofValue users = .ok (ofNames all) ∧ ∀ name, name ∈ all ↔ name ∈ names ∧ name ≠ [] := by
  cases given with
  | nobody => exact ⟨[], rfl, by simp⟩
  | one name => exact ofList_ofNames [name]
  | many names =>
      cases names with
      | nil => exact ⟨[], rfl, by simp⟩
      | cons first rest => exact ofList_ofNames (first :: rest)

/-- A whitelist is made of a whitelist again. -/
theorem ofValue_set_ofNames (names : List Text) :
    ∃ all, ofValue (.set (ofNames names)) = .ok (ofNames all) ∧
      ∀ name, name ∈ all ↔ name ∈ names ∧ name ≠ [] := by
  cases names with
  | nil => exact ⟨[], rfl, by simp⟩
  | cons first rest => exact ofList_ofNames (first :: rest)

/-! ## Whitelists of any users -/

def CanJoin (user : Value) : Prop := user.unhashable? = none

/-- The users that a whitelist holds: no two are the same, none is empty, and each can be a
member. -/
structure IsNormal (w : Whitelist) : Prop where
  distinct : w.Pairwise fun a b => a.same b = false
  given : ∀ user ∈ w, user.isTruthy = true
  joins : ∀ user ∈ w, CanJoin user

theorem isNormal_nil : IsNormal [] := ⟨.nil, by simp, by simp⟩

theorem IsNormal.add {w : Whitelist} (normal : w.IsNormal) {user : Value}
    (given : user.isTruthy = true) (joins : CanJoin user) : (w.add user).IsNormal := by
  unfold Whitelist.add
  cases held : w.holds user with
  | true => exact normal
  | false =>
      have fresh : ∀ member ∈ w, member.same user = false := by simpa [holds] using held
      refine ⟨?_, ?_, ?_⟩
      · refine List.pairwise_append.2 ⟨normal.distinct, List.pairwise_singleton _ _, ?_⟩
        intro member inside added isUser
        rw [List.mem_singleton.1 isUser]
        exact fresh member inside
      · exact List.forall_mem_append.2 ⟨normal.given, List.forall_mem_singleton.2 given⟩
      · exact List.forall_mem_append.2 ⟨normal.joins, List.forall_mem_singleton.2 joins⟩

/-- Adding users one by one keeps to such users. -/
theorem IsNormal.addAll {users : List Value} {w all : Whitelist} (normal : w.IsNormal)
    (added : Whitelist.addAll w users = .ok all) : all.IsNormal := by
  induction users generalizing w with
  | nil =>
      cases added
      exact normal
  | cons first rest ih =>
      rw [Whitelist.addAll] at added
      split at added
      next given =>
        cases joins : first.unhashable? with
        | some typeName => simp [joins] at added
        | none =>
            rw [joins] at added
            exact ih (normal.add given joins) added
      next => exact ih normal added

theorem isNormal_of_ofList {users : List Value} {w : Whitelist} (made : ofList users = .ok w) :
    w.IsNormal := by
  unfold ofList at made
  cases added : addAll [] users with
  | error fault => simp [added] at made
  | ok all =>
      rw [added] at made
      cases made
      exact isNormal_nil.addAll added

/-- Whatever the users are, the whitelist that they give is a normal one. -/
theorem isNormal_of_ofValue {users : Value} {w : Whitelist} (made : ofValue users = .ok w) :
    w.IsNormal := by
  unfold ofValue at made
  split at made
  · exact isNormal_of_ofList made
  · split at made
    · obtain ⟨items, -, listed⟩ := bind_eq_ok_iff.1 made
      exact isNormal_of_ofList listed
    · cases made
      exact isNormal_nil

/-- Users that are not held yet come behind those that are. -/
theorem addAll_of_isNormal {held users : List Value} (normal : IsNormal (held ++ users)) :
    addAll held users = .ok (held ++ users) := by
  induction users generalizing held with
  | nil => rw [addAll, List.append_nil]
  | cons first rest ih =>
      have inside : first ∈ held ++ first :: rest := by simp
      have joins : first.unhashable? = none := normal.joins first inside
      have fresh : holds held first = false := by
        have apart := (List.pairwise_append.1 normal.distinct).2.2
        simp only [holds, List.any_eq_false, Bool.not_eq_true]
        exact fun member isHeld => apart member isHeld first List.mem_cons_self
      have added : add held first = held ++ [first] := by
        rw [add, fresh, if_neg Bool.false_ne_true]
      rw [addAll, if_pos (normal.given first inside), joins]
      simp only [added]
      rw [ih (by rwa [List.append_assoc]), List.append_assoc, List.singleton_append]

/-- **Making a whitelist of a whitelist gives it back.** -/
theorem ofValue_set_of_isNormal {w : Whitelist} (normal : w.IsNormal) :
    ofValue (.set w) = .ok w := by
  cases w with
  | nil => rfl
  | cons first rest =>
      have opened : ofValue (.set (first :: rest)) = ofList (first :: rest) := rfl
      have added : addAll [] (first :: rest) = .ok (first :: rest) := addAll_of_isNormal normal
      rw [opened, ofList, added]
      rfl

end Whitelist

end AdmissionGate
