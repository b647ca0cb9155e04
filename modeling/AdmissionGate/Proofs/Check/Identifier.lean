/-
# AdmissionGate.Proofs.Check.Identifier -- identifiers that are no texts

The identifier of a request is taken over into the answer whatever it is, a container
that holds itself not excluded.  Everything else in an answer can be written, so the
answer can be unless the identifier holds an integer that is too large
(`exists_answer_of_areShort`).

What is added to the table may stand in the answer, and so may what stands in the
identifier; `Continues` says that all of this can be written.
-/
import AdmissionGate.Proofs.Check.Answer
import AdmissionGate.Proofs.Value.Shown

namespace AdmissionGate

set_option autoImplicit false

open Yaml (Graph Spot)

namespace Yaml

/-- A value stands in another one, however far inside, or it is that value. -/
inductive Graph.Within (g : Graph) (n : Nat) : Nat → Prop
  | self : Within g n n
  | part {m p : Nat} (inside : Within g n m) (isPart : p ∈ Print.parts (g.cell m)) : Within g n p

/-- Every integer in a value has few enough digits to be written. -/
def Spot.AreShort (s : Spot) : Prop :=
  ∀ (m : Nat) (i : Int), s.graph.Within s.number m → s.graph.cell m = .scalar (.int i) →
    Json.isShort i = true

theorem Print.exists_ofValue {v : Value} (short : ∀ i, v = .int i → Json.isShort i = true) :
    ∃ s, Scalar.ofValue v = .ok s := by
  cases v with
  | int i =>
      have written := Value.shownIf_write i
      rw [short i rfl] at written
      obtain ⟨t, written⟩ := written
      exact ⟨⟨.int, t, false⟩, by rw [Scalar.ofValue, written]; rfl⟩
  | _ => exact ⟨_, rfl⟩

theorem Spot.isWritable_within {s : Spot} (short : s.AreShort) :
    Print.IsWritable s.graph (s.graph.Within s.number) where
  scalar m inside v cell := Print.exists_ofValue <| by
    rintro i rfl
    exact short m i inside cell
  parts _ inside _ isPart := .part inside isPart

end Yaml

namespace Check

section Continues

variable {α β : Type} {g h : Graph} {old : Nat → Prop}

/-- A number is one of the old ones, or it is not in the table yet. -/
def IsAmong (g : Graph) (old : Nat → Prop) (n : Nat) : Prop := old n ∨ g.cells.size ≤ n

/-- A table goes on after another one with values that can be written. -/
structure Continues (g : Graph) (old : Nat → Prop) (h : Graph) : Prop where
  reaches : g.Extends h
  scalar : ∀ n, g.cells.size ≤ n → ∀ v, h.cell n = .scalar v →
    ∃ s, Yaml.Print.Scalar.ofValue v = .ok s
  parts : ∀ n, g.cells.size ≤ n → ∀ m ∈ Yaml.Print.parts (h.cell n), IsAmong g old m

theorem Continues.isWritable (writable : Yaml.Print.IsWritable g old) (more : Continues g old h) :
    Yaml.Print.IsWritable h (IsAmong g old) where
  scalar n among v cell := by
    by_cases inside : n < g.cells.size
    · rw [more.reaches.cell n inside] at cell
      exact writable.scalar n (among.resolve_right (Nat.not_le.2 inside)) v cell
    · exact more.scalar n (Nat.not_lt.1 inside) v cell
  parts n among m isPart := by
    by_cases inside : n < g.cells.size
    · rw [more.reaches.cell n inside] at isPart
      exact .inl (writable.parts n (among.resolve_right (Nat.not_le.2 inside)) m isPart)
    · exact more.parts n (Nat.not_lt.1 inside) m isPart

theorem cell_of_size_le {n : Nat} (outside : g.cells.size ≤ n) :
    g.cell n = .scalar .null := by
  rw [Graph.cell, Array.getElem?_eq_none outside]
  rfl

theorem continues_refl (g : Graph) (old : Nat → Prop) : Continues g old g where
  reaches := .refl g
  scalar n outside v cell := by
    rw [cell_of_size_le outside] at cell
    cases cell
    exact ⟨_, rfl⟩
  parts n outside m isPart := by
    simp [cell_of_size_le outside, Yaml.Print.parts] at isPart

theorem cell_push_of_ne {c : Yaml.Cell} {n : Nat} (other : n ≠ h.cells.size) :
    Graph.cell { h with cells := h.cells.push c } n = h.cell n := by
  simp [Graph.cell, Array.getElem?_push, other]

theorem Continues.push (more : Continues g old h) {c : Yaml.Cell}
    (scalar : ∀ v, c = .scalar v → ∃ s, Yaml.Print.Scalar.ofValue v = .ok s)
    (parts : ∀ m ∈ Yaml.Print.parts c, IsAmong g old m) :
    Continues g old { h with cells := h.cells.push c } where
  reaches := more.reaches.trans (extends_push c)
  scalar n outside v cell := by
    by_cases new : n = h.cells.size
    · subst new
      rw [cell_push] at cell
      exact scalar v cell
    · rw [cell_push_of_ne new] at cell
      exact more.scalar n outside v cell
  parts n outside m isPart := by
    by_cases new : n = h.cells.size
    · subst new
      rw [cell_push] at isPart
      exact parts m isPart
    · rw [cell_push_of_ne new] at isPart
      exact more.parts n outside m isPart

end Continues

/-! ## Adding values -/

section Keeps

variable {α β : Type} {g h : Graph} {old : Nat → Prop}

/-- What is added to a table lets it continue another one, and then something holds of the result
and of the number of the root. -/
def Keeps (g : Graph) (old : Nat → Prop) (h : Graph) (m : Adding α)
    (post : α → Nat → Prop) : Prop :=
  Continues g old h → Continues g old (m.run h).2 ∧ post (m.run h).1 (m.run h).2.root

theorem Keeps.bind {m : Adding α} {f : α → Adding β} {between : α → Prop}
    {post : β → Nat → Prop} (first : Keeps g old h m fun a _ => between a)
    (next : ∀ a i, between a → Keeps g old i (f a) post) : Keeps g old h (m >>= f) post := by
  intro more
  obtain ⟨reached, holds⟩ := first more
  exact next _ _ holds reached

theorem Keeps.pure {a : α} {post : α → Prop} (holds : post a) :
    Keeps g old h (Pure.pure a) fun a _ => post a := fun more => ⟨more, holds⟩

theorem Keeps.mapM {f : α → Adding β} (post : β → Prop) {xs : List α}
    (each : ∀ x ∈ xs, ∀ i, Keeps g old i (f x) fun y _ => post y) :
    Keeps g old h (xs.mapM f) fun ys _ => ∀ y ∈ ys, post y := by
  induction xs generalizing h with
  | nil =>
      rw [List.mapM_nil]
      exact .pure fun _ impossible => absurd impossible List.not_mem_nil
  | cons x rest ih =>
      obtain ⟨first, others⟩ := List.forall_mem_cons.1 each
      rw [List.mapM_cons]
      refine (first h).bind fun y i holds => (ih others).bind fun ys j allHold => ?_
      exact .pure (List.forall_mem_cons.2 ⟨holds, allHold⟩)

theorem keeps_add {c : Yaml.Cell}
    (scalar : ∀ v, c = .scalar v → ∃ s, Yaml.Print.Scalar.ofValue v = .ok s)
    (parts : ∀ m ∈ Yaml.Print.parts c, IsAmong g old m) :
    Keeps g old h (add c) fun n _ => IsAmong g old n :=
  fun more => ⟨more.push scalar parts, .inr more.reaches.size⟩

theorem keeps_scalar {v : Value} (written : ∃ s, Yaml.Print.Scalar.ofValue v = .ok s) :
    Keeps g old h (add (.scalar v)) fun n _ => IsAmong g old n :=
  keeps_add (fun _ same => by cases same; exact written) fun _ impossible => by cases impossible

theorem keeps_map {members : List (Text × Nat)} (among : ∀ m ∈ members, IsAmong g old m.2) :
    Keeps g old h (addMap members) fun n _ => IsAmong g old n := by
  refine Keeps.bind (Keeps.mapM (fun e => IsAmong g old e.1 ∧ IsAmong g old e.2)
    fun m member i => ?_) fun entries i both => ?_
  · exact (keeps_scalar ⟨_, rfl⟩).bind fun k _ key => .pure ⟨key, among m member⟩
  · refine keeps_add (fun _ impossible => by cases impossible) fun p isPart => ?_
    simp only [Yaml.Print.parts, List.mem_flatMap] at isPart
    obtain ⟨e, member, isPart⟩ := isPart
    simp only [List.mem_cons, List.not_mem_nil, or_false] at isPart
    rcases isPart with rfl | rfl
    · exact (both e member).1
    · exact (both e member).2

end Keeps

/-! ## The answer -/

variable {g : Graph} {r : Spot} {old : Nat → Prop} {v : Verdict}

theorem keeps_identifier (found : Review.requestOf (rootOf g) = .ok r)
    (among : ∀ uid : Spot, Outline.member? r "uid" = some uid → old uid.number) :
    Keeps g old g identifier fun n _ => IsAmong g old n := by
  unfold Keeps
  rw [identifier_run found]
  cases given : Outline.member? r "uid" with
  | none => exact keeps_scalar ⟨_, rfl⟩
  | some uid => exact Keeps.pure (.inl (among uid given))

theorem keeps_answer (found : Review.requestOf (rootOf g) = .ok r)
    (among : ∀ uid : Spot, Outline.member? r "uid" = some uid → old uid.number)
    (written : CanBeWritten v) : Keeps g old g (addAnswer v) fun _ root => IsAmong g old root := by
  unfold addAnswer
  refine (keeps_identifier found among).bind fun uid _ uidAmong => ?_
  refine (Keeps.mapM (fun m : Text × Nat => IsAmong g old m.2) fun member given _ =>
    (keeps_scalar (written member given)).bind fun n _ among => .pure among).bind
      fun members _ membersAmong => ?_
  refine (keeps_map membersAmong).bind fun status _ statusAmong => ?_
  refine (keeps_scalar ⟨_, rfl⟩).bind fun allowed _ allowedAmong => ?_
  refine (keeps_map (by simp [uidAmong, statusAmong, allowedAmong])).bind
    fun response _ responseAmong => ?_
  refine (keeps_scalar ⟨_, rfl⟩).bind fun version _ versionAmong => ?_
  refine (keeps_scalar ⟨_, rfl⟩).bind fun kind _ kindAmong => ?_
  refine (keeps_map (by simp [versionAmong, kindAmong, responseAmong])).bind
    fun root _ rootAmong more => ?_
  -- Only the root changes in the last step.
  exact ⟨⟨⟨more.reaches.size, more.reaches.cell⟩, more.scalar, more.parts⟩, rootAmong⟩

/-- **The answer is written if the identifier has no integer that is too large.** -/
theorem exists_answer_of_areShort (found : Review.requestOf (rootOf g) = .ok r)
    (short : ∀ uid : Spot, Outline.member? r "uid" = some uid → uid.AreShort)
    (written : CanBeWritten v) : ∃ t, answer g v = .ok t := by
  -- Without an identifier nothing old stands in the answer.
  let old (n : Nat) : Prop :=
    ∃ uid : Spot, Outline.member? r "uid" = some uid ∧ g.Within uid.number n
  have table {uid : Spot} (given : Outline.member? r "uid" = some uid) : uid.graph = g :=
    (Spot.graph_of_member? given).trans (Review.graph_of_requestOf found)
  have writable : Yaml.Print.IsWritable g old := by
    refine ⟨?_, ?_⟩
    · rintro n ⟨uid, given, within⟩ v cell
      rw [← table given] at within cell
      exact (Spot.isWritable_within (short uid given)).scalar n within v cell
    · rintro n ⟨uid, given, within⟩ m isPart
      exact ⟨uid, given, within.part isPart⟩
  have kept : Keeps g old g (addAnswer v) fun _ root => IsAmong g old root :=
    keeps_answer found (fun uid given => ⟨uid, given, .self⟩) written
  obtain ⟨more, root⟩ := kept (continues_refl g old)
  obtain ⟨t, printed⟩ := Graph.exists_print (more.isWritable writable) root
  exact ⟨t, by rw [answer, printed]; rfl⟩

end Check

end AdmissionGate
