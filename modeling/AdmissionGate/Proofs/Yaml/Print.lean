/-
# AdmissionGate.Proofs.Yaml.Print -- documents that can be written

Writing a document can only fail at an integer that is too large.  So it is enough
that the scalars that are met can be written: `IsWritable` tells of some numbers of
a table that their scalars can, and that they hold all their parts among them, and
from each of them on a document is written (`node_succeeds`), in any role, whatever
is shared and as deep as the table allows.
-/
import AdmissionGate.Proofs.Yaml.Spells

namespace AdmissionGate

set_option autoImplicit false

namespace Yaml

namespace Print

/-- Something is written, wherever the writing stands. -/
def Succeeds {α : Type} (m : Printing α) : Prop := ∀ s, ∃ a t, m.run s = .ok (a, t)

namespace Succeeds

variable {α β : Type}

theorem pure (a : α) : Succeeds (Pure.pure a : Printing α) := fun s => ⟨a, s, rfl⟩

theorem bind {m : Printing α} {f : α → Printing β} (first : Succeeds m)
    (next : ∀ a, Succeeds (f a)) : Succeeds (m >>= f) := by
  intro s
  obtain ⟨a, t, ran⟩ := first s
  obtain ⟨b, u, more⟩ := next a t
  exact ⟨b, u, by rw [StateT.run_bind, ran]; exact more⟩

theorem get : Succeeds (MonadState.get : Printing Sheet) := fun s => ⟨s, s, rfl⟩

theorem modified (f : Sheet → Sheet) : Succeeds (modify f : Printing Unit) :=
  fun s => ⟨(), f s, rfl⟩

theorem draw (f : Pen → Pen) : Succeeds (Print.draw f) := modified _

theorem ite {b : Prop} [Decidable b] {m k : Printing α} (yes : b → Succeeds m)
    (no : ¬ b → Succeeds k) : Succeeds (if b then m else k) := by
  by_cases holds : b
  · rw [if_pos holds]
    exact yes holds
  · rw [if_neg holds]
    exact no holds

theorem forM {xs : List β} {f : β → Printing Unit} (each : ∀ x ∈ xs, Succeeds (f x)) :
    Succeeds (xs.forM f) := by
  induction xs with
  | nil => exact pure ()
  | cons x rest ih =>
      obtain ⟨first, others⟩ := List.forall_mem_cons.1 each
      exact bind first fun _ => ih others

end Succeeds

/-- The scalars among some numbers of a table can be written, and with a container its parts are
among them. -/
structure IsWritable (g : Graph) (among : Nat → Prop) : Prop where
  scalar : ∀ n, among n → ∀ v, g.cell n = .scalar v → ∃ s, Scalar.ofValue v = .ok s
  parts : ∀ n, among n → ∀ m ∈ parts (g.cell n), among m

section Node

variable {g : Graph} {among : Nat → Prop}

theorem scalar_succeeds {v : Value} (written : ∃ s, Scalar.ofValue v = .ok s) :
    Succeeds (scalar v) := by
  obtain ⟨s, written⟩ := written
  rw [scalar, written]
  exact .pure s

theorem isSimpleKey_succeeds (writable : IsWritable g among) (shared : List Nat) {k : Nat}
    (member : among k) : Succeeds (isSimpleKey g shared k) := by
  refine .bind .get fun sheet => .ite (fun _ => .pure _) fun _ => ?_
  cases cell : g.cell k with
  | scalar v => exact .bind (scalar_succeeds (writable.scalar k member v cell)) fun _ => .pure _
  | _ => exact .pure false

variable {write : NodePrinter}

theorem key_succeeds {indent k : Nat} (isSimple : Bool)
    (each : ∀ role indent, Succeeds (write role indent k)) :
    Succeeds (key write indent isSimple k) := by
  refine .bind (.draw _) fun _ => .ite (fun _ => ?_) fun _ => ?_
  · exact .bind (each .key _) fun _ => .draw _
  · exact .bind (.draw _) fun _ => .bind (each .value _) fun _ => .draw _

theorem items_succeeds {role : Role} {indent : Option Nat} {xs : List Nat}
    (each : ∀ x ∈ xs, ∀ role indent, Succeeds (write role indent x)) :
    Succeeds (items write role indent xs) := by
  refine .ite (fun _ => .draw _) fun _ => .bind .get fun sheet => ?_
  exact .forM fun x member => .bind (.draw _) fun _ => each x member _ _

theorem entries_succeeds (writable : IsWritable g among) (shared : List Nat) {indent : Option Nat}
    {es : List (Nat × Option Nat)} (keys : ∀ e ∈ es, among e.1)
    (each : ∀ e ∈ es, ∀ n, n = e.1 ∨ e.2 = some n →
      ∀ role indent, Succeeds (write role indent n)) :
    Succeeds (entries g shared write indent es) := by
  refine .ite (fun _ => .draw _) fun _ => .forM fun (k, v) member => ?_
  refine .bind (isSimpleKey_succeeds writable shared (keys _ member)) fun isSimple => ?_
  refine .bind (key_succeeds isSimple (each _ member k (.inl rfl))) fun _ => ?_
  cases v with
  | none => exact .draw _
  | some v => exact each _ member v (.inr rfl) _ _

/-- A value is written if its parts are. -/
theorem content_succeeds (writable : IsWritable g among) (shared : List Nat) {n : Nat}
    (member : among n)
    (each : ∀ m ∈ parts (g.cell n), ∀ role indent, Succeeds (write role indent m)) (role : Role)
    (indent : Option Nat) : Succeeds (content g shared write role indent (g.cell n)) := by
  have inside := writable.parts n member
  cases cell : g.cell n with
  | scalar v =>
      exact .bind (scalar_succeeds (writable.scalar n member v cell)) fun _ => .draw _
  | list items =>
      rw [cell] at each
      exact items_succeeds each
  | tuple items =>
      rw [cell] at each
      exact items_succeeds each
  | set items =>
      rw [cell] at each inside
      refine .bind (.draw _) fun _ => entries_succeeds writable shared ?_ ?_
      · rintro e found
        obtain ⟨k, isItem, rfl⟩ := List.mem_map.1 found
        exact inside k isItem
      · rintro e found m which
        obtain ⟨k, isItem, rfl⟩ := List.mem_map.1 found
        rcases which with rfl | impossible
        · exact each m isItem
        · cases impossible
  | map es =>
      rw [cell] at each inside
      have parts_of {k v : Nat} (isEntry : (k, v) ∈ es) :
          k ∈ parts (.map es) ∧ v ∈ parts (.map es) := by
        simp only [parts, List.mem_flatMap]
        exact ⟨⟨(k, v), isEntry, by simp⟩, ⟨(k, v), isEntry, by simp⟩⟩
      refine entries_succeeds writable shared ?_ ?_
      · rintro e found
        obtain ⟨⟨k, v⟩, isEntry, rfl⟩ := List.mem_map.1 found
        exact inside k (parts_of isEntry).1
      · rintro e found m which
        obtain ⟨⟨k, v⟩, isEntry, rfl⟩ := List.mem_map.1 found
        rcases which with rfl | same
        · exact each _ (parts_of isEntry).1
        · cases same
          exact each _ (parts_of isEntry).2

/-- By induction on how deep the writing may go: the parts of a value are written one level
further in. -/
theorem node_succeeds (writable : IsWritable g among) (shared : List Nat) (fuel : Nat) :
    ∀ {n : Nat}, among n → ∀ role indent, Succeeds (node g shared fuel role indent n) := by
  induction fuel with
  | zero => exact fun _ _ _ => .pure ()
  | succ fuel ih =>
      intro n member role indent
      have inner : Succeeds (content g shared (node g shared fuel) role indent (g.cell n)) :=
        content_succeeds writable shared member
          (fun m isPart => ih (writable.parts n member m isPart)) role indent
      rw [node]
      cases anchor? shared n with
      | none => exact inner
      | some name =>
          refine .bind .get fun sheet => .ite (fun _ => .draw _) fun _ => ?_
          exact .bind (.draw _) fun _ => .bind (.modified _) fun _ => inner

end Node

end Print

namespace Graph

/-- **A document whose scalars can be written is written.** -/
theorem exists_print {g : Graph} {among : Nat → Prop} (writable : Print.IsWritable g among)
    (root : among g.root) : ∃ t, g.print = .ok t := by
  obtain ⟨a, s, ran⟩ := Print.node_succeeds writable (Print.anchored g) (g.cells.size + 1) root
    .root none {}
  rw [Graph.print, ran]
  exact ⟨_, rfl⟩

/-- The parts of a value that is spelled out are spelled out. -/
theorem isWritable_spells (g : Graph) : Print.IsWritable g fun n => ∃ v, g.Spells n v where
  scalar := by
    rintro n ⟨_, spells⟩ v cell
    cases spells with
    | scalar same written =>
        rw [same] at cell
        cases cell
        exact ⟨_, written⟩
    | map same => simp [same] at cell
  parts := by
    rintro n ⟨_, spells⟩ part isPart
    cases spells with
    | scalar same => simp [same, Print.parts] at isPart
    | map same _ keys values =>
        rw [same] at isPart
        simp only [Print.parts, List.mem_flatMap, List.mem_map] at isPart
        obtain ⟨_, ⟨m, member, rfl⟩, isPart⟩ := isPart
        simp only [List.mem_cons, List.not_mem_nil, or_false] at isPart
        rcases isPart with rfl | rfl
        · exact ⟨_, keys m member⟩
        · exact ⟨_, values m member⟩

end Graph

end Yaml

end AdmissionGate
