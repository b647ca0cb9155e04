/-
# AdmissionGate.Proofs.Yaml.Spells -- tables in which parts come first

A value that is put together from the inside out lies in its table below its
containers: the number of each part is less than that of the container it is in.
So no container stands inside itself, the value at a number is spelled out without
an end to the table being met (`Spells.value`), and adding to the table changes
nothing about it (`Spells.extend`).
-/
import AdmissionGate.Yaml.Print.Graph

namespace AdmissionGate

set_option autoImplicit false

namespace Yaml

namespace Graph

/-- The value at a number is made of scalars that can be written, in maps that lie above their
keys and values. -/
inductive Spells (g : Graph) : Nat → Value → Prop
  | scalar {n : Nat} {v : Value} {s : Print.Scalar} (cell : g.cell n = .scalar v)
      (written : Print.Scalar.ofValue v = .ok s) : Spells g n v
  | map {n : Nat} {members : List ((Nat × Nat) × (Value × Value))}
      (cell : g.cell n = .map (members.map Prod.fst))
      (below : ∀ m ∈ members, m.1.1 < n ∧ m.1.2 < n)
      (keys : ∀ m ∈ members, Spells g m.1.1 m.2.1)
      (values : ∀ m ∈ members, Spells g m.1.2 m.2.2) :
      Spells g n (.map (members.map Prod.snd))

structure Extends (g h : Graph) : Prop where
  size : g.cells.size ≤ h.cells.size
  cell : ∀ n < g.cells.size, h.cell n = g.cell n

/-- A value lies in a table at a number. -/
def Holds (g : Graph) (n : Nat) (v : Value) : Prop := n < g.cells.size ∧ g.Spells n v

variable {g h : Graph} {n : Nat} {v : Value}

namespace Extends

theorem refl (g : Graph) : g.Extends g := ⟨Nat.le_refl _, fun _ _ => rfl⟩

theorem trans {i : Graph} (first : g.Extends h) (second : h.Extends i) : g.Extends i where
  size := Nat.le_trans first.size second.size
  cell n inside := by
    rw [second.cell n (Nat.lt_of_lt_of_le inside first.size), first.cell n inside]

end Extends

namespace Spells

/-- Inside containers that lie above it, a value is spelled out as it is. -/
theorem valueInside (spells : g.Spells n v) : ∀ {fuel : Nat} {path : List Nat},
    n < fuel → (∀ p ∈ path, n < p) → g.valueInside fuel path n = v := by
  induction spells with
  | scalar cell _ =>
      intro fuel path enough outside
      cases fuel with
      | zero => exact absurd enough (Nat.not_lt_zero _)
      | succ fuel => rw [Graph.valueInside, cell]
  | @map n members cell below _ _ keys values =>
      intro fuel path enough outside
      cases fuel with
      | zero => exact absurd enough (Nat.not_lt_zero _)
      | succ fuel =>
          have fresh : path.contains n = false := by
            rw [List.contains_eq_mem, decide_eq_false_iff_not]
            exact fun member => Nat.lt_irrefl n (outside n member)
          have inner {m : Nat} (less : m < n) : m < fuel ∧ ∀ p ∈ n :: path, m < p := by
            refine ⟨Nat.lt_of_lt_of_le less (Nat.le_of_lt_succ enough), ?_⟩
            exact List.forall_mem_cons.2
              ⟨less, fun p member => Nat.lt_trans less (outside p member)⟩
          rw [Graph.valueInside, cell]
          simp only [fresh, Bool.false_eq_true, if_false, List.map_map, Value.map.injEq]
          refine List.map_congr_left fun m member => ?_
          obtain ⟨keyInner, keyPath⟩ := inner (below m member).1
          obtain ⟨valueInner, valuePath⟩ := inner (below m member).2
          exact Prod.ext (keys m member keyInner keyPath) (values m member valueInner valuePath)

theorem value (spells : g.Spells n v) (inside : n < g.cells.size) : g.value n = v :=
  spells.valueInside (Nat.lt_succ_of_lt inside) fun _ member => absurd member List.not_mem_nil

/-- What goes on after a table leaves its values as they are. -/
theorem extend (spells : g.Spells n v) (inside : n < g.cells.size) (more : g.Extends h) :
    h.Spells n v := by
  induction spells with
  | scalar cell written => exact .scalar (by rw [more.cell _ inside, cell]) written
  | @map n members cell below _ _ keys values =>
      refine .map (by rw [more.cell _ inside, cell]) below (fun m member => ?_) fun m member => ?_
      · exact keys m member (Nat.lt_trans (below m member).1 inside)
      · exact values m member (Nat.lt_trans (below m member).2 inside)

end Spells

theorem Holds.extend (holds : g.Holds n v) (more : g.Extends h) : h.Holds n v :=
  ⟨Nat.lt_of_lt_of_le holds.1 more.size, holds.2.extend holds.1 more⟩

end Graph

end Yaml

end AdmissionGate
