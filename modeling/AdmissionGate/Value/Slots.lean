/-
# AdmissionGate.Value.Slots -- the order of the numbers in a set

A set keeps its members in the slots of a table, and they are walked slot by slot.
The table of a few members has eight slots, and that of more has the least power of
two that is more than twice their number.  A number takes the slot that its residue
tells, or else, in order of insertion, the next free one on its path: the nine slots
behind, as far as the table has that many, and then on to another slot in the same
way.

Only the slots of numbers are fixed; a set with other members keeps the order of
insertion.
-/
import AdmissionGate.Value.Order

namespace AdmissionGate

/-- The residue of an amount, with its sign; there is none of the undefined amount, and -2 stands
for -1. -/
def Amount.residue? : Amount → Option Int
  | undefined => none
  | infinite negative => some (if negative then -314159 else 314159)
  | finite n exponent =>
    let r : Nat := n.natAbs * Nat.pow 2 (exponent.emod 61).toNat % 2305843009213693951
    let signed : Int := if n < 0 then -r else r
    some (if signed = -1 then -2 else signed)

namespace Slots

def residue? (v : Value) : Option Int := v.amount?.bind Amount.residue?

def tableSize (members : Nat) : Nat :=
  if members < 5 then 8 else Nat.pow 2 (Nat.log2 (2 * members) + 1)

/-- A slot and the nine behind it, or the slot alone if the table ends before. -/
def stretch (size slot : Nat) : List Nat :=
  if slot + 9 < size then List.range' slot 10 else [slot]

/-- The first free slot on the path from a slot; `rest` is what is left of the residue to tell how
the path goes on. -/
def freeSlot {α : Type} (table : Array (Option α)) : (fuel : Nat) → (slot rest : Nat) → Nat
  | 0, slot, _ => slot
  | fuel + 1, slot, rest =>
    match (stretch table.size slot).find? fun s => (table[s]?).join.isNone with
    | some free => free
    | none =>
      let rest := rest / 32
      freeSlot table fuel ((slot * 5 + 1 + rest) % table.size) rest

/-- The table with one more member.  A path that no residue bends comes to every slot. -/
def place {α : Type} (table : Array (Option α)) (residue : Int) (member : α) : Array (Option α) :=
  let word : Nat := (residue.emod (Nat.pow 2 64)).toNat
  table.setIfInBounds (freeSlot table (table.size + 64) (word % table.size) word) (some member)

/-- The members of a set, which are given in order of insertion, slot by slot. -/
def inOrder {α : Type} (value : α → Value) (members : List α) : List α :=
  match members.mapM fun m => (residue? (value m)).map (·, m) with
  | none => members
  | some placed =>
    let empty : Array (Option α) := Array.replicate (tableSize members.length) none
    (placed.foldl (fun table (residue, m) => place table residue m) empty).toList.filterMap id

end Slots

end AdmissionGate
