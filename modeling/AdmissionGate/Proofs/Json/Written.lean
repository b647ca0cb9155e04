/-
# AdmissionGate.Proofs.Json.Written -- the values that can be written

Three things keep a value from being written: a key that has no name in JSON, an
integer with too many digits, and a container inside itself.  The first of them that
the writer comes to is its answer, and only the key is a matter of types.  So beside
`isWritable` there is `isMisnamed`, for the values in which a key without a name comes
first (`writtenIf_write`).
-/
import AdmissionGate.Json.Writer
import AdmissionGate.Proofs.Value.Shown

namespace AdmissionGate

set_option autoImplicit false

namespace Json

/-- Whether a key is of a type that has names. -/
def canBeNamed : Value → Bool
  | .text _ | .null | .bool _ | .int _ | .float _ => true
  | _ => false

mutual

/-- Whether a value can be written: every key has a name, every integer has few enough digits, and
no container stands inside itself. -/
def isWritable : Value → Bool
  | .list items | .tuple items => areWritable items
  | .map entries => areWritableEntries entries
  | .enclosing _ => false
  | v => v.isShowable

def areWritable : List Value → Bool
  | [] => true
  | x :: xs => isWritable x && areWritable xs

def areWritableEntries : List (Value × Value) → Bool
  | [] => true
  | (k, v) :: rest => (canBeNamed k && k.isShowable) && (isWritable v && areWritableEntries rest)

end

mutual

/-- Whether the first thing in a value that cannot be written is a key without a name. -/
def isMisnamed : Value → Bool
  | .list items | .tuple items => areMisnamed items
  | .map entries => areMisnamedEntries entries
  | _ => false

def areMisnamed : List Value → Bool
  | [] => false
  | x :: xs => isMisnamed x || isWritable x && areMisnamed xs

def areMisnamedEntries : List (Value × Value) → Bool
  | [] => false
  | (k, v) :: rest =>
    !canBeNamed k || (canBeNamed k && k.isShowable) &&
      (isMisnamed v || isWritable v && areMisnamedEntries rest)

end

/-- Something is written if nothing keeps it from that; otherwise it is refused, for a key without a
name or for the value that it has. -/
def WrittenIf {α : Type} (writable misnamed : Bool) (x : Except WriteFault α) : Prop :=
  (writable = true ∧ misnamed = false ∧ ∃ part, x = .ok part) ∨
    (writable = false ∧ misnamed = true ∧ ∃ typeName, x = .error (.key typeName)) ∨
    writable = false ∧ misnamed = false ∧ (x = .error (.integer .tooLarge) ∨ x = .error .circular)

theorem writtenIf_ok {α : Type} (part : α) : WrittenIf true false (.ok part) :=
  .inl ⟨rfl, rfl, part, rfl⟩

/-- What is written first decides, unless it is written. -/
theorem writtenIf_bind {α β : Type} {first second misnamed alsoMisnamed : Bool}
    {x : Except WriteFault α} {f : α → Except WriteFault β} (written : WrittenIf first misnamed x)
    (next : ∀ part, WrittenIf second alsoMisnamed (f part)) :
    WrittenIf (first && second) (misnamed || first && alsoMisnamed) (x >>= f) := by
  rcases written with ⟨rfl, rfl, part, rfl⟩ | ⟨rfl, rfl, typeName, rfl⟩ | ⟨rfl, rfl, rfl | rfl⟩
  · exact next part
  · exact .inr (.inl ⟨rfl, rfl, typeName, rfl⟩)
  · exact .inr (.inr ⟨rfl, rfl, .inl rfl⟩)
  · exact .inr (.inr ⟨rfl, rfl, .inr rfl⟩)

theorem writtenIf_map {α β : Type} {writable misnamed : Bool} {x : Except WriteFault α}
    (written : WrittenIf writable misnamed x) (f : α → β) :
    WrittenIf writable misnamed (x >>= fun part => pure (f part)) := by
  have both := writtenIf_bind written fun part => writtenIf_ok (f part)
  rwa [Bool.and_true, Bool.and_false, Bool.or_false] at both

theorem writtenIf_of_shownIf {showable : Bool} {x : Except Integer.Fault Text} {α : Type}
    {y : Except WriteFault α} (shown : Value.ShownIf showable x)
    (same : ∀ t, x = .ok t → ∃ part, y = .ok part)
    (refused : x = .error .tooLarge → y = .error (.integer .tooLarge)) :
    WrittenIf showable false y := by
  cases showable with
  | true =>
      obtain ⟨t, shown⟩ := shown
      exact .inl ⟨rfl, rfl, same t shown⟩
  | false => exact .inr (.inr ⟨rfl, rfl, .inl (refused shown)⟩)

theorem writtenIf_writeInt (n : Int) : WrittenIf (isShort n) false (writeInt n) :=
  writtenIf_of_shownIf (Value.shownIf_write n)
    (fun t shown => ⟨t, by rw [writeInt, shown]⟩) fun refused => by rw [writeInt, refused]

theorem writtenIf_writeDisplayed (v : Value) : WrittenIf v.isShowable false (writeDisplayed v) :=
  writtenIf_of_shownIf (Value.shownIf_display v)
    (fun t shown => ⟨writeText t, by rw [writeDisplayed, shown]⟩)
    fun refused => by rw [writeDisplayed, refused]

theorem writtenIf_keyName (k : Value) :
    WrittenIf (canBeNamed k && k.isShowable) (!canBeNamed k) (keyName k) := by
  cases k with
  | int n => exact writtenIf_writeInt n
  | text t => exact writtenIf_ok _
  | null => exact writtenIf_ok _
  | bool b => exact writtenIf_ok _
  | float x => exact writtenIf_ok _
  | _ => exact .inr (.inl ⟨rfl, rfl, _, rfl⟩)

mutual

/-- **A value is written unless one of the three keeps it from that.** -/
theorem writtenIf_write : (v : Value) → WrittenIf (isWritable v) (isMisnamed v) (write v)
  | .null | .bool _ | .float _ | .text _ => by
      rw [write]
      exact writtenIf_ok _
  | .int n => by
      rw [write]
      exact writtenIf_writeInt n
  | .list items | .tuple items => by
      rw [isWritable, isMisnamed, write]
      exact writtenIf_map (writtenIf_writeItems items) _
  | .map entries => by
      rw [isWritable, isMisnamed, write]
      exact writtenIf_map (writtenIf_writeEntries entries) _
  | .enclosing _ => .inr (.inr ⟨rfl, rfl, .inr rfl⟩)
  | .bytes _ | .date _ | .dateTime _ | .set _ | .model _ _ => by
      rw [write]
      exact writtenIf_writeDisplayed _

theorem writtenIf_writeItems :
    (items : List Value) → WrittenIf (areWritable items) (areMisnamed items) (writeItems items)
  | [] => writtenIf_ok []
  | x :: xs => by
      rw [areWritable, areMisnamed, writeItems]
      exact writtenIf_bind (writtenIf_write x) fun _ => writtenIf_map (writtenIf_writeItems xs) _

theorem writtenIf_writeEntries :
    (entries : List (Value × Value)) →
      WrittenIf (areWritableEntries entries) (areMisnamedEntries entries) (writeEntries entries)
  | [] => writtenIf_ok []
  | (k, v) :: rest => by
      rw [areWritableEntries, areMisnamedEntries, writeEntries]
      refine writtenIf_bind (writtenIf_keyName k) fun _ => ?_
      exact writtenIf_bind (writtenIf_write v) fun _ =>
        writtenIf_map (writtenIf_writeEntries rest) _

end

end Json

end AdmissionGate
