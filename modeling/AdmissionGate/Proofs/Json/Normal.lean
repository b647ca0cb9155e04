/-
# AdmissionGate.Proofs.Json.Normal -- what is left of a value that was written

Writing a value forgets how it is held: a tuple becomes a list, a date, a time or
a byte string the text it is displayed as, a key the text that names it.  Reading
joins a high and a low surrogate half in a row to the code point they encode, and
of two members with one name it keeps the first place and the last value.
`normal` is that value, stated on the value itself.

`isTree` tells the values for which it is what is read back, and `depth` how many
containers they open inside one another.
-/
import AdmissionGate.Json.Writer

namespace AdmissionGate

set_option autoImplicit false

namespace Json

/-- The text in which a high surrogate half right before a low one is the code point that the two
encode. -/
def merged : Text → Text
  | [] => []
  | [c] => [c]
  | c :: d :: t =>
    if c.isHighSurrogate && d.isLowSurrogate then Code.ofSurrogates c d :: merged t
    else c :: merged (d :: t)

/-- The text that names a key; only texts, integers, truth values and null have one. -/
def nameOf : Value → Text
  | .text t => t
  | .null => "null"
  | .bool b => if b then "true" else "false"
  | .int n => Text.ofInt n
  | _ => []

mutual

/-- The value that is read back where a value was written. -/
def normal : Value → Value
  | .text t => .text (merged t)
  | .list items | .tuple items => .list (normalItems items)
  | .map entries => .map (Entries.ofList (normalEntries entries))
  | .bytes b => .text b.quoted
  | .date d => .text d.iso
  | .dateTime t => .text (t.iso ' ')
  | v => v

def normalItems : List Value → List Value
  | [] => []
  | x :: xs => normal x :: normalItems xs

/-- The members of an object as they are read back; two of them may have one name. -/
def normalEntries : List (Value × Value) → List (Value × Value)
  | [] => []
  | (k, v) :: rest => (.text (merged (nameOf k)), normal v) :: normalEntries rest

end

def isShort (n : Int) : Bool := (Text.ofNat n.natAbs).length ≤ Integer.maxDigits

def isName : Value → Bool
  | .text _ | .null | .bool _ => true
  | .int n => isShort n
  | _ => false

mutual

/-- Whether a value is a tree of texts, short integers, truth values, nulls, dates, times and byte
strings, in lists, tuples and maps with names as keys. -/
def isTree : Value → Bool
  | .null | .bool _ | .text _ | .bytes _ | .date _ | .dateTime _ => true
  | .int n => isShort n
  | .list items | .tuple items => areTrees items
  | .map entries => areMembers entries
  | .float _ | .set _ | .model _ _ | .enclosing _ => false

def areTrees : List Value → Bool
  | [] => true
  | x :: xs => isTree x && areTrees xs

def areMembers : List (Value × Value) → Bool
  | [] => true
  | (k, v) :: rest => isName k && isTree v && areMembers rest

end

mutual

def depth : Value → Nat
  | .list items | .tuple items => depthOfItems items + 1
  | .map entries => depthOfEntries entries + 1
  | _ => 0

def depthOfItems : List Value → Nat
  | [] => 0
  | x :: xs => max (depth x) (depthOfItems xs)

def depthOfEntries : List (Value × Value) → Nat
  | [] => 0
  | (_, v) :: rest => max (depth v) (depthOfEntries rest)

end

/-! ## What is written -/

theorem writeInt_of_isShort {n : Int} (short : isShort n = true) :
    writeInt n = .ok (Text.ofInt n) := by
  have bound : (Text.ofNat n.natAbs).length ≤ Integer.maxDigits := by simpa [isShort] using short
  simp only [writeInt, Integer.write, if_pos bound]

theorem keyName_of_isName {k : Value} (named : isName k = true) : keyName k = .ok (nameOf k) := by
  cases k with
  | null => rfl
  | bool b => cases b <;> rfl
  | text t => rfl
  | int n => exact writeInt_of_isShort (by simpa [isName] using named)
  | _ => simp [isName] at named

theorem write_list {items : List Value} {t : Text} :
    write (.list items) = .ok t ↔ ∃ parts, writeItems items = .ok parts ∧
      t = ('[' : Code) :: (Text.join ", " parts ++ [(']' : Code)]) := by
  rw [write]
  cases writeItems items with
  | error cause => simp [bind, Except.bind]
  | ok parts =>
    simp only [bind, Except.bind, pure, Except.pure, Except.ok.injEq, exists_eq_left']
    rw [eq_comm]
    rfl

end Json

end AdmissionGate
