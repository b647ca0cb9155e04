/-
# AdmissionGate.Encoding.Base64 -- bytes as letters

Four letters of an alphabet of sixty-four spell three bytes, and `=` fills up the
last four.  Decoding skips everything that is no letter and stops at the padding
of a started group of four; a group that is neither full nor padded is refused.
Encoding breaks the letters into lines of seventy-six and ends every line.
-/
import AdmissionGate.Text.Quoted

namespace AdmissionGate

namespace Base64

/-- The value of a letter. -/
def sextet? (c : Code) : Option Nat :=
  if 65 ≤ c.val ∧ c.val ≤ 90 then some (c.val - 65)
  else if 97 ≤ c.val ∧ c.val ≤ 122 then some (c.val - 71)
  else if c.isDigit then some (c.val + 4)
  else if c = '+' then some 62
  else if c = '/' then some 63
  else none

/-- The letter with a value below sixty-four. -/
def letter (n : Nat) : Code :=
  if n < 26 then Code.ofNat (65 + n)
  else if n < 52 then Code.ofNat (71 + n)
  else if n < 62 then Code.ofNat (n - 4)
  else if n = 62 then '+'
  else '/'

/-- A started group: the letters so far, below four, and the bits that no byte has taken. -/
structure Group where
  letters : Nat := 0
  bits : Nat := 0
  /-- The padding since the last letter. -/
  padding : Nat := 0
  deriving DecidableEq, Repr

/-- The group after a letter, and the byte that it completes. -/
def Group.add (g : Group) (sextet : Nat) : Group × Bytes :=
  match g.letters with
  | 0 => (⟨1, sextet, 0⟩, [])
  | 1 => (⟨2, sextet % 16, 0⟩, [UInt8.ofNat (g.bits * 4 + sextet / 16)])
  | 2 => (⟨3, sextet % 4, 0⟩, [UInt8.ofNat (g.bits * 16 + sextet / 4)])
  | _ => (⟨0, 0, 0⟩, [UInt8.ofNat (g.bits * 64 + sextet)])

/-- Decode after a started group. -/
def decodeFrom (g : Group) : Text → Option Bytes
  | [] => if g.letters = 0 then some [] else none
  | c :: t =>
    if c = '=' then
      if g.letters < 2 then decodeFrom g t
      else if 4 ≤ g.letters + g.padding + 1 then some []
      else decodeFrom { g with padding := g.padding + 1 } t
    else
      match sextet? c with
      | none => decodeFrom g t
      | some sextet =>
        let (g, bytes) := g.add sextet
        (decodeFrom g t).map (bytes ++ ·)

/-- The bytes that a text spells, unless its last group is incomplete. -/
def decode? (t : Text) : Option Bytes := decodeFrom {} t

def letters : Bytes → Text
  | [] => []
  | [a] => [letter (a.toNat / 4), letter (a.toNat % 4 * 16), '=', '=']
  | [a, b] =>
    [letter (a.toNat / 4), letter (a.toNat % 4 * 16 + b.toNat / 16), letter (b.toNat % 16 * 4), '=']
  | a :: b :: c :: rest =>
    letter (a.toNat / 4) :: letter (a.toNat % 4 * 16 + b.toNat / 16) ::
      letter (b.toNat % 16 * 4 + c.toNat / 64) :: letter (c.toNat % 64) :: letters rest

/-- The text in lines of at most `width`, each with its end; `room` is left on the first. -/
def breakLines (width : Nat) : (room : Nat) → Text → Text
  | room, [] => if room < width then ['\n'] else []
  | 0, c :: t => ('\n' : Code) :: c :: breakLines width (width - 1) t
  | room + 1, c :: t => c :: breakLines width room t

def encode (bytes : Bytes) : Text := breakLines 76 76 (letters bytes)

end Base64

end AdmissionGate
