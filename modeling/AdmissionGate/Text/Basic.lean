/-
# AdmissionGate.Text.Basic -- text as a list of code points

Object documents may spell a code point that belongs to no character: half of a
surrogate pair.  Such a half travels through decoding, comparison and printing
like any other code point, so text here is a list of code points rather than a
`String`.  `Code.ofChar` embeds the characters, and a string literal stands for
the text it spells.

Everything here is structurally recursive on the list, so small instances
evaluate by `decide` in the kernel.
-/

namespace AdmissionGate

/-- A code point, surrogate halves included. -/
abbrev Code := Fin 0x110000

abbrev Text := List Code

namespace Code

def ofChar (c : Char) : Code :=
  ⟨c.toNat, by
    rcases c.valid with h | h
    · exact Nat.lt_trans h (by decide)
    · exact h.2⟩

instance : Coe Char Code := ⟨ofChar⟩

/-- The code point with a given number; numbers past the last code point start again at zero. -/
def ofNat (n : Nat) : Code := ⟨n % 0x110000, Nat.mod_lt n (by decide)⟩

def ofNat? (n : Nat) : Option Code := if h : n < 0x110000 then some ⟨n, h⟩ else none

/-- The code point that may mark the start of a text and tells the order of its bytes. -/
def byteOrderMark : Code := ofNat 0xFEFF

def isHighSurrogate (c : Code) : Bool := 0xD800 ≤ c.val && c.val < 0xDC00

def isLowSurrogate (c : Code) : Bool := 0xDC00 ≤ c.val && c.val < 0xE000

def isSurrogate (c : Code) : Bool := 0xD800 ≤ c.val && c.val < 0xE000

/-- The code point that a high and a low half encode together. -/
def ofSurrogates (high low : Code) : Code :=
  ⟨0x10000 + (high.val % 0x400) * 0x400 + low.val % 0x400, by omega⟩

def digit? (c : Code) : Option Nat :=
  if 48 ≤ c.val && c.val ≤ 57 then some (c.val - 48) else none

def isDigit (c : Code) : Bool := 48 ≤ c.val && c.val ≤ 57

def hexDigit? (c : Code) : Option Nat :=
  if 48 ≤ c.val && c.val ≤ 57 then some (c.val - 48)
  else if 65 ≤ c.val && c.val ≤ 70 then some (c.val - 55)
  else if 97 ≤ c.val && c.val ≤ 102 then some (c.val - 87)
  else none

def isAlphanumeric (c : Code) : Bool :=
  c.isDigit || (65 ≤ c.val && c.val ≤ 90) || (97 ≤ c.val && c.val ≤ 122)

/-- The lower case of an ASCII letter; every other code point is kept. -/
def toLower (c : Code) : Code := if 65 ≤ c.val && c.val ≤ 90 then ofNat (c.val + 32) else c

/-- The upper case of an ASCII letter; every other code point is kept. -/
def toUpper (c : Code) : Code := if 97 ≤ c.val && c.val ≤ 122 then ofNat (c.val - 32) else c

/-- The lower case digit with a value below sixteen. -/
def ofHexDigit (n : Nat) : Code :=
  if n < 10 then ofNat (48 + n) else ofNat (87 + n)

end Code

namespace Text

def ofString (s : String) : Text := s.toList.map Code.ofChar

instance : Coe String Text := ⟨ofString⟩

def ofNat (n : Nat) : Text := (Nat.toDigits 10 n).map Code.ofChar

/-- An integer in decimal, with a minus sign if it is negative. -/
def ofInt : Int → Text
  | .ofNat n => ofNat n
  | .negSucc n => ('-' : Code) :: ofNat (n + 1)

/-- The last `width` hexadecimal digits of a number, in lower case. -/
def hex : (width n : Nat) → Text
  | 0, _ => []
  | width + 1, n => hex width (n / 16) ++ [Code.ofHexDigit (n % 16)]

/-- The last `width` hexadecimal digits of a number, in upper case. -/
def upperHex (width n : Nat) : Text :=
  (hex width n).map fun c => if 97 ≤ c.val then Code.ofNat (c.val - 32) else c

/-- A natural number in decimal, with zeros in front up to a width. -/
def padded (width n : Nat) : Text :=
  let digits := ofNat n
  List.replicate (width - digits.length) ('0' : Code) ++ digits

/-- The segments between the occurrences of a separator, empty ones included. -/
def split (separator : Code) : Text → List Text
  | [] => [[]]
  | c :: t =>
    if c = separator then [] :: split separator t
    else
      match split separator t with
      | [] => [[c]]
      | segment :: segments => (c :: segment) :: segments

/-- The texts in a row, with a separator between neighbours. -/
def join (separator : Text) (parts : List Text) : Text := List.intercalate separator parts

def toLower (t : Text) : Text := t.map Code.toLower

def toUpper (t : Text) : Text := t.map Code.toUpper

def capitalized : Text → Text
  | [] => []
  | c :: t => c.toUpper :: t

def startsWith (t s : Text) : Bool := s.isPrefixOf t

/-- The order of texts by the first code point in which they differ. -/
def le : Text → Text → Bool
  | [], _ => true
  | _ :: _, [] => false
  | a :: s, b :: t => a.val < b.val || (a == b && le s t)

end Text

end AdmissionGate
