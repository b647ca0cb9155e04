/-
# AdmissionGate.Number.Integer -- integer literals

An integer literal is an optional sign and a run of digits in a base, with at
most one underscore between neighbouring digits and blanks around the whole.
Digits may come from any script.  Base 2, 8 and 16 allow their marker (`0b`,
`0o`, `0x`) in front of the digits.  In decimal at most `maxDigits` digits are
read, and no integer with more of them is written.
-/
import AdmissionGate.Text.Blank
import AdmissionGate.Text.Digit
import AdmissionGate.Text.Quoted

namespace AdmissionGate

namespace Integer

/-- The most decimal digits that a conversion between text and integer handles. -/
def maxDigits : Nat := 4300

inductive Fault where
  /-- The text is no literal of the base. -/
  | malformed (base : Nat) (literal : Text)
  /-- The literal has more decimal digits than are read. -/
  | tooManyDigits (count : Nat)
  /-- The integer has more decimal digits than are written. -/
  | tooLarge
  deriving DecidableEq

def Fault.message : Fault → Text
  | .malformed base literal =>
    "invalid literal for int() with base " ++ Text.ofNat base ++ ": " ++ literal.quoted.take 200
  | .tooManyDigits count =>
    "Exceeds the limit (" ++ Text.ofNat maxDigits ++
      " digits) for integer string conversion: value has " ++ Text.ofNat count ++
      " digits; use sys.set_int_max_str_digits() to increase the limit"
  | .tooLarge =>
    "Exceeds the limit (" ++ Text.ofNat maxDigits ++
      " digits) for integer string conversion; " ++
      "use sys.set_int_max_str_digits() to increase the limit"

/-- The value of a digit of a base up to sixteen; decimal digits come from any script. -/
def digit? (base : Nat) (c : Code) : Option Nat :=
  ((c.decimal?).or c.hexDigit?).filter (· < base)

/-- The digits of the rest of a run; `afterDigit` says whether a digit came last, so that an
underscore or the end may follow. -/
def digitsFrom? (digit? : Code → Option Nat) : (afterDigit : Bool) → Text → Option (List Nat)
  | afterDigit, [] => if afterDigit then some [] else none
  | afterDigit, c :: t =>
    if c = '_' ∧ afterDigit then digitsFrom? digit? false t
    else
      match digit? c with
      | none => none
      | some d => (digitsFrom? digit? true t).map (d :: ·)

/-- The digits of a run with at most one underscore between neighbours. -/
def digits? (digit? : Code → Option Nat) (t : Text) : Option (List Nat) :=
  digitsFrom? digit? false t

def ofDigits (base : Nat) (digits : List Nat) : Nat :=
  digits.foldl (fun n d => n * base + d) 0

/-- The blanks that may surround a literal: those of ASCII text, and those of other scripts. -/
def isPadding (c : Code) : Bool :=
  (9 ≤ c.val && c.val ≤ 13) || c.val == 32 || (128 ≤ c.val && c.isBlank)

def unpadStart (t : Text) : Text := t.dropWhile isPadding

def unpad (t : Text) : Text := ((unpadStart t).reverse.dropWhile isPadding).reverse

def splitSign : Text → Bool × Text
  | [] => (false, [])
  | c :: t => if c = '-' then (true, t) else if c = '+' then (false, t) else (false, c :: t)

def marker? : Nat → Option Code
  | 2 => some 'b'
  | 8 => some 'o'
  | 16 => some 'x'
  | _ => none

/-- What follows the marker of a base, if the text starts with it; one underscore may part them. -/
def dropMarker (base : Nat) (t : Text) : Text :=
  match marker? base, t with
  | some letter, zero :: c :: rest =>
    if zero = '0' ∧ c.toLower = letter then
      match rest with
      | [] => []
      | u :: tail => if u = '_' then tail else rest
    else t
  | _, _ => t

/-- Whether a code point belongs to the run of digits of a literal. -/
def isOfRun (base : Nat) (c : Code) : Bool := c == '_' || (digit? base c).isSome

/-- Read an integer literal of base 2, 8, 10 or 16.  Too many digits are told before what follows
them is looked at. -/
def read (base : Nat) (literal : Text) : Except Fault Int :=
  let (negative, t) := splitSign (unpadStart literal)
  let t := dropMarker base t
  match digits? (digit? base) (t.takeWhile (isOfRun base)) with
  | none => .error (.malformed base literal)
  | some digits =>
    if base = 10 ∧ maxDigits < digits.length then .error (.tooManyDigits digits.length)
    else if (t.dropWhile (isOfRun base)).all isPadding then
      let n := ofDigits base digits
      .ok (if negative then -(n : Int) else n)
    else .error (.malformed base literal)

def write (n : Int) : Except Fault Text :=
  if (Text.ofNat n.natAbs).length ≤ maxDigits then .ok (Text.ofInt n) else .error .tooLarge

end Integer

end AdmissionGate
