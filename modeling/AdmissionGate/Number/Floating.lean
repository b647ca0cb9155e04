/-
# AdmissionGate.Number.Floating -- reading and writing floating-point numbers

A floating-point number is written with the fewest digits that read back
(`Binary.shortest`): positionally, with a digit on either side of the point, when
the point falls between three zeros after itself and sixteen digits before it,
and with an exponent of at least two digits otherwise.  `FloatFormat` holds what
the three output formats choose differently.
-/
import AdmissionGate.Number.Integer
import AdmissionGate.Number.Shortest

namespace AdmissionGate

/-- The choices of a format for floating-point numbers. -/
structure FloatFormat where
  nan : Text
  infinity : Text
  /-- What follows a mantissa of a single digit. -/
  loneDigit : Text

namespace FloatFormat

/-- In messages: `nan`, `inf`, `1e+16`. -/
def display : FloatFormat := ⟨"nan", "inf", ""⟩

/-- In JSON documents: `NaN`, `Infinity`, `1e+16`. -/
def json : FloatFormat := ⟨"NaN", "Infinity", ""⟩

/-- In YAML documents: `.nan`, `.inf`, `1.0e+16`. -/
def yaml : FloatFormat := ⟨".nan", ".inf", ".0"⟩

end FloatFormat

namespace Floating

def isNegative (x : Float) : Bool := x.toBits >>> 63 == 1

/-- The absolute value of a finite nonzero number. -/
def toBinary (x : Float) : Binary :=
  let bits : Nat := x.toBits.toNat % Nat.pow 2 63
  let field : Nat := bits / Nat.pow 2 52
  let fraction : Nat := bits % Nat.pow 2 52
  if field = 0 then ⟨fraction, -1074, false⟩
  else ⟨Nat.pow 2 52 + fraction, (field : Int) - 1075, fraction == 0 && 1 < field⟩

def digit (d : Nat) : Code := Code.ofNat (48 + d)

def writeExponent (e : Int) : Text :=
  (if e < 0 then ('-' : Code) else ('+' : Code)) :: Text.padded 2 e.natAbs

/-- A decimal number in the notation that its point asks for. -/
def writeDecimal (format : FloatFormat) (d : Decimal) : Text :=
  let digits : Text := d.digits.map digit
  let count : Int := digits.length
  if -4 < d.point ∧ d.point ≤ 16 then
    if d.point ≤ 0 then "0." ++ List.replicate d.point.natAbs ('0' : Code) ++ digits
    else if count ≤ d.point then
      digits ++ List.replicate (d.point - count).toNat ('0' : Code) ++ ".0"
    else digits.take d.point.toNat ++ "." ++ digits.drop d.point.toNat
  else
    let mantissa : Text :=
      if digits.length = 1 then digits ++ format.loneDigit
      else digits.take 1 ++ "." ++ digits.drop 1
    mantissa ++ "e" ++ writeExponent (d.point - 1)

def write (format : FloatFormat) (x : Float) : Text :=
  if x.isNaN then format.nan
  else
    let sign : Text := if isNegative x then "-" else ""
    if x.isInf then sign ++ format.infinity
    else if x == 0 then sign ++ "0.0"
    else sign ++ writeDecimal format (toBinary x).shortest

/-- The number nearest to `mantissa * 10 ^ exponent`. -/
def ofDecimal (mantissa : Nat) (exponent : Int) : Float :=
  let size : Int := (Nat.toDigits 10 mantissa).length + exponent
  if mantissa = 0 ∨ size < -400 then 0
  else if 400 < size then 1 / 0
  else Float.ofScientific mantissa (exponent < 0) exponent.natAbs

/-- The number with these digits before and after the point and this exponent. -/
def ofDigits (negative : Bool) (whole fraction : List Nat) (exponent : Int) : Float :=
  let x := ofDecimal (Integer.ofDigits 10 (whole ++ fraction)) (exponent - fraction.length)
  if negative then -x else x

/-- The leading decimal digits of a text, and the rest. -/
def spanDigits : Text → List Nat × Text
  | [] => ([], [])
  | c :: t =>
    match c.decimal? with
    | none => ([], c :: t)
    | some d => let (ds, rest) := spanDigits t; (d :: ds, rest)

/-- The exponent that ends a literal: none, or `e` with an optional sign and digits. -/
def readExponent? : Text → Option Int
  | [] => some 0
  | c :: t =>
    if c.toLower = 'e' then
      let (negative, t) := Integer.splitSign t
      match spanDigits t with
      | ([], _) => none
      | (ds, []) =>
        let n : Int := Integer.ofDigits 10 ds
        some (if negative then -n else n)
      | _ => none
    else none

/-- Read a floating-point literal: decimal digits with an optional point and exponent, or the name
of infinity or of the undefined number in any case, after an optional sign and with padding around
the whole. -/
def read? (literal : Text) : Option Float := do
  let (negative, t) := Integer.splitSign (Integer.unpad literal)
  let sign (x : Float) : Float := if negative then -x else x
  if t.toLower = "inf" ∨ t.toLower = "infinity" then return sign (1 / 0)
  if t.toLower = "nan" then return 0 / 0
  let (whole, t) := spanDigits t
  let (fraction, t) :=
    match t with
    | [] => ([], [])
    | c :: rest => if c = '.' then spanDigits rest else ([], t)
  if whole.isEmpty && fraction.isEmpty then none
  let exponent ← readExponent? t
  return ofDigits negative whole fraction exponent

end Floating

end AdmissionGate
