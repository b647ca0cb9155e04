/-
# AdmissionGate.Yaml.Scalar -- the values of scalars

What a scalar stands for under each tag.  Underscores in numbers are left out.  An
integer is read to the base that its marker tells, with a leading zero to base
eight; colons part the places of a number to base sixty.
-/
import AdmissionGate.Encoding.Base64
import AdmissionGate.Text.LowerCase
import AdmissionGate.Yaml.Implicit

namespace AdmissionGate

namespace Yaml

namespace Scalar

/-- A number without the underscores between its digits. -/
def withoutUnderscores (t : Text) : Text := t.filter fun c => c != ('_' : Code)

/-- The sign of a number, and what follows it; a number has some text. -/
def signed (t : Text) : Except Fault (Bool × Text) :=
  if t.isEmpty then .error .noDigits else .ok (Integer.splitSign t)

def readBase (base : Nat) (t : Text) : Except Fault Int :=
  (Integer.read base t).mapError .integer

def readMagnitude (t : Text) : Except Fault Int :=
  if t = "0" then .ok 0
  else if t.startsWith "0b" then readBase 2 (t.drop 2)
  else if t.startsWith "0x" then readBase 16 (t.drop 2)
  else if t.isEmpty then .error .noDigits
  else if t.startsWith "0" then readBase 8 t
  else if t.contains ':' then do
    let places ← (Text.split ':' t).mapM (readBase 10)
    return places.foldl (fun n place => n * 60 + place) 0
  else readBase 10 t

def readInteger (t : Text) : Except Fault Int := do
  let (negative, t) ← signed (withoutUnderscores t)
  let n ← readMagnitude t
  return if negative then -n else n

def readLiteral (t : Text) : Except Fault Float :=
  match Floating.read? t with
  | some x => .ok x
  | none => .error (.float t)

/-- The sum of places to base sixty, the last one first; `weight` is that of the first of them. -/
def sumPlaces (sum : Float) (weight : Nat) : List Float → Except Fault Float
  | [] => .ok sum
  | x :: places =>
    let w := Floating.ofDecimal weight 0
    if w.isInf then .error .places else sumPlaces (sum + x * w) (weight * 60) places

/-- A floating-point number without its sign, in lower case. -/
def readAmount (t : Text) : Except Fault Float :=
  if t = ".inf" then .ok (1 / 0)
  else if t = ".nan" then .ok (0 / 0)
  else if t.contains ':' then do
    let places ← (Text.split ':' t).mapM readLiteral
    sumPlaces 0 1 places.reverse
  else readLiteral t

def readFloating (t : Text) : Except Fault Float := do
  let (negative, t) ← signed (withoutUnderscores t).lowered
  let x ← readAmount t
  return if negative then -x else x

/-- Whether a floating-point number is the undefined one by its name. -/
def namesUndefined (t : Text) : Bool :=
  match signed (withoutUnderscores t).lowered with
  | .ok (_, t) => t = ".nan"
  | .error _ => false

def readTruth (t : Text) : Except Fault Bool :=
  match Implicit.truthWords.find? fun (word, _) => (word : Text) = t.lowered with
  | some (_, b) => .ok b
  | none => .error (.truth t.lowered)

def readTime (t : Text) : Except Fault Value :=
  match Timestamp.read? (Implicit.form t) with
  | some s => s.value.mapError .calendar
  | none => .error .time

def readBytes (t : Text) : Except Fault Bytes :=
  if t.all (·.val < 0x80) then
    match Base64.decode? t with
    | some bytes => .ok bytes
    | none => .error .malformed
  else .error .malformed

/-- The value of a scalar, for the tags that scalars can have. -/
def value (tag : Tag) (t : Text) : Except Fault Value :=
  match tag with
  | .null => .ok .null
  | .bool => .bool <$> readTruth t
  | .int => .int <$> readInteger t
  | .float => .float <$> readFloating t
  | .text => .ok (.text t)
  | .binary => .bytes <$> readBytes t
  | .timestamp => readTime t
  | .list | .map | .set | .orderedMap | .pairs | .merge | .default | .other => .error .malformed

end Scalar

end Yaml

end AdmissionGate
