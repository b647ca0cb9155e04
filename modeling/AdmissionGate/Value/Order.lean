/-
# AdmissionGate.Value.Order -- the order of values

Values of one kind are ordered: numbers by amount, texts and byte strings by the
first place in which they differ, dates and times by when they are, tuples by the
first items that are not the same.  Values of different kinds have no order, and
neither has a date with a time, nor a time whose distance from universal time is
known with one whose distance is not.
-/
import AdmissionGate.Value.Basic

namespace AdmissionGate

inductive OrderFault where
  /-- Values of these types have none. -/
  | types (left right : Text)
  /-- Only one of a date and a time has a time of day. -/
  | timeOfDay
  /-- Of only one of two times the distance from universal time is known. -/
  | offset
  deriving DecidableEq

def OrderFault.message : OrderFault → Text
  | types left right =>
    "\x27<\x27 not supported between instances of \x27" ++ left ++ "\x27 and \x27" ++ right ++
      "\x27"
  | timeOfDay => "can\x27t compare datetime.datetime to datetime.date"
  | offset => "can\x27t compare offset-naive and offset-aware datetimes"

/-- The amount of a number: below, between or above all finite ones. -/
inductive Amount where
  | undefined
  | infinite (negative : Bool)
  /-- The amount `n * 2 ^ exponent`. -/
  | finite (n exponent : Int)

namespace Amount

def ofFloat (x : Float) : Amount :=
  if x.isNaN then undefined
  else if x.isInf then infinite (Floating.isNegative x)
  else if x == 0 then finite 0 0
  else
    let b := Floating.toBinary x
    finite (if Floating.isNegative x then -(b.mantissa : Int) else b.mantissa) b.exponent

/-- Whether an amount is less than another; the undefined one is neither less nor greater. -/
def less : Amount → Amount → Bool
  | undefined, _ | _, undefined => false
  | infinite s, infinite t => s && !t
  | infinite s, finite _ _ => s
  | finite _ _, infinite t => !t
  | finite n e, finite m f =>
    n * Nat.pow 2 (e - f).toNat < m * Nat.pow 2 (f - e).toNat

end Amount

namespace Value

/-- The amount of a number; truth values are 0 and 1. -/
def amount? : Value → Option Amount
  | float x => some (.ofFloat x)
  | v => v.integer?.map (.finite · 0)

def bytesLess : Bytes → Bytes → Bool
  | _, [] => false
  | [], _ :: _ => true
  | a :: s, b :: t => a < b || (a == b && bytesLess s t)

/-- Whether one date or time comes before another, apart from tuples of them. -/
def timeLess (v w : Value) : Except OrderFault Bool :=
  match v, w with
  | date d, date e => .ok (d.ordinal < e.ordinal)
  | dateTime s, dateTime t =>
    if s.offset.isSome = t.offset.isSome then .ok (s.instant < t.instant) else .error .offset
  | dateTime _, date _ | date _, dateTime _ => .error .timeOfDay
  | v, w => .error (.types v.qualifiedTypeName w.qualifiedTypeName)

/-- Whether one value comes before another, apart from tuples. -/
def atomLess (v w : Value) : Except OrderFault Bool :=
  match v.amount?, w.amount? with
  | some a, some b => .ok (a.less b)
  | _, _ =>
    match v, w with
    | text s, text t => .ok (!Text.le t s)
    | bytes s, bytes t => .ok (bytesLess s t)
    | v, w => timeLess v w

mutual

def less (v w : Value) : Except OrderFault Bool :=
  match v with
  | tuple xs =>
    match w with
    | tuple ys => lessItems xs ys
    | w => atomLess (tuple xs) w
  | v => atomLess v w

/-- Whether one tuple comes before another, by the first items that are not the same. -/
def lessItems : List Value → List Value → Except OrderFault Bool
  | [], ys => .ok (!ys.isEmpty)
  | x :: xs, ys =>
    match ys with
    | [] => .ok false
    | y :: ys => if x.same y then lessItems xs ys else less x y

end

def insertInOrder (v : Value) : List Value → Except OrderFault (List Value)
  | [] => .ok [v]
  | w :: ws => do
    if ← less v w then return v :: w :: ws
    let rest ← insertInOrder v ws
    return w :: rest

def inOrder (vs : List Value) : Except OrderFault (List Value) :=
  vs.foldlM (fun sorted v => insertInOrder v sorted) []

end Value

end AdmissionGate
