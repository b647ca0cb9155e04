/-
# AdmissionGate.Yaml.Timestamp -- times as scalars

A time is a date alone, `2024-01-31`, or a date and a time of day after `T` or
blanks, with an optional fraction of a second and an optional zone: `Z`, or a
signed distance from universal time.  Month, day and hour may have one digit, but
a date alone without a tag is a time only with two-digit month and day.

`Timestamp.read?` takes the text apart and `value` checks the numbers, so a text
may be a time by its form and name no day.
-/
import AdmissionGate.Yaml.Fault
import AdmissionGate.Value.Basic

namespace AdmissionGate

namespace Yaml

inductive Zone where
  | universal
  | distance (negative : Bool) (hours minutes : Nat)
  deriving DecidableEq, Repr

/-- A time of day; the fraction is in digits. -/
structure Clock where
  hour : Nat
  minute : Nat
  second : Nat
  fraction : Text
  zone : Option Zone
  deriving DecidableEq, Repr

structure Timestamp where
  year : Nat
  month : Nat
  day : Nat
  /-- Month and day are written with two digits each. -/
  isWide : Bool
  clock : Option Clock
  deriving DecidableEq, Repr

def numberOf (digits : Text) : Nat := Integer.ofDigits 10 (digits.filterMap Code.digit?)

namespace Timestamp

/-- Up to `most` digits and at least `least`, and the rest. -/
def digits? (least most : Nat) (t : Text) : Option (Text × Text) :=
  let ds := (t.take most).takeWhile Code.isDigit
  if least ≤ ds.length then some (ds, t.drop ds.length) else none

def after? (c : Code) : Text → Option Text
  | [] => none
  | d :: t => if d = c then some t else none

def isGap (c : Code) : Bool := c == ' ' || c == '\t'

/-- A zone that ends the text. -/
def zone? : Text → Option Zone
  | [] => none
  | c :: t =>
    if c = 'Z' then (if t.isEmpty then some .universal else none)
    else if c = '-' ∨ c = '+' then do
      let (hours, t) ← digits? 1 2 t
      if t.isEmpty then return .distance (c = '-') (numberOf hours) 0
      let t ← after? ':' t
      let (minutes, t) ← digits? 2 2 t
      if t.isEmpty then return .distance (c = '-') (numberOf hours) (numberOf minutes)
      none
    else none

def fraction (t : Text) : Text × Text :=
  match after? '.' t with
  | some t => (t.takeWhile Code.isDigit, t.dropWhile Code.isDigit)
  | none => ([], t)

def clock? (t : Text) : Option Clock := do
  let (hour, t) ← digits? 1 2 t
  let t ← after? ':' t
  let (minute, t) ← digits? 2 2 t
  let t ← after? ':' t
  let (second, t) ← digits? 2 2 t
  let (fraction, t) := fraction t
  let zone ← if t.isEmpty then some none else (zone? (t.dropWhile isGap)).map some
  return ⟨numberOf hour, numberOf minute, numberOf second, fraction, zone⟩

/-- The gap between date and time of day: one `T`, or blanks. -/
def gap? (t : Text) : Option Text :=
  match t with
  | [] => none
  | c :: rest =>
    if c = 'T' ∨ c = 't' then some rest
    else if isGap c then some (rest.dropWhile isGap)
    else none

def read? (t : Text) : Option Timestamp := do
  let (year, t) ← digits? 4 4 t
  let t ← after? '-' t
  let (month, t) ← digits? 1 2 t
  let t ← after? '-' t
  let (day, t) ← digits? 1 2 t
  let clock ← if t.isEmpty then some none else (gap? t >>= clock?).map some
  return ⟨numberOf year, numberOf month, numberOf day, month.length = 2 ∧ day.length = 2, clock⟩

/-- The distance of a zone from universal time in minutes. -/
def minutes : Zone → Int
  | .universal => 0
  | .distance negative hours minutes =>
    let distance : Int := hours * 60 + minutes
    if negative then -distance else distance

/-- The microseconds of a fraction; digits after the sixth are dropped. -/
def microseconds (fraction : Text) : Nat :=
  let ds := fraction.take 6
  numberOf ds * Nat.pow 10 (6 - ds.length)

/-- The date or the time that the numbers name. -/
def value (s : Timestamp) : Except Calendar.Fault Value :=
  match s.clock with
  | none => Value.date <$> Date.make s.year s.month s.day
  | some c =>
    Value.dateTime <$> DateTime.make s.year s.month s.day c.hour c.minute c.second
      (microseconds c.fraction) (c.zone.map minutes)

/-- Whether a scalar without a tag is this time. -/
def isPlain (s : Timestamp) : Bool := s.isWide || s.clock.isSome

end Timestamp

end Yaml

end AdmissionGate
