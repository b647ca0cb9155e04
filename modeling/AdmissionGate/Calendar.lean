/-
# AdmissionGate.Calendar -- dates and times of day

Dates of the Gregorian calendar for the years 1 to 9999, alone or with a time of
day to the microsecond and an optional distance from universal time in minutes.
`Date.make` and `DateTime.make` check their parts in order of size, so the first
part out of range is the one reported.
-/
import AdmissionGate.Text.Basic

namespace AdmissionGate

structure Date where
  year : Nat
  month : Nat
  day : Nat
  deriving DecidableEq, Repr

/-- A time on a day; `offset` is the distance from universal time in minutes, if it is known. -/
structure DateTime where
  date : Date
  hour : Nat
  minute : Nat
  second : Nat
  microsecond : Nat
  offset : Option Int
  deriving DecidableEq, Repr

namespace Calendar

inductive Fault where
  | year (n : Nat)
  | month
  | day
  | hour
  | minute
  | second
  /-- The distance from universal time is a day or more. -/
  | offset (minutes : Int)
  deriving DecidableEq, Repr

/-- The days and seconds of a distance in minutes, the seconds never negative. -/
def showDistance (minutes : Int) : Text :=
  let days := Int.fdiv minutes 1440
  let seconds := Int.fmod minutes 1440 * 60
  let parts : List Text :=
    (if days = 0 then [] else ["days=" ++ Text.ofInt days]) ++
    (if seconds = 0 then [] else ["seconds=" ++ Text.ofInt seconds])
  "datetime.timedelta(" ++ (if parts.isEmpty then ("0" : Text) else Text.join ", " parts) ++ ")"

def Fault.message : Fault → Text
  | .year n => "year " ++ Text.ofNat n ++ " is out of range"
  | .month => "month must be in 1..12"
  | .day => "day is out of range for month"
  | .hour => "hour must be in 0..23"
  | .minute => "minute must be in 0..59"
  | .second => "second must be in 0..59"
  | .offset minutes =>
    "offset must be a timedelta strictly between -timedelta(hours=24) and timedelta(hours=24), not "
      ++ showDistance minutes ++ "."

def isLeap (year : Nat) : Bool := year % 4 == 0 && (year % 100 != 0 || year % 400 == 0)

def daysIn (year month : Nat) : Nat :=
  if month = 2 then (if isLeap year then 29 else 28)
  else if month = 4 ∨ month = 6 ∨ month = 9 ∨ month = 11 then 30
  else 31

end Calendar

namespace Date

def make (year month day : Nat) : Except Calendar.Fault Date :=
  if year = 0 ∨ 9999 < year then .error (.year year)
  else if month = 0 ∨ 12 < month then .error .month
  else if day = 0 ∨ Calendar.daysIn year month < day then .error .day
  else .ok ⟨year, month, day⟩

def iso (d : Date) : Text :=
  Text.padded 4 d.year ++ "-" ++ Text.padded 2 d.month ++ "-" ++ Text.padded 2 d.day

/-- The number of days since the first day of year 1, that day included. -/
def ordinal (d : Date) : Nat :=
  let y := d.year - 1
  y * 365 + y / 4 - y / 100 + y / 400 +
    (List.range (d.month - 1)).foldl (fun days m => days + Calendar.daysIn d.year (m + 1)) 0 + d.day

def parts (d : Date) : List Text := [Text.ofNat d.year, Text.ofNat d.month, Text.ofNat d.day]

/-- The day as it is shown inside other values. -/
def quoted (d : Date) : Text := "datetime.date(" ++ Text.join ", " d.parts ++ ")"

end Date

namespace DateTime

/-- The time with these numbers; the distance from universal time is checked first. -/
def make (year month day hour minute second microsecond : Nat) (offset : Option Int) :
    Except Calendar.Fault DateTime := do
  match offset with
  | some minutes => if 1440 ≤ minutes.natAbs then .error (.offset minutes)
  | none => pure ()
  let date ← Date.make year month day
  if 23 < hour then .error .hour
  else if 59 < minute then .error .minute
  else if 59 < second then .error .second
  else .ok ⟨date, hour, minute, second, microsecond, offset⟩

/-- A distance from universal time as hours and minutes with a sign. -/
def isoOffset (minutes : Int) : Text :=
  (if minutes < 0 then ('-' : Code) else ('+' : Code)) ::
    (Text.padded 2 (minutes.natAbs / 60) ++ ":" ++ Text.padded 2 (minutes.natAbs % 60))

/-- The time of day; microseconds and the distance from universal time only if present. -/
def isoTime (t : DateTime) : Text :=
  let fraction : Text := if t.microsecond = 0 then [] else "." ++ Text.padded 6 t.microsecond
  let zone : Text := match t.offset with | some minutes => isoOffset minutes | none => []
  Text.padded 2 t.hour ++ ":" ++ Text.padded 2 t.minute ++ ":" ++ Text.padded 2 t.second ++
    fraction ++ zone

def iso (separator : Code) (t : DateTime) : Text := t.date.iso ++ separator :: t.isoTime

def quoted (t : DateTime) : Text :=
  let finer : List Text :=
    if t.microsecond ≠ 0 then [Text.ofNat t.second, Text.ofNat t.microsecond]
    else if t.second ≠ 0 then [Text.ofNat t.second]
    else []
  let zone : List Text :=
    match t.offset with
    | none => []
    | some minutes =>
      if minutes = 0 then ["tzinfo=datetime.timezone.utc"]
      else ["tzinfo=datetime.timezone(" ++ Calendar.showDistance minutes ++ ")"]
  "datetime.datetime(" ++
    Text.join ", "
      (t.date.parts ++ [Text.ofNat t.hour, Text.ofNat t.minute] ++ finer ++ zone) ++ ")"

/-- The microseconds since the start of year 1, in universal time if the offset is known. -/
def instant (t : DateTime) : Int :=
  ((((t.date.ordinal : Int) * 24 + t.hour) * 60 + t.minute - t.offset.getD 0) * 60 + t.second)
    * 1000000 + t.microsecond

/-- Two times are the same if both or neither have an offset and they name one instant. -/
def same (s t : DateTime) : Bool :=
  s.offset.isSome == t.offset.isSome && s.instant == t.instant

end DateTime

end AdmissionGate
