/-
# AdmissionGate.Yaml.Implicit -- the tags of plain scalars

A scalar without a tag and without quotes has the tag that its form tells: a word
for a truth value or for null, a number, a time, the merge key `<<`, the default
key `=`, or a lone indicator, for which there is no value.  Everything else is a text.
The forms exclude one another, and one line feed at the end of a scalar is no part of
its form.

Integers are binary, octal with a leading zero, decimal, hexadecimal, or to base
sixty with colons; floating-point numbers need a point.
-/
import AdmissionGate.Yaml.Tag
import AdmissionGate.Yaml.Timestamp

namespace AdmissionGate

namespace Yaml

namespace Implicit

/-- The words for truth values, in lower case. -/
def truthWords : List (String × Bool) := [
  ("yes", true), ("no", false), ("true", true), ("false", false), ("on", true), ("off", false)]

/-- The three ways to write a word: in lower case, capitalized and in upper case. -/
def spellings (word : Text) : List Text := [word, word.capitalized, word.toUpper]

def isTruth (t : Text) : Bool :=
  truthWords.any fun (word, _) => (spellings word).contains t

def isNull (t : Text) : Bool := t.isEmpty || t == "~" || (spellings "null").contains t

/-- Whether a text is not empty and all of its code points are digits or underscores. -/
def isRun (isDigit : Code → Bool) (t : Text) : Bool :=
  !t.isEmpty && t.all fun c => isDigit c || c == '_'

def isBinaryDigit (c : Code) : Bool := c == '0' || c == '1'

def isOctalDigit (c : Code) : Bool := c.isDigit && c.val < 56

/-- Whether a text is a run of decimal digits and underscores that starts with a digit. -/
def isDecimal (t : Text) : Bool := (t.take 1).any Code.isDigit && isRun Code.isDigit t

/-- Whether a text is a place of a number to base sixty after the first. -/
def isPlace : Text → Bool
  | [a] => a.isDigit
  | [a, b] => a.isDigit && a.val < 54 && b.isDigit
  | _ => false

def isMagnitude (t : Text) : Bool :=
  match t with
  | [] => false
  | c :: rest =>
    if c = '0' then
      match rest with
      | [] => true
      | m :: digits =>
        if m = 'b' then isRun isBinaryDigit digits
        else if m = 'x' then isRun (·.hexDigit?.isSome) digits
        else isRun isOctalDigit rest
    else
      match Text.split ':' t with
      | [] => false
      | first :: places => isDecimal first && places.all isPlace

def isInteger (t : Text) : Bool := isMagnitude (Integer.splitSign t).2

/-- Whether a text is empty or an exponent with a sign. -/
def isExponent : Text → Bool
  | [] => true
  | [_] => false
  | e :: sign :: digits =>
    e.toLower == 'e' && (sign == '+' || sign == '-') && !digits.isEmpty && digits.all Code.isDigit

/-- Whether a text is digits and underscores, any number of them, with an exponent or none. -/
def isFraction (t : Text) : Bool :=
  isExponent (t.dropWhile fun c => c.isDigit || c == '_')

/-- Whether texts before and after a point, the sign left out, are a floating-point number; what
stands before the point may be to base sixty. -/
def isPointed (whole fraction : Text) : Bool :=
  match Text.split ':' whole with
  | [] => false
  | [first] => isDecimal first && isFraction fraction
  | first :: places =>
    isDecimal first && places.all isPlace && (fraction.isEmpty || isRun Code.isDigit fraction)

/-- The ways to write a word after a point. -/
def isNamed (word : Text) (t : Text) : Bool :=
  (spellings word).any fun w => t == ('.' : Code) :: w

def isUndefined (t : Text) : Bool := t == ".nan" || t == ".NaN" || t == ".NAN"

def isFloating (t : Text) : Bool :=
  let s := (Integer.splitSign t).2
  if isUndefined t || isNamed "inf" s then true
  else
    match t with
    | [] => false
    | c :: fraction =>
      if c = '.' then (fraction.take 1).any Code.isDigit && isFraction fraction
      else
        match s.dropWhile (· != ('.' : Code)) with
        | [] => false
        | _ :: fraction => isPointed (s.takeWhile (· != ('.' : Code))) fraction

def isTime (t : Text) : Bool := (Timestamp.read? t).any Timestamp.isPlain

def isIndicator (t : Text) : Bool := t == "!" || t == "&" || t == "*"

def tagOfForm (t : Text) : Tag :=
  if isTruth t then .bool
  else if isFloating t then .float
  else if isInteger t then .int
  else if t = "<<" then .merge
  else if isNull t then .null
  else if isTime t then .timestamp
  else if t = "=" then .default
  else if isIndicator t then .other
  else .text

/-- A text without one line feed at its end. -/
def form (t : Text) : Text := if t.getLast? = some ('\n' : Code) then t.dropLast else t

/-- The tag of a plain scalar. -/
def tagOf (t : Text) : Tag := if t = "\n" then .text else tagOfForm (form t)

end Implicit

end Yaml

end AdmissionGate
