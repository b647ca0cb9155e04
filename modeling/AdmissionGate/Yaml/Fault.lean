/-
# AdmissionGate.Yaml.Fault -- why a text is no YAML document

A text that breaks the grammar, uses an alias without an anchor, a key that cannot
be one, or a tag that stands for no value is `malformed`, and one wording serves
for all of these.  The other faults are those of single scalars: a number, a time
or a truth value that is announced by its form or its tag and is none.
-/
import AdmissionGate.Number.Integer
import AdmissionGate.Calendar

namespace AdmissionGate

namespace Yaml

/-- Why a text is no YAML document that stands for a value. -/
inductive Fault where
  | malformed
  /-- An escape names a number beyond the last code point. -/
  | escape (number : Nat)
  | integer (cause : Integer.Fault)
  /-- A text is no floating-point literal. -/
  | float (literal : Text)
  /-- A number to base sixty has more places than can be weighed. -/
  | places
  /-- A number without any text. -/
  | noDigits
  | calendar (cause : Calendar.Fault)
  /-- A text is no time. -/
  | time
  /-- A map stands for its default value where a time is read. -/
  | timeOfMap
  /-- A word, in lower case, is no truth value. -/
  | truth (word : Text)
  /-- A map that stands for its default value is that value itself. -/
  | endlessDefault
  deriving DecidableEq

def Fault.message : Fault → Text
  | malformed => "<YAMLError>"
  | escape number =>
    if number < 0x80000000 then "chr() arg not in range(0x110000)"
    else "Python int too large to convert to C int"
  | integer cause => cause.message
  | float literal => "could not convert string to float: " ++ literal.quoted
  | places => "int too large to convert to float"
  | noDigits => "string index out of range"
  | calendar cause => cause.message
  | time => "\x27NoneType\x27 object has no attribute \x27groupdict\x27"
  | timeOfMap => "expected string or bytes-like object, got \x27list\x27"
  | truth word => word.quoted
  | endlessDefault => "maximum recursion depth exceeded"

end Yaml

end AdmissionGate
