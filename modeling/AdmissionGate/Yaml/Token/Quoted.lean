/-
# AdmissionGate.Yaml.Token.Quoted -- scalars in quotes

Between single quotes everything but the quote stands for itself, and the quote is
written twice.  Between double quotes a backslash starts an escape.  A line end
with the blanks around it is one space; further line ends after it stand for
themselves instead.  A line may not look like the mark of a document.
-/
import AdmissionGate.Yaml.Cursor

namespace AdmissionGate

namespace Yaml

namespace Scan

/-- What line ends in a row stand for: the first one is a space if it is alone, and nothing
otherwise, unless it belongs to another script. -/
def folded (first : Code) (more : Text) : Text :=
  if first ≠ '\n' then first :: more
  else if more.isEmpty then " "
  else more

/-- The code points that an escape of one letter stands for. -/
def escapes : List (Char × Nat) := [
  ('0', 0), ('a', 7), ('b', 8), ('t', 9), ('\t', 9), ('n', 10), ('v', 11), ('f', 12), ('r', 13),
  ('e', 27), (' ', 32), ('"', 34), ('\\', 92), ('/', 47), ('N', 0x85), ('_', 0xA0), ('L', 0x2028),
  ('P', 0x2029)]

/-- The number of hexadecimal digits after the letter of an escape. -/
def escapeLengths : List (Char × Nat) := [('x', 2), ('u', 4), ('U', 8)]

def lookUp? (table : List (Char × Nat)) (c : Code) : Option Nat :=
  (table.find? fun (k, _) => Code.ofChar k == c).map (·.2)

/-- The code point that hexadecimal digits name. -/
def numbered (length : Nat) : Scan Code := do
  let digits := (← rest).take length
  match digits.mapM Code.hexDigit? with
  | none => refuse
  | some ds =>
    if ds.length < length then refuse
    let n := Integer.ofDigits 16 ds
    match Code.ofNat? n with
    | none => throw (.escape n)
    | some c =>
      skip length
      return c

/-- The line ends up to the next text; blanks before and between them are left out. -/
def quotedBreaks : (fuel : Nat) → Scan Text
  | 0 => refuse
  | fuel + 1 => do
    if atDocumentMark (← rest) then refuse
    let _ ← span isBlank
    match ← lineBreak? with
    | none => return []
    | some c =>
      let more ← quotedBreaks fuel
      return c :: more

/-- What an escape stands for, its backslash being read; at the end of a line it leaves out the line
end. -/
def escape : Scan Text := do
  match ← rest with
  | [] => refuse
  | c :: _ =>
    if isBreak c then
      let _ ← lineBreak?
      quotedBreaks (← fuel)
    else
      skip 1
      match lookUp? escapes c, lookUp? escapeLengths c with
      | some n, _ => return [Code.ofNat n]
      | none, some length => return [← numbered length]
      | none, none => refuse

/-- What blanks and line ends stand for; the text may not end after them. -/
def quotedGap : Scan Text := do
  let blanks ← span isBlank
  match ← lineBreak? with
  | some c =>
    let more ← quotedBreaks (← fuel)
    return folded c more
  | none =>
    if (← rest).isEmpty then refuse
    return blanks

/-- The text up to the closing quote, which is read as well. -/
def quotedText (quote : Code) : (fuel : Nat) → Scan Text
  | 0 => refuse
  | fuel + 1 => do
    match ← rest with
    | [] => refuse
    | c :: t =>
      if isBlank c || isBreak c then
        let gap ← quotedGap
        let more ← quotedText quote fuel
        return gap ++ more
      else if c = quote then
        if quote = '\x27' ∧ t.head? = some quote then
          skip 2
          let more ← quotedText quote fuel
          return c :: more
        else
          skip 1
          return []
      else if c = '\\' ∧ quote = '"' then
        skip 1
        let escaped ← escape
        let more ← quotedText quote fuel
        return escaped ++ more
      else
        skip 1
        let more ← quotedText quote fuel
        return c :: more

def quoted (quote : Code) : Scan Text := do
  skip 1
  quotedText quote (← fuel)

end Scan

end Yaml

end AdmissionGate
