/-
# AdmissionGate.Yaml.Token.Plain -- scalars without quotes

A plain scalar goes on up to a comment, a colon with a gap after it, or a line
that is not indented far enough; inside a flow collection its marks end it as
well.  Line ends inside it are folded as they are between quotes.  A tab is
neither part of a plain scalar nor a space inside it.
-/
import AdmissionGate.Yaml.Token.Quoted

namespace AdmissionGate

namespace Yaml

namespace Scan

/-- Whether a run of a plain scalar ends here. -/
def endsPlain (inFlow : Bool) : Text → Bool
  | [] => true
  | c :: t =>
    isBlank c || isBreak c ||
      (c == ':' && (atGap t || (inFlow && t.head?.any (isOneOf ",[]\x7b\x7d")))) ||
      (inFlow && isOneOf ",?[]\x7b\x7d" c)

/-- The run of a plain scalar at the start of a text. -/
def plainRun (inFlow : Bool) : Text → Text
  | [] => []
  | c :: t => if endsPlain inFlow (c :: t) then [] else c :: plainRun inFlow t

/-- The line ends up to the next text, or nothing if a mark of a document follows. -/
def plainBreaks : (fuel : Nat) → Scan (Option Text)
  | 0 => refuse
  | fuel + 1 => do
    if atDocumentMark (← rest) then return none
    let _ ← span (· == ' ')
    match ← lineBreak? with
    | none => return some []
    | some c =>
      let more ← plainBreaks fuel
      return more.map (c :: ·)

/-- What spaces and line ends after a run stand for, and whether a line ended. -/
def plainGap : Scan (Text × Bool) := do
  let blanks ← span (· == ' ')
  match ← lineBreak? with
  | none => return (blanks, false)
  | some c =>
    match ← plainBreaks (← fuel) with
    | none => return ([], true)
    | some more => return (folded c more, true)

/-- The runs of a plain scalar after a gap, and whether a line ended after the last of them. -/
def plainRuns (inFlow : Bool) (indent : Nat) :
    (fuel : Nat) → (gap : Text) → (lineEnded : Bool) → Scan (Text × Bool)
  | 0, _, _ => refuse
  | fuel + 1, gap, lineEnded => do
    let run := plainRun inFlow (← rest)
    if run.isEmpty || (← peek) = some '#' then return ([], lineEnded)
    skip run.length
    let (nextGap, lineEnded) ← plainGap
    if nextGap.isEmpty || (← peek) = some '#' || (!inFlow && (← column) < indent) then
      return (gap ++ run, lineEnded)
    let (more, lineEnded) ← plainRuns inFlow indent fuel nextGap lineEnded
    return (gap ++ run ++ more, lineEnded)

/-- A plain scalar, whose lines after the first start at a column or further in, and whether a line
ended after it. -/
def plain (inFlow : Bool) (indent : Nat) : Scan (Text × Bool) := do
  plainRuns inFlow indent (← fuel) [] false

end Scan

end Yaml

end AdmissionGate
