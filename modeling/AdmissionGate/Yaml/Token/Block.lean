/-
# AdmissionGate.Yaml.Token.Block -- scalars as indented blocks

A block scalar is the lines after its header that are indented as far as the first
one, or by the number that the header gives.  After `|` each line end stands for
itself; after `>` the end of a line is folded with those after it, unless one of
the two lines starts with a blank.

The header also says what becomes of the line ends after the last line: all are
kept after `+`, none after `-`, and one without a mark.
-/
import AdmissionGate.Yaml.Cursor

namespace AdmissionGate

namespace Yaml

/-- What becomes of the line ends after the last line of a block scalar. -/
inductive Trailing where
  | one
  | all
  | none
  deriving DecidableEq, Repr

namespace Scan

/-- The mark for the line ends at the end. -/
def trailing : Scan Trailing := do
  if ← accept '+' then return .all
  if ← accept '-' then return .none
  return .one

/-- The number of columns of the indentation, which is not zero. -/
def depth? : Scan (Option Nat) := do
  match (← peek).bind Code.digit? with
  | none => return none
  | some 0 => refuse
  | some n =>
    skip 1
    return some n

/-- The header after its mark, without the end of its line: the two parts come in any order. -/
def blockHeader : Scan (Trailing × Option Nat) := do
  let first ← trailing
  let depth ← depth?
  let last ← if first = .one && depth.isSome then trailing else pure first
  require atSpace
  return (last, depth)

/-- Move on over spaces, up to a column at most. -/
def toColumn (indent : Nat) : Scan Unit := do
  let spaces := (← rest).takeWhile fun (c : Code) => c == ' '
  skip (min spaces.length (indent - (← column)))

/-- The line ends up to the next text, with the indentation of that. -/
def blockBreaks (indent : Nat) : (fuel : Nat) → Scan Text
  | 0 => refuse
  | fuel + 1 => do
    toColumn indent
    match ← lineBreak? with
    | none => return []
    | some c =>
      let more ← blockBreaks indent fuel
      return c :: more

/-- The line ends up to the first text, and the column that is furthest in up to there. -/
def firstBreaks : (fuel : Nat) → Scan (Text × Nat)
  | 0 => refuse
  | fuel + 1 => do
    let spaces ← span (· == ' ')
    let reached ← if spaces.isEmpty then pure 0 else column
    match ← lineBreak? with
    | none => return ([], reached)
    | some c =>
      let (more, furthest) ← firstBreaks fuel
      return (c :: more, max reached furthest)

def atBlank (t : Text) : Bool := t.head?.any isBlank

/-- The lines at an indentation, after some line ends: their text, the end of the last line, and
the line ends after that. -/
def blockLines (folds : Bool) (indent : Nat) :
    (fuel : Nat) → (breaks : Text) → Scan (Text × Text × Text)
  | 0, _ => refuse
  | fuel + 1, breaks => do
    if (← column) ≠ indent || (← rest).isEmpty then return ([], [], breaks)
    let startsBlank := atBlank (← rest)
    let line ← span (!isBreak ·)
    let lineEnd := (← lineBreak?).toList
    let more ← blockBreaks indent (← Scan.fuel)
    if (← column) ≠ indent || (← rest).isEmpty then return (breaks ++ line, lineEnd, more)
    let joint : Text :=
      if folds && lineEnd == "\n" && !startsBlank && !atBlank (← rest) then
        if more.isEmpty then " " else []
      else lineEnd
    let (text, last, after) ← blockLines folds indent fuel more
    return (breaks ++ line ++ joint ++ text, last, after)

/-- A block scalar in a collection whose content may start at a column; its own content starts at
that column or further in, and never at the first one. -/
def block (folds : Bool) (start : Nat) : Scan Text := do
  skip 1
  let (trailing, depth) ← blockHeader
  endLine
  let least := max 1 start
  let fuel ← Scan.fuel
  let (breaks, indent) ←
    match depth with
    | some n => do
      let indent := least + n - 1
      pure (← blockBreaks indent fuel, indent)
    | none => do
      let (breaks, furthest) ← firstBreaks fuel
      pure (breaks, max least furthest)
  let (text, last, after) ← blockLines folds indent fuel breaks
  match trailing with
  | .none => return text
  | .one => return text ++ last
  | .all => return text ++ last ++ after

end Scan

end Yaml

end AdmissionGate
