/-
# AdmissionGate.Yaml.Token.Property -- directives, anchors and tags

An anchor is a name after `&`, an alias a name after `*`.  A tag is `!` alone, a
whole tag in `!<>`, or a handle and a suffix; the handle is the text up to the
second `!`, or a single `!`.  A suffix may spell bytes of UTF-8 by `%` and two
hexadecimal digits.
-/
import AdmissionGate.Encoding.Basic
import AdmissionGate.Yaml.Cursor
import AdmissionGate.Yaml.Token.Basic

namespace AdmissionGate

namespace Yaml

namespace Scan

def name : Scan Text := do
  let t ← span isNameCode
  if t.isEmpty then refuse
  return t

/-- The name of an anchor or an alias after its mark. -/
def anchorName : Scan Text := do
  skip 1
  let t ← name
  require fun rest => atGap rest || rest.head?.any (isOneOf "?:,]\x7d%@\x60")
  return t

/-! ## Tags -/

/-- Whether a code point may stand in a tag; `%` starts an escape. -/
def isTagCode (c : Code) : Bool :=
  c.isAlphanumeric || isOneOf "-;/?:@&=+$,_.!~*\x27()[]" c

/-- The bytes that the escapes at the start of a text spell. -/
def escapedBytes : Text → Option Bytes
  | c :: a :: b :: t =>
    if c = '%' then do
      let high ← a.hexDigit?
      let low ← b.hexDigit?
      let bytes ← escapedBytes t
      return UInt8.ofNat (high * 16 + low) :: bytes
    else some []
  | c :: _ => if c = '%' then none else some []
  | [] => some []

def escapedText : Scan Text := do
  match escapedBytes (← rest) with
  | none => refuse
  | some bytes =>
    skip (3 * bytes.length)
    match Encoding.decodeUtf8 bytes with
    | .ok t => return t
    | .error _ => refuse

/-- The parts of a suffix. -/
def suffixParts : (fuel : Nat) → Scan Text
  | 0 => refuse
  | fuel + 1 => do
    let plain ← span isTagCode
    if (← peek) = some '%' then
      let escaped ← escapedText
      let more ← suffixParts fuel
      return plain ++ escaped ++ more
    return plain

def suffix : Scan Text := do
  let t ← suffixParts (← fuel)
  if t.isEmpty then refuse
  return t

/-- A handle: `!`, or a name between two of them. -/
def handle : Scan Text := do
  expect '!'
  if (← peek) = some ' ' then return "!"
  let t ← span isNameCode
  expect '!'
  return "!" ++ t ++ "!"

/-- Whether a tag after its first mark has a handle with a second one. -/
def hasHandle (t : Text) : Bool :=
  (t.takeWhile fun (c : Code) => !(c == ' ' || isBreak c)).contains '!'

def tag : Scan Token := do
  let t := (← rest).drop 1
  let parts ←
    if t.head? = some '<' then do
      skip 2
      let whole ← suffix
      expect '>'
      pure (none, whole)
    else if atGap t then do
      skip 1
      pure (none, Text.ofString "!")
    else if hasHandle t then do
      let h ← handle
      let s ← suffix
      pure (some h, s)
    else do
      skip 1
      let s ← suffix
      pure (some (Text.ofString "!"), s)
  require atSpace
  return .tag parts.1 parts.2

/-! ## Directives -/

def versionNumber : Scan Int := do
  let digits ← span Code.isDigit
  if digits.isEmpty then refuse
  match Integer.read 10 digits with
  | .ok n => return n
  | .error cause => throw (.integer cause)

def version : Scan Directive := do
  let _ ← span (· == ' ')
  let major ← versionNumber
  expect '.'
  let _ ← versionNumber
  require atSpace
  return .version major

/-- The value of a directive that declares a handle. -/
def handleDirective : Scan Directive := do
  let _ ← span (· == ' ')
  let h ← handle
  expect ' '
  let _ ← span (· == ' ')
  let expansion ← suffix
  require atSpace
  return .handle h expansion

/-- A directive with the end of its line. -/
def directive : Scan Directive := do
  skip 1
  let word ← name
  require atSpace
  let d ←
    if word = "YAML" then version
    else if word = "TAG" then handleDirective
    else do
      let _ ← span (!isBreak ·)
      pure .reserved
  endLine
  return d

end Scan

end Yaml

end AdmissionGate
