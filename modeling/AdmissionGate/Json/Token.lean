/-
# AdmissionGate.Json.Token -- the tokens of JSON text

`Token.scan` reads one token off a text that does not start with a blank.  It
never fails: a text that does not end, a bad escape or an integer with too many
digits is a token too, and so is a code point that starts no token.  Whether such
a token is a fault, and which one, is for the reader to say, since it depends on
what the place calls for.

Besides the numbers of JSON the names of infinity and of the undefined number are
tokens.  Escapes of a high and a low surrogate half in a row spell one code point;
a half that stands alone is kept.
-/
import AdmissionGate.Value.Basic

namespace AdmissionGate

namespace Json

/-- What is wrong with JSON text at a position. -/
inductive Trouble where
  | value
  | name
  | colon
  | comma
  | extraData
  | unterminated
  | control
  | escape
  | unicodeEscape
  deriving DecidableEq, Repr

def Trouble.message : Trouble → Text
  | value => "Expecting value"
  | name => "Expecting property name enclosed in double quotes"
  | colon => "Expecting ':' delimiter"
  | comma => "Expecting ',' delimiter"
  | extraData => "Extra data"
  | unterminated => "Unterminated string starting at"
  | control => "Invalid control character at"
  | escape => "Invalid \\escape"
  | unicodeEscape => "Invalid \\uXXXX escape"

inductive Token where
  | beginList
  | endList
  | beginMap
  | endMap
  | comma
  | colon
  | text (t : Text)
  | scalar (v : Value)
  /-- A text with a trouble some code points after the start of the token. -/
  | badText (trouble : Trouble) (offset : Nat)
  /-- An integer with more digits than are read. -/
  | longInteger (digits : Nat)
  /-- A code point that starts no token. -/
  | stray

/-- Whether a code point may stand between tokens. -/
def isSpace (c : Code) : Bool := c = ' ' || c = '\t' || c = '\n' || c = '\r'

/-! ## Texts -/

/-- What a text holds next. -/
inductive Piece where
  /-- A code point, and the number of code points after the first that spell it. -/
  | code (c : Code) (more : Nat)
  | close
  | unterminated
  | trouble (trouble : Trouble) (offset : Nat)
  deriving DecidableEq

/-- The code point that a letter after a backslash stands for. -/
def escaped? (c : Code) : Option Code :=
  if c = '"' ∨ c = '\\' ∨ c = '/' then some c
  else if c = 'b' then some '\x08'
  else if c = 'f' then some '\x0c'
  else if c = 'n' then some '\n'
  else if c = 'r' then some '\r'
  else if c = 't' then some '\t'
  else none

/-- The code point that four hexadecimal digits spell; something has to follow them. -/
def hexCode? : Text → Option (Code × Text)
  | a :: b :: c :: d :: next :: rest => do
    let n := ((← a.hexDigit?) * 16 + (← b.hexDigit?)) * 256 + (← c.hexDigit?) * 16 + (← d.hexDigit?)
    return (Code.ofNat n, next :: rest)
  | _ => none

/-- The low surrogate half that an escape at the front of a text spells, if one does. -/
def lowHalf? : Text → Option Code
  | backslash :: u :: rest =>
    if backslash = '\\' ∧ u = 'u' then
      match hexCode? rest with
      | some (c, _) => if c.isLowSurrogate then some c else none
      | none => none
    else none
  | _ => none

/-- The piece at the front of a text whose quote has been read. -/
def piece (c : Code) (rest : Text) : Piece :=
  if c = '"' then .close
  else if c = '\\' then
    match rest with
    | [] => .unterminated
    | letter :: rest =>
      if letter = 'u' then
        match hexCode? rest with
        | none => .trouble .unicodeEscape 1
        | some (high, rest) =>
          if high.isHighSurrogate then
            match lowHalf? rest with
            | some low => .code (Code.ofSurrogates high low) 11
            | none => .code high 5
          else .code high 5
      else
        match escaped? letter with
        | some c => .code c 1
        | none => .trouble .escape 0
  else if c.val < 0x20 then .trouble .control 0
  else .code c 0

/-- The token of a text whose quote has been read, and the number of code points after the quote
that belong to it; `skip` code points belong to a piece that has been read. -/
def scanText : (skip offset : Nat) → (read : Text) → Text → Token × Nat
  | _, _, _, [] => (.badText .unterminated 0, 0)
  | skip + 1, offset, read, _ :: rest => scanText skip (offset + 1) read rest
  | 0, offset, read, c :: rest =>
    match piece c rest with
    | .code c more => scanText more (offset + 1) (c :: read) rest
    | .close => (.text read.reverse, offset)
    | .unterminated => (.badText .unterminated 0, 0)
    | .trouble trouble more => (.badText trouble (offset + more), 0)

/-! ## Numbers -/

def digitValues (t : Text) : List Nat := t.map fun c => c.val - 48

/-- The digits before the point: a zero alone, or a run that starts with another digit. -/
def scanWhole (t : Text) : Text :=
  match t with
  | c :: _ => if c = '0' then [c] else t.takeWhile Code.isDigit
  | [] => []

/-- The digits after a point, if a point and a digit come next. -/
def scanFraction (t : Text) : Text :=
  match t with
  | point :: rest => if point = '.' then rest.takeWhile Code.isDigit else []
  | [] => []

def fractionWidth (digits : Text) : Nat := if digits.isEmpty then 0 else digits.length + 1

/-- The exponent and the number of its code points, if an `e`, an optional sign and a digit come
next. -/
def scanExponent (t : Text) : Option (Int × Nat) :=
  match t with
  | e :: rest =>
    if e.toLower = 'e' then
      let signWidth := if rest.head? = some '-' ∨ rest.head? = some '+' then 1 else 0
      let (negative, rest) := Integer.splitSign rest
      let digits := rest.takeWhile Code.isDigit
      let n : Int := Integer.ofDigits 10 (digitValues digits)
      if digits.isEmpty then none
      else some (if negative then -n else n, 1 + signWidth + digits.length)
    else none
  | [] => none

/-- The token of a number without its sign, and the number of its code points. -/
def scanUnsigned (maxDigits : Nat) (negative : Bool) (t : Text) : Option (Token × Nat) :=
  let whole := scanWhole t
  if whole.isEmpty then none
  else
    let rest := t.drop whole.length
    let fraction := scanFraction rest
    let width := whole.length + fractionWidth fraction
    let exponent? := scanExponent (rest.drop (fractionWidth fraction))
    if fraction.isEmpty && exponent?.isNone then
      if maxDigits < whole.length then some (.longInteger whole.length, width)
      else
        let n := Integer.ofDigits 10 (digitValues whole)
        some (.scalar (.int (if negative then -(n : Int) else n)), width)
    else
      let (exponent, exponentWidth) := exponent?.getD (0, 0)
      let x := Floating.ofDigits negative (digitValues whole) (digitValues fraction) exponent
      some (.scalar (.float x), width + exponentWidth)

/-! ## Tokens -/

/-- The words that stand for values. -/
def words : List (Text × Value) := [
  ("null", .null),
  ("true", .bool true),
  ("false", .bool false),
  ("NaN", .float (0 / 0)),
  ("Infinity", .float (1 / 0)),
  ("-Infinity", .float (-1 / 0))
]

def scanScalar (maxDigits : Nat) (t : Text) : Token × Nat :=
  match words.find? fun (word, _) => t.startsWith word with
  | some (word, v) => (.scalar v, word.length - 1)
  | none =>
    match t with
    | c :: rest =>
      if c = '-' then
        match scanUnsigned maxDigits true rest with
        | some (token, width) => (token, width)
        | none => (.stray, 0)
      else
        match scanUnsigned maxDigits false t with
        | some (token, width) => (token, width - 1)
        | none => (.stray, 0)
    | [] => (.stray, 0)

/-- The token at the front of a text, and the number of code points after the first that belong to
it.  Integers of more than `maxDigits` digits are not read. -/
def Token.scan (maxDigits : Nat) (c : Code) (rest : Text) : Token × Nat :=
  if c = '[' then (.beginList, 0)
  else if c = ']' then (.endList, 0)
  else if c = '\x7b' then (.beginMap, 0)
  else if c = '\x7d' then (.endMap, 0)
  else if c = ',' then (.comma, 0)
  else if c = ':' then (.colon, 0)
  else if c = '"' then
    let (token, more) := scanText 0 1 [] rest
    (token, more)
  else scanScalar maxDigits (c :: rest)

end Json

end AdmissionGate
