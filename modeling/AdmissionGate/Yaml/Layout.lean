/-
# AdmissionGate.Yaml.Layout -- the tokens of a text

A `Layout` is a place in a text with the tokens before it and with what decides
how the text goes on: the columns of the open block collections, and for each open
collection the token that may still turn out to be a key.

A key without the mark `?` shows only at the `:` after it.  So every token that
may start one is remembered as `Pending` with its number, and a `:` puts the mark
of the key, and that of a map which the key starts, in front of that token.  A
pending key lapses at the end of its line and after 1024 code points; where the
column calls for a key, its lapse is a fault.

A reader of tokens sees a token only once nothing can be put in front of it.  So
if the text turns out to be faulty, the tokens before the fault are those in front
of the first pending key (`ready`).
-/
import AdmissionGate.Yaml.Token.Block
import AdmissionGate.Yaml.Token.Plain
import AdmissionGate.Yaml.Token.Property

namespace AdmissionGate

namespace Yaml

/-- A token that may turn out to start a key. -/
structure Pending where
  /-- The number of tokens before it. -/
  token : Nat
  /-- The column calls for a key. -/
  isRequired : Bool
  index : Nat
  line : Nat
  column : Nat
  deriving DecidableEq, Repr

/-- The tokens of a text up to a fault, or all of them. -/
structure Tokens where
  items : List Token
  fault : Option Fault := none

/-- A row of tokens that grows at its end. -/
structure Row where
  /-- The tokens, the last one first. -/
  tokens : List Token := []
  count : Nat := 0
  count_eq : count = tokens.length := by rfl

namespace Row

def toList (r : Row) : List Token := r.tokens.reverse

def push (r : Row) (t : Token) : Row :=
  { tokens := t :: r.tokens, count := r.count + 1, count_eq := by simp [r.count_eq] }

def pushAll (n : Nat) (t : Token) (r : Row) : Row :=
  match n with
  | 0 => r
  | n + 1 => pushAll n t (r.push t)

/-- The tokens before the one with a number. -/
def before (r : Row) (number : Nat) : List Token := (r.tokens.drop (r.count - number)).reverse

def insertAt (r : Row) (number : Nat) (ts : List Token) : Row :=
  let after := r.count - number
  { tokens := r.tokens.take after ++ (ts.reverse ++ r.tokens.drop after)
    count := r.count + ts.length
    count_eq := by simp [r.count_eq]; omega }

end Row

/-- A place in a text, with what is known of the text before it. -/
structure Layout where
  cursor : Cursor
  row : Row := {}
  /-- The columns of the open block collections, the innermost first. -/
  columns : List Nat := []
  /-- The pending key of the innermost flow collection, or outside of all of them. -/
  pending : Option Pending := none
  /-- The pending keys around the open flow collections, the innermost first. -/
  outer : List (Option Pending) := []
  /-- Whether a key may start here. -/
  keyAllowed : Bool := true
  isDone : Bool := false

namespace Layout

def inFlow (l : Layout) : Bool := !l.outer.isEmpty

/-- The first column at which the content of the innermost block collection may start. -/
def start (l : Layout) : Nat := (l.columns.head?.map (· + 1)).getD 0

def push (l : Layout) (t : Token) : Layout := { l with row := l.row.push t }

def scan {α : Type} (l : Layout) (s : Scan α) : Except Fault (α × Layout) := do
  let (a, cursor) ← s.run l.cursor
  return (a, { l with cursor := cursor })

def skip (l : Layout) (n : Nat) : Layout := { l with cursor := l.cursor.skip n }

/-! ## Pending keys -/

/-- Whether a pending key has lapsed at a cursor. -/
def hasLapsed (c : Cursor) (p : Pending) : Bool := p.line != c.line || 1024 < c.index - p.index

/-- Give up a pending key; one that is required is missed. -/
def giveUp (p : Option Pending) : Except Fault Unit :=
  if p.any (·.isRequired) then .error .malformed else .ok ()

def renew (c : Cursor) (p : Option Pending) : Except Fault (Option Pending) :=
  if p.any (hasLapsed c) then do
    giveUp p
    return none
  else .ok p

/-- Give up the pending keys that have lapsed. -/
def renewAll (l : Layout) : Except Fault Layout := do
  let pending ← renew l.cursor l.pending
  let outer ← l.outer.mapM (renew l.cursor)
  return { l with pending := pending, outer := outer }

/-- No key is pending in the innermost flow collection. -/
def settle (l : Layout) : Except Fault Layout := do
  giveUp l.pending
  return { l with pending := none }

/-- The next token may start a key, if keys are allowed here. -/
def mayStartKey (l : Layout) : Except Fault Layout := do
  if !l.keyAllowed then return l
  let l ← l.settle
  let isRequired := !l.inFlow && l.columns.head? == some l.cursor.column
  let p : Pending :=
    ⟨l.row.count, isRequired, l.cursor.index, l.cursor.line, l.cursor.column⟩
  return { l with pending := some p }

def insertAt (l : Layout) (number : Nat) (ts : List Token) : Layout :=
  { l with row := l.row.insertAt number ts }

/-- The tokens that nothing can be put in front of any more. -/
def ready (l : Layout) : List Token :=
  let live := (l.pending :: l.outer).filterMap fun p => p.filter (!hasLapsed l.cursor ·)
  match (live.map (·.token)).min? with
  | none => l.row.toList
  | some number => l.row.before number

/-! ## Indentation -/

/-- Open a block collection at a column, if it is further in than the innermost one. -/
def indentTo (l : Layout) (column : Nat) : Option Layout :=
  if l.start ≤ column then some { l with columns := column :: l.columns } else none

/-- The block collections that are open at a column, and the number of those that end before it. -/
def closedAt (column : Nat) : List Nat → List Nat × Nat
  | [] => ([], 0)
  | c :: columns =>
    if column < c then
      let (columns, n) := closedAt column columns
      (columns, n + 1)
    else (c :: columns, 0)

/-- End the block collections that are further in than a column; inside a flow collection columns
mean nothing. -/
def unindentTo (l : Layout) (column : Nat) : Layout :=
  if l.inFlow then l
  else
    let (columns, n) := closedAt column l.columns
    { l with columns := columns, row := l.row.pushAll n .blockEnd }

/-- End all block collections, unless a flow collection is open. -/
def unindentAll (l : Layout) : Layout :=
  if l.inFlow then l
  else { l with columns := [], row := l.row.pushAll l.columns.length .blockEnd }

/-- Start a block collection at the cursor, if it is further in than the innermost one. -/
def openBlock (l : Layout) (t : Token) : Layout :=
  match l.indentTo l.cursor.column with
  | some l => l.push t
  | none => l

/-! ## Single tokens -/

def atEnd (l : Layout) : Except Fault Layout := do
  let l ← l.unindentAll.settle
  return { (l.push .streamEnd) with keyAllowed := false, outer := [], isDone := true }

def atDirective (l : Layout) : Except Fault Layout := do
  let l ← l.unindentAll.settle
  let (d, l) ← l.scan Scan.directive
  return { (l.push (.directive d)) with keyAllowed := false }

def atMark (l : Layout) (t : Token) : Except Fault Layout := do
  let l ← l.unindentAll.settle
  return { (l.skip 3).push t with keyAllowed := false }

def atOpen (l : Layout) (t : Token) : Except Fault Layout := do
  let l ← l.mayStartKey
  return { (l.skip 1).push t with
    pending := none, outer := l.pending :: l.outer, keyAllowed := true }

def atClose (l : Layout) (t : Token) : Except Fault Layout := do
  let l ← l.settle
  match l.outer with
  | [] => .error .malformed
  | p :: outer =>
    return { (l.skip 1).push t with pending := p, outer := outer, keyAllowed := false }

/-- The mark between the items of a flow collection. -/
def atComma (l : Layout) : Except Fault Layout := do
  let l ← l.settle
  return { (l.skip 1).push .comma with keyAllowed := true }

def atItem (l : Layout) : Except Fault Layout := do
  if !l.inFlow && !l.keyAllowed then .error .malformed
  let l := if l.inFlow then l else l.openBlock .blockList
  let l ← l.settle
  return { (l.skip 1).push .item with keyAllowed := true }

def atKey (l : Layout) : Except Fault Layout := do
  if !l.inFlow && !l.keyAllowed then .error .malformed
  let l := if l.inFlow then l else l.openBlock .blockMap
  let l ← l.settle
  return { (l.skip 1).push .key with keyAllowed := !l.inFlow }

/-- The mark in front of a value: after a pending key that token is a key, and otherwise the key has
its own mark or is empty. -/
def atValue (l : Layout) : Except Fault Layout := do
  match l.pending with
  | some p =>
    let l := { l with pending := none, keyAllowed := false }
    let opened := if l.inFlow then none else l.indentTo p.column
    let l :=
      match opened with
      | some l => l.insertAt p.token [.blockMap, .key]
      | none => l.insertAt p.token [.key]
    return (l.skip 1).push .value
  | none =>
    if !l.inFlow && !l.keyAllowed then .error .malformed
    let l := if l.inFlow then l else l.openBlock .blockMap
    return { (l.skip 1).push .value with keyAllowed := !l.inFlow }

/-- A token that may start a key and holds none itself. -/
def atNode (l : Layout) (s : Scan Token) : Except Fault Layout := do
  let l ← l.mayStartKey
  let (t, l) ← l.scan s
  return { (l.push t) with keyAllowed := false }

/-- A plain scalar; a key may start after it if it ended its line. -/
def atPlain (l : Layout) : Except Fault Layout := do
  let l ← l.mayStartKey
  let ((t, lineEnded), l) ← l.scan (Scan.plain l.inFlow l.start)
  return { (l.push (.scalar t true)) with keyAllowed := lineEnded }

def atBlock (l : Layout) (folds : Bool) : Except Fault Layout := do
  let l ← l.settle
  let (t, l) ← l.scan (Scan.block folds l.start)
  return { (l.push (.scalar t false)) with keyAllowed := true }

/-! ## All tokens -/

/-- Move on over blanks, comments and line ends, and say whether a line ended. -/
def toText : (fuel : Nat) → Scan Bool
  | 0 => Scan.refuse
  | fuel + 1 => do
    Scan.toComment
    match ← Scan.lineBreak? with
    | none => return false
    | some _ =>
      let _ ← toText fuel
      return true

/-- Move on to the next token; a mark of the byte order may stand at the start of the text, and a
key may start on a new line. -/
def toToken (l : Layout) : Except Fault Layout := do
  let marked := l.cursor.index = 0 ∧ l.cursor.rest.head? = some Code.byteOrderMark
  let l := if marked then l.skip 1 else l
  let (lineEnded, l) ← l.scan (toText (l.cursor.size + 1))
  return if lineEnded && !l.inFlow then { l with keyAllowed := true } else l

/-- Whether `-`, `?` or `:` is a mark here: a gap follows it, or it is one of those that need none
inside a flow collection. -/
def isMark (l : Layout) (t : Text) : Bool := l.inFlow || atGap t

/-- Whether a plain scalar may start with a code point. -/
def startsPlain (l : Layout) (c : Code) (t : Text) : Bool :=
  !isOneOf "-?:,[]\x7b\x7d#&*!|>\x27\"%@\x60" c && !isBlank c && !isBreak c ||
    !atGap t && (c == '-' || !l.inFlow && (c == '?' || c == ':'))

/-- The token at the cursor, which starts with a code point. -/
def readToken (l : Layout) (c : Code) (t : Text) : Except Fault Layout :=
  let atMargin := l.cursor.column == 0
  if atMargin && c == '%' then l.atDirective
  else if atMargin && startsMark "---" (c :: t) then l.atMark .documentStart
  else if atMargin && startsMark "..." (c :: t) then l.atMark .documentEnd
  else if c = '[' then l.atOpen .openList
  else if c = '\x7b' then l.atOpen .openMap
  else if c = ']' then l.atClose .closeList
  else if c = '\x7d' then l.atClose .closeMap
  else if c = ',' then l.atComma
  else if c == '-' && atGap t then l.atItem
  else if c == '?' && l.isMark t then l.atKey
  else if c == ':' && l.isMark t then l.atValue
  else if c = '*' then l.atNode (.alias <$> Scan.anchorName)
  else if c = '&' then l.atNode (.anchor <$> Scan.anchorName)
  else if c = '!' then l.atNode Scan.tag
  else if c == '|' && !l.inFlow then l.atBlock false
  else if c == '>' && !l.inFlow then l.atBlock true
  else if c = '\x27' ∨ c = '"' then l.atNode ((.scalar · false) <$> Scan.quoted c)
  else if l.startsPlain c t then l.atPlain
  else .error .malformed

/-- The layout with one more token, and with those that its column implies. -/
def advance (l : Layout) : Except Fault Layout := do
  let l ← l.toToken
  let l ← l.renewAll
  let l := l.unindentTo l.cursor.column
  match l.cursor.rest with
  | [] => l.atEnd
  | c :: t => l.readToken c t

/-- The tokens from a place on. -/
def run : (fuel : Nat) → Layout → Tokens
  | 0, l => ⟨l.ready, some .malformed⟩
  | fuel + 1, l =>
    match l.advance with
    | .error fault => ⟨l.ready, some fault⟩
    | .ok l => if l.isDone then ⟨l.row.toList, none⟩ else run fuel l

end Layout

/-- The tokens of a text.  Every token but the last takes up some of the text. -/
def Tokens.ofText (t : Text) : Tokens := Layout.run (t.length + 1) { cursor := .ofText t }

end Yaml

end AdmissionGate
