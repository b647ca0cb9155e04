/-
# AdmissionGate.Text.Sketch -- shown values before they are put on lines

What is shown of a value is a tree: pieces that stay whole, texts in quotes, and
containers of these.  `Sketch.line` puts it on one line.  `Sketch.wrapped` keeps
within `Sketch.columns` as far as it can: a part that fits behind what stands
before it and before what has to follow stays on its line, a container that does not
gets a line for each of its items, and a text that does not is cut after line breaks
and between words, each cut a text in quotes of its own.
-/
import AdmissionGate.Text.Blank
import AdmissionGate.Text.Quoted

namespace AdmissionGate

/-- What is shown of a value. -/
inductive Sketch where
  /-- A piece that stays whole. -/
  | atom (t : Text)
  /-- A text, in quotes. -/
  | words (t : Text)
  | list (items : List Sketch)
  | tuple (items : List Sketch)
  /-- The entries of a map, with their keys as they are shown. -/
  | map (entries : List (Text × Sketch))

namespace Sketch

def columns : Nat := 80

/-- Items in parentheses; a lone item has a comma after it. -/
def inParentheses (separator : Text) : List Text → Text
  | [item] => "(" ++ item ++ ",)"
  | items => "(" ++ Text.join separator items ++ ")"

mutual

def line : Sketch → Text
  | atom t => t
  | words t => t.quoted
  | list items => "[" ++ Text.join ", " (lineItems items) ++ "]"
  | tuple items => inParentheses ", " (lineItems items)
  | map entries => "\x7b" ++ Text.join ", " (lineEntries entries) ++ "\x7d"

def lineItems : List Sketch → List Text
  | [] => []
  | x :: xs => line x :: lineItems xs

def lineEntries : List (Text × Sketch) → List Text
  | [] => []
  | (key, x) :: rest => (key ++ ": " ++ line x) :: lineEntries rest

end

/-! ## Texts -/

def endsLine (c : Code) : Bool :=
  (10 ≤ c.val && c.val ≤ 13) || (28 ≤ c.val && c.val ≤ 30) || c.val == 0x85 || c.val == 0x2028 ||
    c.val == 0x2029

/-- The lines of a text, each with its end; a carriage return and a line feed are one end. -/
def textLines : Text → List Text
  | [] => []
  | c :: t =>
    if endsLine c && !(c = '\r' && t.head? = some ('\n' : Code)) then [c] :: textLines t
    else
      match textLines t with
      | [] => [[c]]
      | first :: rest => (c :: first) :: rest

/-- The words of a line, each with the blanks after it. -/
def lineWords : Text → List Text
  | [] => []
  | c :: t =>
    match lineWords t with
    | [] => [[c]]
    | first :: rest =>
      if c.isBlank && !(first.head?.any Code.isBlank) then [c] :: first :: rest
      else (c :: first) :: rest

/-- Join words as long as they fit between quotes; `lastWidth` is the room for the last of them. -/
def joinWords (width lastWidth : Nat) (current : Text) : List Text → List Text
  | [] => if current.isEmpty then [] else [current]
  | word :: rest =>
    let joined := current ++ word
    if joined.quoted.length ≤ (if rest.isEmpty then lastWidth else width) then
      joinWords width lastWidth joined rest
    else if current.isEmpty then joinWords width lastWidth word rest
    else current :: joinWords width lastWidth word rest

/-- The pieces of the lines of a text; the last one leaves room for what follows. -/
def pieces (width room : Nat) : List Text → List Text
  | [] => []
  | t :: rest =>
    let lastWidth := if rest.isEmpty then width - room else width
    (if t.quoted.length ≤ lastWidth then [t] else joinWords width lastWidth [] (lineWords t)) ++
      pieces width room rest

/-- What stands between items on lines of their own: an end of line and the column they start in. -/
def lineBreak (column : Nat) : Text := ('\n' : Code) :: List.replicate column (' ' : Code)

/-- A text that starts in a column, in pieces on lines of their own. -/
def wrappedText (column room : Nat) (t : Text) : Text :=
  if t.isEmpty then t.quoted
  else Text.join (lineBreak column) ((pieces (columns - column) room (textLines t)).map Text.quoted)

/-! ## Containers -/

/-- Whether a line that starts in a column leaves the room that is asked for. -/
def fits (column room : Nat) (t : Text) : Bool := column + t.length + room ≤ columns

mutual

/-- A sketch that starts in a column and leaves room for what follows. -/
def wrappedFrom (column room : Nat) : Sketch → Text
  | atom t => t
  | words t => if fits column room t.quoted then t.quoted else wrappedText column room t
  | list items =>
    if fits column room (list items).line then (list items).line
    else
      "[" ++ Text.join (',' :: lineBreak (column + 1)) (wrappedItems (column + 1) (room + 1) items)
        ++ "]"
  | tuple items =>
    if fits column room (tuple items).line then (tuple items).line
    else
      inParentheses (',' :: lineBreak (column + 1))
        (wrappedItems (column + 1) (room + if items.length = 1 then 2 else 1) items)
  | map entries =>
    if fits column room (map entries).line then (map entries).line
    else
      "\x7b" ++ Text.join (',' :: lineBreak (column + 1))
        (wrappedEntries (column + 1) (room + 1) entries) ++ "\x7d"

/-- The items of a container; a comma follows each but the last. -/
def wrappedItems (column room : Nat) : List Sketch → List Text
  | [] => []
  | x :: xs =>
    wrappedFrom column (if xs.isEmpty then room else 1) x :: wrappedItems column room xs

/-- The entries of a map; a comma follows each but the last. -/
def wrappedEntries (column room : Nat) : List (Text × Sketch) → List Text
  | [] => []
  | (key, x) :: rest =>
    (key ++ ": " ++
      wrappedFrom (column + key.length + 2) (if rest.isEmpty then room else 1) x) ::
      wrappedEntries column room rest

end

/-- A sketch on as many lines as it takes. -/
def wrapped (s : Sketch) : Text := wrappedFrom 0 0 s

end Sketch

end AdmissionGate
