/-
# AdmissionGate.Json.Reader -- reading JSON text

The reader is a machine: its state is what the place calls for and the stack of
containers that are open, newest first, and each token moves it on or is refused.
A container may stand inside at most `Limits.depth` others.

An object whose names repeat keeps the place of the first and the value of the
last entry.  Nothing but blanks may follow the document.

Every step looks at one token and `run` is structurally recursive on the text, so
a document is read from left to right without going back and the first trouble is
the one reported.
-/
import AdmissionGate.Json.Token
import AdmissionGate.Encoding.Detect

namespace AdmissionGate

namespace Json

structure Limits where
  /-- The number of containers that may be open at a time. -/
  depth : Nat
  /-- The number of digits of an integer. -/
  digits : Nat
  deriving DecidableEq, Repr

def Limits.standard : Limits := ⟨990, Integer.maxDigits⟩

inductive Fault where
  | encoding (cause : Encoding.Fault)
  | syntaxAt (trouble : Trouble) (line column position : Nat)
  | tooDeep (shape : Shape)
  | integer (cause : Integer.Fault)
  deriving DecidableEq

def Fault.message : Fault → Text
  | encoding cause => cause.message
  | syntaxAt trouble line column position =>
    trouble.message ++ ": line " ++ Text.ofNat line ++ " column " ++ Text.ofNat column ++
      " (char " ++ Text.ofNat position ++ ")"
  | tooDeep shape =>
    let container : Text := match shape with | .map => "object" | _ => "array"
    "maximum recursion depth exceeded while decoding a JSON " ++ container ++
      " from a unicode string"
  | integer cause => cause.message

/-- A container that is open around a value. -/
inductive Frame where
  /-- A list with the items before the value, the last one first. -/
  | list (items : List Value)
  /-- A map with the entries before the value, and the name of the value. -/
  | map (entries : Entries) (name : Text)

/-- The state of the reader: what the place calls for, and the containers around it. -/
inductive State where
  | value (stack : List Frame)
  /-- The first item of a list, or its end. -/
  | firstItem (stack : List Frame)
  /-- A comma or the end of a list, after some items. -/
  | afterItem (items : List Value) (stack : List Frame)
  /-- The first name of a map, or its end. -/
  | firstName (stack : List Frame)
  | nextName (entries : Entries) (stack : List Frame)
  | colon (entries : Entries) (name : Text) (stack : List Frame)
  /-- A comma or the end of a map, after some entries. -/
  | afterEntry (entries : Entries) (stack : List Frame)
  /-- Nothing: the document is complete. -/
  | done (v : Value)

/-- Why the reader stops; positions are counted in code points. -/
inductive Refusal where
  | unexpected (trouble : Trouble) (position : Nat)
  | tooDeep (shape : Shape)
  | integer (cause : Integer.Fault)

namespace State

def complete (v : Value) : List Frame → State
  | [] => .done v
  | .list items :: stack => .afterItem (v :: items) stack
  | .map entries name :: stack => .afterEntry (entries.insert (.text name) v) stack

/-- Enter a container, unless too many are open. -/
def enter (limits : Limits) (shape : Shape) (stack : List Frame) (state : State) :
    Except Refusal State :=
  if limits.depth ≤ stack.length then .error (.tooDeep shape) else .ok state

/-- A token where a value has to come. -/
def readValue (limits : Limits) (stack : List Frame) (position : Nat) :
    Token → Except Refusal State
  | .beginList => enter limits .list stack (.firstItem stack)
  | .beginMap => enter limits .map stack (.firstName stack)
  | .text t => .ok (complete (.text t) stack)
  | .scalar v => .ok (complete v stack)
  | .badText trouble offset => .error (.unexpected trouble (position + offset))
  | .longInteger digits => .error (.integer (.tooManyDigits digits))
  | .endList | .endMap | .comma | .colon | .stray => .error (.unexpected .value position)

/-- A token where a name has to come. -/
def readName (entries : Entries) (stack : List Frame) (position : Nat) :
    Token → Except Refusal State
  | .text name => .ok (.colon entries name stack)
  | .badText trouble offset => .error (.unexpected trouble (position + offset))
  | _ => .error (.unexpected .name position)

def step (limits : Limits) (position : Nat) (token : Token) : State → Except Refusal State
  | .value stack => readValue limits stack position token
  | .firstItem stack =>
    match token with
    | .endList => .ok (complete (.list []) stack)
    | token => readValue limits (.list [] :: stack) position token
  | .afterItem items stack =>
    match token with
    | .endList => .ok (complete (.list items.reverse) stack)
    | .comma => .ok (.value (.list items :: stack))
    | _ => .error (.unexpected .comma position)
  | .firstName stack =>
    match token with
    | .endMap => .ok (complete (.map []) stack)
    | token => readName [] stack position token
  | .nextName entries stack => readName entries stack position token
  | .colon entries name stack =>
    match token with
    | .colon => .ok (.value (.map entries name :: stack))
    | _ => .error (.unexpected .colon position)
  | .afterEntry entries stack =>
    match token with
    | .endMap => .ok (complete (.map entries) stack)
    | .comma => .ok (.nextName entries stack)
    | _ => .error (.unexpected .comma position)
  | .done _ => .error (.unexpected .extraData position)

/-- The document, if it is complete where the text ends. -/
def finish (position : Nat) : State → Except Refusal Value
  | .done v => .ok v
  | .value _ | .firstItem _ => .error (.unexpected .value position)
  | .nextName _ _ | .firstName _ => .error (.unexpected .name position)
  | .colon _ _ _ => .error (.unexpected .colon position)
  | .afterItem _ _ | .afterEntry _ _ => .error (.unexpected .comma position)

/-- Run the reader over a text; `skip` code points belong to a token that has been read. -/
def run (limits : Limits) : (skip position : Nat) → State → Text → Except Refusal Value
  | _, position, state, [] => state.finish position
  | skip + 1, position, state, _ :: rest => run limits skip (position + 1) state rest
  | 0, position, state, c :: rest =>
    if isSpace c then run limits 0 (position + 1) state rest
    else
      let (token, more) := Token.scan limits.digits c rest
      match state.step limits position token with
      | .ok state => run limits more (position + 1) state rest
      | .error refusal => .error refusal

end State

/-- The line of a position: one more than the newlines before it. -/
def lineAt (t : Text) (position : Nat) : Nat := (t.take position).count ('\n' : Code) + 1

/-- The column of a position: its distance from the newline before it. -/
def columnAt (t : Text) (position : Nat) : Nat :=
  ((t.take position).reverse.takeWhile (· ≠ ('\n' : Code))).length + 1

/-- A refusal as a fault of the whole text. -/
def Refusal.locate (t : Text) : Refusal → Fault
  | .unexpected trouble position =>
    .syntaxAt trouble (lineAt t position) (columnAt t position) position
  | .tooDeep shape => .tooDeep shape
  | .integer cause => .integer cause

def read (limits : Limits) (t : Text) : Except Fault Value :=
  match (State.value []).run limits 0 0 t with
  | .ok v => .ok v
  | .error refusal => .error (refusal.locate t)

/-- Read a JSON document in whatever encoding it has. -/
def readBytes (limits : Limits) (bytes : Bytes) : Except Fault Value :=
  match Encoding.decodeDocument bytes with
  | .ok t => read limits t
  | .error cause => .error (.encoding cause)

end Json

end AdmissionGate
