/-
# AdmissionGate.Encoding.Basic -- the encodings of text as bytes

Text comes as bytes in UTF-8, or in UTF-16 or UTF-32 of either byte order.  A
decoder is a step that reads one code point off the front of the remaining bytes
or says how many bytes it refuses and why; `decodeWith` runs a step over all of
them and reports the position of the first refusal.

UTF-8 comes in two strictnesses: the strict one refuses the three bytes of a
surrogate half, the other one takes them like any other code point.  A half that
stands alone is taken in UTF-16 and UTF-32 as well.
-/
import AdmissionGate.Text.Quoted

namespace AdmissionGate

inductive ByteOrder where
  | little
  | big
  deriving DecidableEq, Repr

inductive Encoding where
  | utf8
  | utf16 (order : ByteOrder)
  | utf32 (order : ByteOrder)
  deriving DecidableEq, Repr

namespace Encoding

/-- The name of a byte order in the name of an encoding. -/
def orderName : ByteOrder → Text
  | .little => "le"
  | .big => "be"

def name : Encoding → Text
  | utf8 => "utf-8"
  | utf16 order => "utf-16-" ++ orderName order
  | utf32 order => "utf-32-" ++ orderName order

inductive Refusal where
  | startByte
  | continuationByte
  | endOfData
  | truncated
  | outOfRange
  deriving DecidableEq, Repr

def Refusal.message : Refusal → Text
  | startByte => "invalid start byte"
  | continuationByte => "invalid continuation byte"
  | endOfData => "unexpected end of data"
  | truncated => "truncated data"
  | outOfRange => "code point not in range(0x110000)"

structure Fault where
  encoding : Encoding
  refused : Bytes
  position : Nat
  refusal : Refusal
  deriving DecidableEq, Repr

def Fault.message (fault : Fault) : Text :=
  let place : Text :=
    match fault.refused with
    | [b] => "byte 0x" ++ Text.hex 2 b.toNat ++ " in position " ++ Text.ofNat fault.position
    | bytes =>
      "bytes in position " ++ Text.ofNat fault.position ++ "-" ++
        Text.ofNat (fault.position + bytes.length - 1)
  "\x27" ++ fault.encoding.name ++ "\x27 codec can't decode " ++ place ++ ": " ++
    fault.refusal.message

/-- What a step makes of the front of the remaining bytes. -/
inductive Step where
  /-- One code point, and the number of bytes after the first that spell it. -/
  | code (c : Code) (more : Nat)
  /-- The first `count` bytes are refused. -/
  | refuse (count : Nat) (refusal : Refusal)
  deriving DecidableEq, Repr

/-- Run a step over bytes; `skip` bytes belong to a code point that has been read. -/
def decodeFrom (encoding : Encoding) (step : UInt8 → Bytes → Step) :
    (skip position : Nat) → (read : Text) → Bytes → Except Fault Text
  | _, _, read, [] => .ok read.reverse
  | skip + 1, position, read, _ :: bytes => decodeFrom encoding step skip (position + 1) read bytes
  | 0, position, read, b :: bytes =>
    match step b bytes with
    | .code c more => decodeFrom encoding step more (position + 1) (c :: read) bytes
    | .refuse count refusal =>
      .error ⟨encoding, (b :: bytes).take count, position, refusal⟩

/-- The text that a step reads off bytes whose first position is given. -/
def decodeWith (encoding : Encoding) (step : UInt8 → Bytes → Step) (position : Nat)
    (bytes : Bytes) : Except Fault Text :=
  decodeFrom encoding step 0 position [] bytes

/-! ## UTF-8 -/

def isContinuation (b : UInt8) : Bool := b &&& 0xC0 == 0x80

def payload (b : UInt8) : Nat := b.toNat % 0x40

/-- Whether the second byte of three may follow the first; surrogate halves only if allowed. -/
def followsThree (surrogates : Bool) (first second : UInt8) : Bool :=
  isContinuation second && !(first == 0xE0 && second < 0xA0) &&
    (surrogates || !(first == 0xED && 0xA0 ≤ second))

def followsFour (first second : UInt8) : Bool :=
  isContinuation second && !(first == 0xF0 && second < 0x90) && !(first == 0xF4 && 0x90 ≤ second)

/-- Whether the bytes after a first byte end within a surrogate half; such a half is refused at its
first byte, as it is wherever halves are not allowed. -/
def brokenHalf (first : UInt8) : Bytes → Bool
  | [second] => first == 0xED && 0xA0 ≤ second
  | second :: third :: _ => first == 0xED && 0xA0 ≤ second && !isContinuation third
  | [] => false

/-- One code point of UTF-8. -/
def utf8Step (surrogates : Bool) (first : UInt8) (rest : Bytes) : Step :=
  if first < 0x80 then .code (Code.ofNat first.toNat) 0
  else if first < 0xC2 then .refuse 1 .startByte
  else if first < 0xE0 then
    match rest with
    | [] => .refuse 1 .endOfData
    | second :: _ =>
      if isContinuation second then
        .code (Code.ofNat (first.toNat % 0x20 * 0x40 + payload second)) 1
      else .refuse 1 .continuationByte
  else if first < 0xF0 then
    match rest with
    | [] => .refuse 1 .endOfData
    | second :: rest' =>
      if !followsThree surrogates first second || brokenHalf first rest then
        .refuse 1 .continuationByte
      else
        match rest' with
        | [] => .refuse 2 .endOfData
        | third :: _ =>
          if isContinuation third then
            .code (Code.ofNat ((first.toNat % 0x10 * 0x40 + payload second) * 0x40
              + payload third)) 2
          else .refuse 2 .continuationByte
  else if first < 0xF5 then
    match rest with
    | [] => .refuse 1 .endOfData
    | second :: rest' =>
      if !followsFour first second then .refuse 1 .continuationByte
      else
        match rest' with
        | [] => .refuse 2 .endOfData
        | third :: rest'' =>
          if !isContinuation third then .refuse 2 .continuationByte
          else
            match rest'' with
            | [] => .refuse 3 .endOfData
            | fourth :: _ =>
              if isContinuation fourth then
                .code (Code.ofNat (((first.toNat % 0x08 * 0x40 + payload second) * 0x40
                  + payload third) * 0x40 + payload fourth)) 3
              else .refuse 3 .continuationByte
  else .refuse 1 .startByte

/-! ## UTF-16 and UTF-32 -/

def unit16 (order : ByteOrder) (a b : UInt8) : Nat :=
  match order with
  | .little => b.toNat * 0x100 + a.toNat
  | .big => a.toNat * 0x100 + b.toNat

def utf16Step (order : ByteOrder) (first : UInt8) : Bytes → Step
  | [] => .refuse 1 .truncated
  | second :: rest =>
    let c := Code.ofNat (unit16 order first second)
    match rest with
    | third :: fourth :: _ =>
      let d := Code.ofNat (unit16 order third fourth)
      if c.isHighSurrogate && d.isLowSurrogate then .code (Code.ofSurrogates c d) 3
      else .code c 1
    | _ => .code c 1

def utf32Step (order : ByteOrder) (first : UInt8) : Bytes → Step
  | second :: third :: fourth :: _ =>
    let n :=
      match order with
      | .little => unit16 .little third fourth * 0x10000 + unit16 .little first second
      | .big => unit16 .big first second * 0x10000 + unit16 .big third fourth
    match Code.ofNat? n with
    | some c => .code c 3
    | none => .refuse 4 .outOfRange
  | rest => .refuse (rest.length + 1) .truncated

/-- The step of an encoding that takes surrogate halves. -/
def step : Encoding → UInt8 → Bytes → Step
  | utf8 => utf8Step true
  | utf16 order => utf16Step order
  | utf32 order => utf32Step order

/-- The text that strict UTF-8 spells. -/
def decodeUtf8 (bytes : Bytes) : Except Fault Text := decodeWith .utf8 (utf8Step false) 0 bytes

/-- The ASCII bytes of a text; a code point above ASCII is cut to its low byte. -/
def asciiBytes (t : Text) : Bytes := t.map fun c => UInt8.ofNat c.val

end Encoding

end AdmissionGate
