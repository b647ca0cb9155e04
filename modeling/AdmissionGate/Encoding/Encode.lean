/-
# AdmissionGate.Encoding.Encode -- text as bytes

The bytes that spell a text in each encoding, without a byte order mark, and the
mark that may stand before them.
-/
import AdmissionGate.Encoding.Basic

namespace AdmissionGate

namespace Encoding

def byte (n : Nat) : UInt8 := UInt8.ofNat n

/-- A continuation byte with the low six bits of a number. -/
def continuation (n : Nat) : UInt8 := byte (0x80 + n % 0x40)

def utf8Bytes (c : Code) : Bytes :=
  let n := c.val
  if n < 0x80 then [byte n]
  else if n < 0x800 then [byte (0xC0 + n / 0x40), continuation n]
  else if n < 0x10000 then [byte (0xE0 + n / 0x1000), continuation (n / 0x40), continuation n]
  else
    [byte (0xF0 + n / 0x40000), continuation (n / 0x1000), continuation (n / 0x40),
      continuation n]

def unitBytes (order : ByteOrder) (n : Nat) : Bytes :=
  match order with
  | .little => [byte n, byte (n / 0x100)]
  | .big => [byte (n / 0x100), byte n]

def utf16Bytes (order : ByteOrder) (c : Code) : Bytes :=
  if c.val < 0x10000 then unitBytes order c.val
  else
    unitBytes order (0xD800 + (c.val - 0x10000) / 0x400) ++
      unitBytes order (0xDC00 + (c.val - 0x10000) % 0x400)

def utf32Bytes (order : ByteOrder) (c : Code) : Bytes :=
  match order with
  | .little => unitBytes .little c.val ++ unitBytes .little (c.val / 0x10000)
  | .big => unitBytes .big (c.val / 0x10000) ++ unitBytes .big c.val

def encode : Encoding → Text → Bytes
  | utf8, t => t.flatMap utf8Bytes
  | utf16 order, t => t.flatMap (utf16Bytes order)
  | utf32 order, t => t.flatMap (utf32Bytes order)

def markOf (e : Encoding) : Bytes := encode e [Code.byteOrderMark]

end Encoding

end AdmissionGate
