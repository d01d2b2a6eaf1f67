import Cryptoki.Text.Utf8

/-! The character encodings of a call, and the fixed-width text fields that are padded with blanks
and zero bytes. -/

namespace Cryptoki

/-- How the characters of a call are written in native memory. -/
inductive Encoding where
  | utf8
  /-- One byte for each character: the low eight bits of its code point. -/
  | singleByte
deriving DecidableEq, Repr

namespace Encoding

def default : Encoding := .utf8

def name : Encoding → String
  | utf8 => "UTF-8"
  | singleByte => "single-byte"

def encode : Encoding → List Char → List UInt8
  | utf8, text => Utf8.encode text
  | singleByte, text => text.map fun c => UInt8.ofNat c.toNat

def decode : Encoding → List UInt8 → List Char
  | utf8, bytes => Utf8.decodeLossy bytes
  | singleByte, bytes => bytes.map fun b => Char.ofNat b.toNat

end Encoding

namespace Padding

/-- The bytes that fill the end of a text field: a blank or zero. -/
def isPad (b : UInt8) : Bool := b == 0x20 || b == 0

def strip (field : List UInt8) : List UInt8 := (field.reverse.dropWhile isPad).reverse

/-- The first `width` bytes of a field, filled up with blanks. -/
def fill (width : Nat) (field : List UInt8) : List UInt8 :=
  field.take width ++ List.replicate (width - field.length) 0x20

end Padding

end Cryptoki
