import Cryptoki.Attribute.Kind
import Cryptoki.Date
import Cryptoki.Number.Shortest
import Cryptoki.Text.Encoding
import Cryptoki.Version

/-! The values of attributes and of mechanism parameters, attribute templates, and the decoding of
native bytes into values. -/

namespace Cryptoki

/-- A type together with what stands for its value. -/
structure Typed (α : Type) where
  type : Word
  value : α
deriving DecidableEq, Repr

inductive Value where
  | absent
  | bool (b : Bool)
  | byte (b : UInt8)
  | char (c : Char)
  | integer (v : Int32)
  | long (v : Int64)
  | bytes (bytes : List UInt8)
  /-- Text in the encoding of the call. -/
  | chars (text : List Char)
  /-- Text in UTF-8 whatever the encoding of the call. -/
  | text (text : String)
  | date (d : Date)
  | version (v : Version)
  | words (words : List Word)
  /-- The nested attributes of an array attribute. -/
  | template (attributes : List (Typed Value))
  /-- A floating-point number, which has no native form. -/
  | float (x : Binary64)
deriving Repr

abbrev Attribute := Typed Value

abbrev Template := List Attribute

namespace Value

def shape : Value → String
  | absent => "Absent"
  | bool _ => "Bool"
  | byte _ => "Byte"
  | char _ => "Char"
  | integer _ => "Integer"
  | long _ => "Long"
  | bytes _ => "Bytes"
  | chars _ => "Chars"
  | text _ => "Text"
  | date _ => "Date"
  | version _ => "Version"
  | words _ => "UlongArray"
  | template _ => "Template"
  | float _ => "Float"

def ofWord (w : Word) : Value := long w.toSigned

def isAbsent : Value → Bool
  | absent => true
  | _ => false

def word? : Value → Option Word
  | long v => some (Word.ofSigned v)
  | integer v => some (Word.ofSigned v.toInt64)
  | _ => none

def bool? : Value → Option Bool
  | bool b => some b
  | _ => none

def bytes? : Value → Option (List UInt8)
  | bytes b => some b
  | _ => none

def text? : Value → Option String
  | text s => some s
  | chars cs => some (String.ofList cs)
  | _ => none

def template? : Value → Option Template
  | template attributes => some attributes
  | _ => none

mutual

/-- Equality of values; a floating-point number that is no number differs from itself. -/
def equal : Value → Value → Bool
  | absent, absent => true
  | bool a, bool b => a == b
  | byte a, byte b => a == b
  | char a, char b => a == b
  | integer a, integer b => a == b
  | long a, long b => a == b
  | bytes a, bytes b => a == b
  | chars a, chars b => a == b
  | text a, text b => a == b
  | date a, date b => a == b
  | version a, version b => a == b
  | words a, words b => a == b
  | template a, template b => equalTemplates a b
  | float a, float b => a.equal b
  | _, _ => false

def equalTemplates : List (Typed Value) → List (Typed Value) → Bool
  | [], [] => true
  | ⟨s, v⟩ :: a, ⟨t, w⟩ :: b => s == t && equal v w && equalTemplates a b
  | _, _ => false

end

def display : Value → String
  | absent => "<absent>"
  | bool b => if b then "true" else "false"
  | byte b => Digits.hexadecimal 2 b.toUInt64
  | char c => String.ofList [c]
  | integer v => toString v.toInt
  | long v => toString v.toInt
  | bytes b => s!"{b.length} bytes"
  | chars cs => String.ofList cs
  | text s => s
  | date d => d.text
  | version v => v.text
  | words ws => "[" ++ String.intercalate ", " (ws.map fun w => toString w.toNat) ++ "]"
  | template attributes => s!"{attributes.length} nested attributes"
  | float x => Shortest.text x

section Text

variable [Allocator]

/-- The buffers that must be had for the text of native bytes: malformed UTF-8 is repaired in a copy
that grows with the replacement characters. -/
def repairBuffers (bytes : List UInt8) : (encoding : Encoding) → List Memory.Demand
  | .utf8 =>
    let repaired := Utf8.encode (Utf8.decodeLossy bytes)
    if repaired = bytes then [] else Memory.Demand.gathered 1 1 bytes.length repaired.length
  | .singleByte => []

def decodeChars (bytes : List UInt8) (encoding : Encoding) : Except Fault (List Char) := do
  Memory.insistAll (repairBuffers bytes encoding)
  let text := encoding.decode bytes
  Memory.reserveStorage (.chars text.length)
  return text

def encodeChars (text : List Char) (encoding : Encoding) : Except Error (List UInt8) := do
  let bytes := encoding.encode text
  Memory.reserveStorage (.bytes bytes.length)
  return bytes

/-- The buffers that must be had for the characters of a string that is not in the encoding
already. Those after the first are expected to take four bytes each. -/
def collectBuffers (text : List Char) : (encoding : Encoding) → List Memory.Demand
  | .utf8 => []
  | .singleByte =>
    Memory.Demand.gathered 4 4 (max 4 (1 + ((Utf8.encode text.tail).length + 3) / 4)) text.length

/-- The native bytes of a string. In UTF-8 they are the bytes that the string has in memory. -/
def encodeText (text : String) (encoding : Encoding) : Except Fault (List UInt8) :=
  match encoding with
  | .utf8 => .ok text.toByteArray.data.toList
  | .singleByte => do
    Memory.insistAll (collectBuffers text.toList encoding)
    encodeChars text.toList encoding

/-- The bytes of a value whose form is not that of its kind; the copy must be had. -/
def keepBytes (b : List UInt8) : Except Fault Value := do
  Memory.insist (.bytes b.length)
  return bytes b

/-- The value that native bytes of a kind stand for. Empty bytes stand for no value, unless the kind
is bytes or text; bytes that do not have the length of a word or the form of a date stay bytes. -/
def decode (kind : Kind) (b : List UInt8) (encoding : Encoding) : Except Fault Value :=
  if b.isEmpty && kind != .bytes && kind != .text then .ok absent
  else match kind with
    | .ulong => if b.length = wordSize then .ok (ofWord (Word.ofBytes b)) else keepBytes b
    | .bool => .ok (bool (b.any (· != 0)))
    | .text => do return chars (← decodeChars b encoding)
    | .date => match Date.ofBytes b with
      | .ok d => .ok (date d)
      | .error _ => keepBytes b
    | .mechanismArray => do return words (← Memory.decodeWords b)
    | .templateArray | .bytes => do return bytes (← Memory.copyBytes b)

end Text

end Value

namespace Typed

def query (type : Word) : Attribute := ⟨type, .absent⟩

def kind {α : Type} (a : Typed α) : Kind := Kind.of a.type

end Typed

end Cryptoki
