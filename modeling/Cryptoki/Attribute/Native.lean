import Cryptoki.Attribute.Value

/-! Attribute templates in native memory: an array of entries, each with a type, a pointer to the
value and the length of the value. An array attribute points to a nested array of entries. -/

namespace Cryptoki

/-- The flag that the type of an array attribute carries. -/
def arrayFlag : Word := 0x40000000

def entrySize : Nat := 24

namespace Memory.Demand

def entries (count : Nat) : Demand := ⟨count, entrySize, wordSize⟩

/-- Values on their way into native entries. -/
def values (count : Nat) : Demand := ⟨count, 56, wordSize⟩

end Memory.Demand

structure NativeEntry (σ : Type) where
  type : Word
  /-- What the value pointer leads to, nothing when it is null. -/
  pointer : Option σ
  length : Word
deriving DecidableEq, Repr

inductive Storage where
  | bytes (bytes : List UInt8)
  | entries (entries : List (NativeEntry Storage))
deriving Repr

abbrev NativeTemplate := List (NativeEntry Storage)

/-- A value in native memory: its pointer, its length field, and whether it is an array of nested
entries. -/
structure NativeValue where
  pointer : Pointer Storage
  length : Word
  nested : Bool
deriving Repr

namespace NativeValue

/-- A value that is laid out as bytes; the pointer is null when there are none. -/
def ofBytes (bytes : List UInt8) : Except Error NativeValue := do
  let length ← Word.ofLength bytes.length
  return ⟨(Pointer.ofStorage bytes).map .bytes, length, false⟩

def ofEntries (entries : NativeTemplate) : Except Error NativeValue := do
  let length ← Word.ofLength (entries.length * entrySize)
  return ⟨(Pointer.ofStorage entries).map .entries, length, true⟩

def isEmpty (v : NativeValue) : Bool := v.length == 0

end NativeValue

variable [Allocator]

namespace Value

/-- The native form of a value that is not a template. -/
def marshalScalar (v : Value) (encoding : Encoding) : Except Error NativeValue :=
  match v with
  | absent => .ok ⟨none, 0, false⟩
  | bool b => NativeValue.ofBytes [boolToByte b]
  | byte b => NativeValue.ofBytes [b]
  | char c => do NativeValue.ofBytes (← encodeChars [c] encoding)
  | integer v => NativeValue.ofBytes (Word.ofSigned v.toInt64).toBytes
  | long v => NativeValue.ofBytes (Word.ofSigned v).toBytes
  | bytes b => NativeValue.ofBytes b
  | chars cs => do NativeValue.ofBytes (← encodeChars cs encoding)
  | text s => NativeValue.ofBytes (Utf8.encode s.toList)
  | date d => do NativeValue.ofBytes (← d.toBytes)
  | version v => NativeValue.ofBytes v.toBytes
  | words ws => NativeValue.ofBytes (Word.listToBytes ws)
  | template _ => .error (.unrecognizedValue (shape v))
  | float _ => .error (.unrecognizedValue (shape v))

mutual

/-- The native form of an attribute value; the first value that has none is the error. -/
def marshal (v : Value) (encoding : Encoding) : Except Error NativeValue :=
  match v with
  | template attributes => do
    Memory.reserveStorage (.entries attributes.length)
    Memory.reserveStorage (.values attributes.length)
    NativeValue.ofEntries (← marshalEntries attributes encoding)
  | v => marshalScalar v encoding

def marshalEntries (attributes : List (Typed Value)) (encoding : Encoding) :
    Except Error NativeTemplate :=
  match attributes with
  | [] => .ok []
  | ⟨type, v⟩ :: rest => do
    let native ← marshal v encoding
    let type := if native.nested then type ||| arrayFlag else type
    let entries ← marshalEntries rest encoding
    return ⟨type, native.pointer, native.length⟩ :: entries

end

end Value

namespace Template

def marshal (template : Template) (encoding : Encoding) : Except Error NativeTemplate := do
  Memory.reserveStorage (.entries template.length)
  Memory.reserveStorage (.values template.length)
  Value.marshalEntries template encoding

end Template

mutual

/-- The number of values in native storage, those of nested entries included. -/
def Storage.valueCount : Storage → Nat
  | .bytes _ => 0
  | .entries entries => NativeTemplate.valueCount entries

def NativeTemplate.valueCount : List (NativeEntry Storage) → Nat
  | [] => 0
  | ⟨_, none, _⟩ :: rest => 1 + NativeTemplate.valueCount rest
  | ⟨_, some storage, _⟩ :: rest => 1 + storage.valueCount + NativeTemplate.valueCount rest

end

end Cryptoki
