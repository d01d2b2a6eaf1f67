/-! Native words of 64 bits, their bytes in memory, least significant first, and the signed integers
they stand for in two's complement. -/

namespace Cryptoki

/-- A native unsigned long: a code, a handle, a flag set or a length. -/
abbrev Word := UInt64

def wordSize : Nat := 8

/-- What a length field holds when the information is unavailable. -/
def unavailable : Word := 0xFFFFFFFFFFFFFFFF

/-- The `count` low base-256 digits of `n`, least significant first. -/
def littleEndian : (count : Nat) → (n : Nat) → List UInt8
  | 0, _ => []
  | count + 1, n => UInt8.ofNat n :: littleEndian count (n / 256)

/-- The number whose base-256 digits are `bytes`, least significant first. -/
def ofLittleEndian : (bytes : List UInt8) → Nat
  | [] => 0
  | b :: rest => b.toNat + 256 * ofLittleEndian rest

@[simp] theorem length_littleEndian (count n : Nat) : (littleEndian count n).length = count := by
  induction count generalizing n with
  | zero => rfl
  | succ count ih => simp [littleEndian, ih]

namespace Word

def toBytes (w : Word) : List UInt8 := littleEndian wordSize w.toNat

def ofBytes (bytes : List UInt8) : Word := UInt64.ofNat (ofLittleEndian bytes)

def ofSigned (v : Int64) : Word := v.toUInt64

def toSigned (w : Word) : Int64 := w.toInt64

def listToBytes (words : List Word) : List UInt8 := words.flatMap toBytes

/-- The words of a memory area, eight bytes each; a ragged end is dropped. -/
def listOfBytes (bytes : List UInt8) : List Word :=
  if wordSize ≤ bytes.length then
    ofBytes (bytes.take wordSize) :: listOfBytes (bytes.drop wordSize)
  else []
termination_by bytes.length
decreasing_by
  rw [List.length_drop]
  unfold wordSize at *
  omega

end Word

def boolToByte (b : Bool) : UInt8 := if b then 1 else 0

def boolOfByte (b : UInt8) : Bool := b != 0

end Cryptoki
