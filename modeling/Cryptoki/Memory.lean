import Cryptoki.Error

/-! Memory: the buffers that the host asks its allocator for, and areas lent to a module with the
length announced for them.

A buffer is had if it can be that large and the allocator provides it. Some requests report a buffer
that cannot be had, others end the host. Requests of a fixed size, for one record or for the text of
an error, are taken to be met. -/

namespace Cryptoki

/-- The memory allocator of the host: whether it provides a buffer of `bytes` bytes, new or grown to
that size. Nothing is assumed of it. -/
class Allocator where
  provides : (bytes align : Nat) → Bool

namespace Memory

/-- The most bytes that any buffer may have. -/
def maximum : Nat := 0x7FFFFFFFFFFFFFFF

/-- A buffer that is asked for: `count` elements of `size` bytes each, aligned to `align` bytes. -/
structure Demand where
  count : Nat
  size : Nat
  align : Nat
deriving DecidableEq, Repr

namespace Demand

def bytes (count : Nat) : Demand := ⟨count, 1, 1⟩

def words (count : Nat) : Demand := ⟨count, wordSize, wordSize⟩

def chars (count : Nat) : Demand := ⟨count, 4, 4⟩

def total (d : Demand) : Nat := d.count * d.size

/-- The buffer can be had; one without bytes is not asked for. -/
def Met [Allocator] (d : Demand) : Prop :=
  d.total = 0 ∨ d.total + (d.align - 1) ≤ maximum ∧ Allocator.provides d.total d.align

instance [Allocator] (d : Demand) : Decidable d.Met := inferInstanceAs (Decidable (_ ∨ _ ∧ _))

/-- The capacities of the buffers that replace one of `capacity` elements, of which `free` are free,
as elements are added: a full one is replaced by one of twice the capacity, eight at least. -/
def growth (capacity free : Nat) : (added : Nat) → List Nat
  | 0 => []
  | added + 1 =>
    if free = 0 then
      let grown := max (2 * capacity) 8
      grown :: growth grown (grown - capacity - 1) added
    else growth capacity (free - 1) added

/-- What is asked for as `count` elements are added to a buffer that has room for `capacity` once
there is a first one. -/
def gathered (size align capacity count : Nat) : List Demand :=
  if count = 0 then []
  else (capacity :: growth capacity capacity count).map fun n => ⟨n, size, align⟩

end Demand

/-- The buffers can be had, one after the other. -/
def Affords [Allocator] (demands : List Demand) : Prop := ∀ d ∈ demands, d.Met

variable [Allocator]

instance (demands : List Demand) : Decidable (Affords demands) :=
  inferInstanceAs (Decidable (∀ d ∈ demands, d.Met))

def reserve (d : Demand) : Except Shortage Unit :=
  if d.total = 0 then .ok ()
  else if maximum < d.total + (d.align - 1) then .error .capacity
  else if Allocator.provides d.total d.align then .ok ()
  else .error .exhausted

/-- Room for a copy or for a native array. -/
def reserveStorage (d : Demand) : Except Error Unit :=
  match reserve d with
  | .ok () => .ok ()
  | .error why => .error (.allocation (.storage why))

def allocateBytes (count : Nat) : Except Error (List UInt8) :=
  match reserve (.bytes count) with
  | .ok () => .ok (List.replicate count 0)
  | .error why => .error (.allocation (.bytes count why))

def allocateWords (count : Nat) : Except Error (List Word) :=
  match reserve (.words count) with
  | .ok () => .ok (List.replicate count 0)
  | .error why => .error (.allocation (.words count why))

def copyBytes (bytes : List UInt8) : Except Error (List UInt8) := do
  reserveStorage (.bytes bytes.length)
  return bytes

/-- Sets aside a buffer that must be had: without it the host ends. -/
def insist (d : Demand) : Except Fault Unit :=
  if d.Met then .ok () else .error .abort

def insistAll : (demands : List Demand) → Except Fault Unit
  | [] => .ok ()
  | d :: demands => do
    insist d
    insistAll demands

def zeroed (count : Nat) : Except Fault (List UInt8) := do
  insist (.bytes count)
  return List.replicate count 0

/-- The words that a memory area holds; its length must be a whole number of them. -/
def decodeWords (bytes : List UInt8) : Except Error (List Word) := do
  if bytes.length % wordSize ≠ 0 then
    throw (.conversion (.raggedWords bytes.length))
  reserveStorage (.words (bytes.length / wordSize))
  return Word.listOfBytes bytes

end Memory

/-- The length field that announces `n` bytes or entries. -/
def Word.ofLength (n : Nat) : Except Error Word :=
  if n < UInt64.size then .ok (UInt64.ofNat n) else .error .integerRange

/-- What a native pointer leads to: nothing when it is null, else the storage behind it. -/
abbrev Pointer (α : Type) := Option α

namespace Pointer

/-- A copy of the `length` bytes behind a pointer, none when it is null. -/
def read [Allocator] (p : Pointer (List UInt8)) (length : Nat) :
    Except Fault (Option (List UInt8)) :=
  match p with
  | none => .ok none
  | some storage =>
    if storage.length < length then .error .overrun
    else do
      let bytes ← Memory.copyBytes (storage.take length)
      return some bytes

/-- A pointer to storage, null when the storage is empty. -/
def ofStorage {α : Type} (storage : List α) : Pointer (List α) :=
  if storage.isEmpty then none else some storage

end Pointer

/-- A pointer and the length field that belongs to it. -/
structure Span where
  pointer : Pointer (List UInt8)
  length : Word
deriving DecidableEq, Repr

namespace Span

def null : Span := ⟨none, 0⟩

/-- An optional buffer as it is lent: null when there is none, and never null when there is one. -/
def ofOption (bytes : Option (List UInt8)) : Except Error Span :=
  match bytes with
  | none => .ok null
  | some bytes => do return ⟨some bytes, ← Word.ofLength bytes.length⟩

/-- A buffer as it is lent inside a parameter: null when it is empty. -/
def lend (bytes : List UInt8) : Except Error Span :=
  if bytes.isEmpty then .ok null else ofOption (some bytes)

/-- A copy of a buffer as it is lent inside a parameter; the copy must be had. -/
def lendCopy [Allocator] (bytes : List UInt8) : Except Fault Span := do
  Memory.insist (.bytes bytes.length)
  lend bytes

end Span

end Cryptoki
