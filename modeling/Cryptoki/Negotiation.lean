import Cryptoki.Module.Call

/-! Outputs whose length the module chooses. A call with a null pointer asks for the length, a call
with a buffer of that length fetches the output, and when the output has grown in between the call
is repeated with the length that is then reported. The fetch can also start from a guessed length,
for modules that fail the question for the length. -/

namespace Cryptoki.Negotiation

variable [Allocator] {α σ : Type}

/-- A kind of output: how a buffer for it is allocated and what a module writes into the buffer. -/
structure OutputKind (α : Type) where
  allocate : Nat → Except Error (List α)
  written : Reply → List α

def bytes : OutputKind UInt8 := ⟨Memory.allocateBytes, Reply.bytes⟩

def words : OutputKind Word := ⟨Memory.allocateWords, Reply.words⟩

/-- A call that takes an output pointer, null or not, and the length announced for it. -/
abbrev Callee (σ : Type) := (present : Bool) → (capacity : Word) → StateM σ Reply

/-- The length that stands in the length argument after a call. -/
def reportedLength (capacity : Word) (reply : Reply) : Word := reply.length.getD capacity

/-- The output that a successful call has left in its buffer. -/
def outcome (kind : OutputKind α) (buffer : List α) (capacity : Word) (reply : Reply) : List α :=
  (overwrite buffer (kind.written reply)).take (reportedLength capacity reply).toNat

def check (function : String) (status : Word) : Except Error Unit :=
  if status = Status.ok then .ok () else .error (.status function status)

/-- Fetches the output with a buffer for `capacity` elements, again with a larger buffer as long as
the module reports that it needs one. -/
def fill (kind : OutputKind α) (function : String) (call : Callee σ) (capacity : Word) :
    ExceptT Error (StateM σ) (List α) := do
  let buffer ← kind.allocate capacity.toNat
  let reply ← call true capacity
  if reply.status = Status.ok then
    return outcome kind buffer capacity reply
  else if _h : reply.status = Status.bufferTooSmall ∧ capacity < reportedLength capacity reply then
    fill kind function call (reportedLength capacity reply)
  else
    throw (.status function reply.status)
termination_by UInt64.size - capacity.toNat
decreasing_by
  have hlt := UInt64.lt_iff_toNat_lt.mp _h.2
  have hmax := (reportedLength capacity reply).toNat_lt_size
  omega

/-- Asks for the length of an output, then fetches it. -/
def read (kind : OutputKind α) (function : String) (call : Callee σ) :
    ExceptT Error (StateM σ) (List α) := do
  let reply ← call false 0
  check function reply.status
  fill kind function call (reportedLength 0 reply)

/-- Fetches bytes with a buffer of a guessed length. When it is too small the call is repeated once
with the reported length; only when no larger length is reported is the module asked for one. -/
def readWithGuess (function : String) (guess : Nat) (call : Callee σ) :
    ExceptT Error (StateM σ) (List UInt8) := do
  let buffer ← Memory.allocateBytes guess
  let requested ← Word.ofLength guess
  let reply ← call true requested
  let length := reportedLength requested reply
  if reply.status = Status.ok then
    return outcome bytes buffer requested reply
  else if reply.status = Status.bufferTooSmall then
    if requested < length then
      let buffer ← Memory.allocateBytes length.toNat
      let reply ← call true length
      check function reply.status
      return outcome bytes buffer length reply
    else
      read bytes function call
  else
    throw (.status function reply.status)

end Cryptoki.Negotiation
