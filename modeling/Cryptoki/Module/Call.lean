import Cryptoki.Callback.MutexTable
import Cryptoki.Info
import Cryptoki.Mechanism.Output
import Cryptoki.Module.EntryPoint

/-! Calls of a module: the function with its arguments in order, and the reply, which is a status
and what the module writes through the pointers it was lent. A module that keeps to the rules writes
no more than a buffer holds, so every such module has its replies here. -/

namespace Cryptoki

/-- A nested attribute of a query, with the buffer that its value pointer leads to. -/
structure QueryCell where
  type : Word
  length : Word
  buffer : Pointer (List UInt8)
deriving DecidableEq, Repr

inductive QueryStorage where
  | null
  | buffer (bytes : List UInt8)
  | cells (cells : List QueryCell)
deriving DecidableEq, Repr

structure QueryEntry where
  type : Word
  length : Word
  storage : QueryStorage
deriving DecidableEq, Repr

structure InitRecord where
  flags : Word
  /-- Whether the create, destroy, lock and unlock callbacks are there. -/
  createMutex : Bool
  destroyMutex : Bool
  lockMutex : Bool
  unlockMutex : Bool
  reserved : Bool
deriving DecidableEq, Repr

inductive Argument where
  | word (w : Word)
  | byte (b : UInt8)
  /-- A pointer to input bytes, and their length. -/
  | input (span : Span)
  /-- A pointer to input bytes of a length that both sides know. -/
  | field (bytes : List UInt8)
  /-- A pointer that matters only by whether it is null. -/
  | pointer (present : Bool)
  /-- A pointer to entries, and their number. -/
  | template (entries : NativeTemplate) (count : Word)
  | mechanism (m : NativeMechanism)
  /-- A pointer to attributes to be read, and their number. -/
  | query (entries : List QueryEntry)
  /-- A pointer to a buffer for the output, and the length that is announced for it. -/
  | output (present : Bool) (capacity : Word)
  /-- A notification callback and the connection it belongs to, both null or neither. -/
  | listener (connection : Option Nat)
  | initRecord (r : Option InitRecord)
deriving Repr

structure Call where
  entry : EntryPoint
  arguments : List Argument
deriving Repr

structure CellWrite where
  type : Option Word := none
  length : Option Word := none
  bytes : List UInt8 := []
deriving DecidableEq, Repr

structure EntryWrite where
  length : Option Word := none
  bytes : List UInt8 := []
  cells : List CellWrite := []
deriving DecidableEq, Repr

structure Reply where
  status : Word := Status.ok
  bytes : List UInt8 := []
  words : List Word := []
  /-- The length of an output. -/
  length : Option Word := none
  /-- A handle, or another word that is the only output. -/
  handle : Option Word := none
  /-- The second handle of a pair. -/
  secondHandle : Option Word := none
  info : Option InfoRecord := none
  /-- What is written into the entries of a query, in order. -/
  entries : List EntryWrite := []
  /-- What is written through a mechanism. -/
  parameter : ParameterWrites := {}
  /-- The mutex callbacks that are used during the call. -/
  mutexActions : List MutexAction := []
deriving Repr

namespace QueryCell

/-- A nested attribute after a write; bytes go no further than the announced length. -/
def write (c : QueryCell) (w : CellWrite) : QueryCell :=
  { type := w.type.getD c.type
    length := w.length.getD c.length
    buffer := c.buffer.map (overwrite · (w.bytes.take c.length.toNat)) }

/-- Nested attributes after writes, in order; attributes without a write stay as they are. -/
def writeAll : (cells : List QueryCell) → (writes : List CellWrite) → List QueryCell
  | c :: cells, w :: writes => c.write w :: writeAll cells writes
  | cells, _ => cells

end QueryCell

namespace QueryEntry

/-- An entry after a write; its type stays, and nested attributes are reached only as far as the
announced length. -/
def write (e : QueryEntry) (w : EntryWrite) : QueryEntry :=
  let storage := match e.storage with
    | .null => .null
    | .buffer bytes => .buffer (overwrite bytes (w.bytes.take e.length.toNat))
    | .cells cells => .cells (QueryCell.writeAll cells (w.cells.take (e.length.toNat / entrySize)))
  { e with length := w.length.getD e.length, storage := storage }

/-- Entries after writes, in order; entries without a write stay as they are. -/
def writeAll : (entries : List QueryEntry) → (writes : List EntryWrite) → List QueryEntry
  | e :: entries, w :: writes => e.write w :: writeAll entries writes
  | entries, _ => entries

end QueryEntry

end Cryptoki
