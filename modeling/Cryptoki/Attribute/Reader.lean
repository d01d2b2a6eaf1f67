import Cryptoki.Negotiation

/-! Reading attribute values from a module. A first probe with null pointers asks for the lengths of
all values; when array attributes are there, a second probe asks for the types and lengths of their
nested attributes; the fill fetches the values, which are then decoded by the type of each
attribute. An attribute that the module does not reveal becomes absent and the others are still
filled in. -/

namespace Cryptoki.Memory.Demand

/-- The storage of the attributes of a template. -/
def slots (count : Nat) : Demand := ⟨count, 48, wordSize⟩

/-- The places of those attributes that are arrays. -/
def arrayIndices (count : Nat) : List Demand := gathered wordSize wordSize 4 count

/-- The buffers of nested attributes, or their absence. -/
def cellBuffers (count : Nat) : Demand := ⟨count, 32, wordSize⟩

def attributes (count : Nat) : Demand := ⟨count, 40, wordSize⟩

end Cryptoki.Memory.Demand

namespace Cryptoki.Reader

def function : String := EntryPoint.getAttributeValue.name

/-- Whether a status concerns single attributes at most, not the whole query. -/
def tolerated (status : Word) : Bool :=
  status == Status.ok || status == Status.attributeSensitive ||
    status == Status.attributeTypeInvalid

variable [Allocator] {σ : Type}

/-- A buffer of whole words for a value of `length` bytes. -/
structure Buffer where
  bytes : List UInt8
  length : Nat
deriving DecidableEq, Repr

namespace Buffer

def allocate (length : Nat) : Except Error Buffer := do
  let words ← Memory.allocateWords ((length + (wordSize - 1)) / wordSize)
  return ⟨Word.listToBytes words, length⟩

def pointer (b : Buffer) : Pointer (List UInt8) := if b.length = 0 then none else some b.bytes

end Buffer

inductive Slot where
  | unavailable
  | scalar (buffer : Buffer)
  /-- Nested attributes, each with a buffer once its length is known. -/
  | nested (cells : List (QueryCell × Option Buffer))
deriving Repr

namespace Slot

def allocate (e : QueryEntry) : Except Error Slot :=
  if e.length = Cryptoki.unavailable then .ok unavailable
  else match Kind.of e.type with
    | .templateArray => do
      let count := e.length.toNat / entrySize
      Memory.reserveStorage (.entries count)
      Memory.reserveStorage (.cellBuffers count)
      return nested (List.replicate count (⟨0, 0, none⟩, none))
    | _ => do return scalar (← Buffer.allocate e.length.toNat)

/-- Whether the storage is a non-empty array of nested attributes. -/
def isArray : Slot → Bool
  | nested cells => !cells.isEmpty
  | _ => false

def bindCell (cell : QueryCell × Option Buffer) : QueryCell :=
  { cell.1 with buffer := cell.2.bind Buffer.pointer }

def storage : Slot → QueryStorage
  | unavailable => .null
  | scalar buffer => match buffer.pointer with
    | some bytes => .buffer bytes
    | none => .null
  | nested cells => if cells.isEmpty then .null else .cells (cells.map bindCell)

/-- A nested attribute whose length has been probed, with a buffer unless it is unavailable. -/
def allocateCell (cell : QueryCell) : Except Error (QueryCell × Option Buffer) :=
  if cell.length = Cryptoki.unavailable then .ok (cell, none)
  else do return (cell, some (← Buffer.allocate cell.length.toNat))

/-- The storage of an array attribute after its nested lengths have been probed. -/
def allocateCells (probed : QueryEntry) : Slot → Except Error Slot
  | nested _ => match probed.storage with
    | .cells cells => do return nested (← cells.mapM allocateCell)
    | _ => .ok (nested [])
  | slot => .ok slot

end Slot

def bind (e : QueryEntry) (slot : Slot) : QueryEntry := { e with storage := slot.storage }

/-- The array attributes that the second probe asks for. -/
def arrays (entries : List QueryEntry) (slots : List Slot) : List (QueryEntry × Slot) :=
  (entries.zip slots).filter fun e => e.2.isArray

/-- The storage for attributes whose lengths have been probed, with room for the second probe. The
list of the arrays among them must be had. -/
def allocateSlots (entries : List QueryEntry) : Except Fault (List Slot) := do
  Memory.reserveStorage (.slots entries.length)
  let slots ← (entries.mapM Slot.allocate : Except Error (List Slot))
  let count := (arrays entries slots).length
  Memory.insistAll (Memory.Demand.arrayIndices count)
  Memory.reserveStorage (.entries count)
  return slots

/-- Gives each array its nested storage, in order, from the probed arrays. -/
def allocateNested : (slots : List Slot) → (probed : List QueryEntry) → Except Error (List Slot)
  | [], _ => .ok []
  | slot :: slots, probed =>
    if slot.isArray then
      match probed with
      | e :: probed => do
        let slot ← slot.allocateCells e
        let slots ← allocateNested slots probed
        return slot :: slots
      | [] => .ok (slot :: slots)
    else do
      let slots ← allocateNested slots probed
      return slot :: slots

abbrev Callee (σ : Type) := (query : List QueryEntry) → StateM σ Reply

/-- Makes a query and fails unless its status is tolerated. -/
def ask (call : Callee σ) (query : List QueryEntry) :
    ExceptT Fault (StateM σ) (Word × List QueryEntry) := do
  let reply ← call query
  if tolerated reply.status then
    return (reply.status, QueryEntry.writeAll query reply.entries)
  else
    throw (.error (.status function reply.status))

/-- Sets aside storage for every attribute, after as many probes as it takes, and fetches the
values: the status of the fill, and each attribute with its storage before and after the fill. -/
def fetch (template : Template) (call : Callee σ) :
    ExceptT Fault (StateM σ) (Word × List (Slot × QueryEntry)) := do
  Memory.reserveStorage (.entries template.length)
  let (_, entries) ← ask call (template.map fun a => ⟨a.type, 0, .null⟩)
  let slots ← allocateSlots entries
  let arrays := arrays entries slots
  let slots ←
    if arrays.isEmpty then pure slots
    else do
      let (_, probed) ← ask call (arrays.map fun e => bind e.1 e.2)
      (allocateNested slots probed : Except Error (List Slot))
  let (status, filled) ← ask call ((entries.zip slots).map fun e => bind e.1 e.2)
  return (status, slots.zip filled)

/-- The value of a scalar after the fill: the bytes that both the probed and the final length
cover. Array attributes inside an array stay bytes. -/
def decodeScalar (type final : Word) (bytes : List UInt8) (probed : Nat) (encoding : Encoding) :
    Except Fault Value :=
  if final = unavailable then .ok .absent
  else
    let kind := match Kind.of type with
      | .templateArray => .bytes
      | kind => kind
    Value.decode kind (bytes.take (min final.toNat probed)) encoding

def decodeCell (encoding : Encoding) (cell : QueryCell × Option Buffer) :
    Except Fault Attribute := do
  let probed := match cell.2 with
    | some buffer => buffer.length
    | none => 0
  return ⟨cell.1.type,
    ← decodeScalar cell.1.type cell.1.length (cell.1.buffer.getD []) probed encoding⟩

/-- The value of an attribute after the fill; nothing when the module does not reveal it. -/
def decodeEntry (slot : Slot) (e : QueryEntry) (encoding : Encoding) :
    Except Fault (Option Value) :=
  if e.length = unavailable then .ok none
  else match slot with
    | .unavailable => .ok none
    | .scalar buffer => do
      let bytes := match e.storage with
        | .buffer bytes => bytes
        | _ => []
      return some (← decodeScalar e.type e.length bytes buffer.length encoding)
    | .nested cells => do
      let filled := match e.storage with
        | .cells cells => cells
        | _ => []
      let count := e.length.toNat / entrySize
      Memory.reserveStorage (.attributes (min count cells.length))
      let nested := (filled.zip (cells.map Prod.snd)).take count
      return some (.template (← nested.mapM (decodeCell encoding)))

/-- Decodes the attributes in order, up to the first failure, and finds the first attribute that the
module does not reveal. -/
def decodeAll (encoding : Encoding) (index : Nat) :
    (template : Template) → (fetched : List (Slot × QueryEntry)) →
    Except Fault (Option Error) × Template
  | a :: template, (slot, e) :: fetched =>
    match decodeEntry slot e encoding with
    | .error fault => (.error fault, a :: template)
    | .ok value =>
      let (result, decoded) := decodeAll encoding (index + 1) template fetched
      let result := match value, result with
        | none, .ok _ => .ok (some (.attributeUnavailable index a.type))
        | _, result => result
      (result, ⟨a.type, value.getD .absent⟩ :: decoded)
  | template, _ => (.ok none, template)

/-- Reads the values of a template. The template comes back with the values that were read, also
when the result is an error. -/
def read (encoding : Encoding) (template : Template) (call : Callee σ) :
    StateM σ (Except Fault Unit × Template) := do
  if template.isEmpty then
    return (.ok (), template)
  match ← (fetch template call).run with
  | .error fault => return (.error fault, template)
  | .ok (status, fetched) =>
    let (result, decoded) := decodeAll encoding 0 template fetched
    let result := match result with
      | .error fault => .error fault
      | .ok (some e) => .error (.error e)
      | .ok none => Negotiation.check function status
    return (result, decoded)

end Cryptoki.Reader
