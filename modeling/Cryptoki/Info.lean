import Cryptoki.Attribute.Value

/-! The information records of a module: as the module fills them in, with text fields of fixed
width, and as the application is given them, without the padding. -/

namespace Cryptoki

abbrev Field (width : Nat) := Vector UInt8 width

namespace Field

def zero {width : Nat} : Field width := Vector.replicate width 0

/-- The buffers that must be had for a string of characters; the first one is for a byte of each. -/
def stringBuffers (text : List Char) : List Memory.Demand :=
  Memory.Demand.gathered 1 1 (max 8 text.length) (Utf8.encode text).length

def collect [Allocator] (text : List Char) : Except Fault String := do
  Memory.insistAll (stringBuffers text)
  return String.ofList text

/-- The text of a field without its padding. -/
def text [Allocator] {width : Nat} (field : Field width) (encoding : Encoding) :
    Except Fault String := do
  collect (← Value.decodeChars (Padding.strip field.toList) encoding)

end Field

structure LibraryRecord where
  cryptokiVersion : Version := ⟨0, 0⟩
  manufacturer : Field 32 := .zero
  flags : Word := 0
  description : Field 32 := .zero
  libraryVersion : Version := ⟨0, 0⟩
deriving DecidableEq, Repr

structure SlotRecord where
  description : Field 64 := .zero
  manufacturer : Field 32 := .zero
  flags : Word := 0
  hardwareVersion : Version := ⟨0, 0⟩
  firmwareVersion : Version := ⟨0, 0⟩
deriving DecidableEq, Repr

structure TokenRecord where
  label : Field 32 := .zero
  manufacturer : Field 32 := .zero
  model : Field 16 := .zero
  serialNumber : Field 16 := .zero
  flags : Word := 0
  maxSessions : Word := 0
  sessions : Word := 0
  maxReadWriteSessions : Word := 0
  readWriteSessions : Word := 0
  maxPinLength : Word := 0
  minPinLength : Word := 0
  totalPublicMemory : Word := 0
  freePublicMemory : Word := 0
  totalPrivateMemory : Word := 0
  freePrivateMemory : Word := 0
  hardwareVersion : Version := ⟨0, 0⟩
  firmwareVersion : Version := ⟨0, 0⟩
  time : Field 16 := .zero
deriving DecidableEq, Repr

/-- The state of a session; the application is given it as it is. -/
structure SessionInfo where
  slot : Word := 0
  state : Word := 0
  flags : Word := 0
  deviceError : Word := 0
deriving DecidableEq, Repr

/-- The limits of a mechanism; the application is given them as they are. -/
structure MechanismInfo where
  minKeySize : Word := 0
  maxKeySize : Word := 0
  flags : Word := 0
deriving DecidableEq, Repr

structure LibraryInfo where
  cryptokiVersion : Version
  manufacturer : String
  flags : Word
  description : String
  libraryVersion : Version
deriving DecidableEq, Repr

structure SlotInfo where
  description : String
  manufacturer : String
  flags : Word
  hardwareVersion : Version
  firmwareVersion : Version
deriving DecidableEq, Repr

structure TokenInfo where
  label : String
  manufacturer : String
  model : String
  serialNumber : String
  flags : Word
  maxSessions : Word
  sessions : Word
  maxReadWriteSessions : Word
  readWriteSessions : Word
  maxPinLength : Word
  minPinLength : Word
  totalPublicMemory : Word
  freePublicMemory : Word
  totalPrivateMemory : Word
  freePrivateMemory : Word
  hardwareVersion : Version
  firmwareVersion : Version
  /-- The time of the token as sixteen digits, empty without a clock. -/
  time : String
deriving DecidableEq, Repr

def flagsText (flags : Word) : String := Digits.hexadecimal 1 flags

namespace LibraryInfo

def ofRecord [Allocator] (r : LibraryRecord) (encoding : Encoding) :
    Except Fault LibraryInfo := do
  return {
    cryptokiVersion := r.cryptokiVersion
    manufacturer := ← r.manufacturer.text encoding
    flags := r.flags
    description := ← r.description.text encoding
    libraryVersion := r.libraryVersion }

def display (i : LibraryInfo) : String :=
  let version := i.libraryVersion.text
  let cryptoki := i.cryptokiVersion.text
  s!"{i.description} {version} by {i.manufacturer} (Cryptoki {cryptoki}, flags {flagsText i.flags})"

end LibraryInfo

namespace SlotInfo

def ofRecord [Allocator] (r : SlotRecord) (encoding : Encoding) : Except Fault SlotInfo := do
  return {
    description := ← r.description.text encoding
    manufacturer := ← r.manufacturer.text encoding
    flags := r.flags
    hardwareVersion := r.hardwareVersion
    firmwareVersion := r.firmwareVersion }

def tokenPresent (i : SlotInfo) : Bool := i.flags &&& 0x1 != 0

def display (i : SlotInfo) : String :=
  let hardware := i.hardwareVersion.text
  let firmware := i.firmwareVersion.text
  let flags := flagsText i.flags
  s!"{i.description} ({i.manufacturer}, hw {hardware}, fw {firmware}, flags {flags})"

end SlotInfo

namespace TokenInfo

def ofRecord [Allocator] (r : TokenRecord) (encoding : Encoding) : Except Fault TokenInfo := do
  return {
    label := ← r.label.text encoding
    manufacturer := ← r.manufacturer.text encoding
    model := ← r.model.text encoding
    serialNumber := ← r.serialNumber.text encoding
    flags := r.flags
    maxSessions := r.maxSessions
    sessions := r.sessions
    maxReadWriteSessions := r.maxReadWriteSessions
    readWriteSessions := r.readWriteSessions
    maxPinLength := r.maxPinLength
    minPinLength := r.minPinLength
    totalPublicMemory := r.totalPublicMemory
    freePublicMemory := r.freePublicMemory
    totalPrivateMemory := r.totalPrivateMemory
    freePrivateMemory := r.freePrivateMemory
    hardwareVersion := r.hardwareVersion
    firmwareVersion := r.firmwareVersion
    time := ← r.time.text encoding }

def display (i : TokenInfo) : String :=
  let flags := flagsText i.flags
  s!"{i.label} ({i.manufacturer} {i.model}, serial {i.serialNumber}, flags {flags})"

end TokenInfo

namespace SessionInfo

def isReadWrite (i : SessionInfo) : Bool := i.flags &&& 0x2 != 0

def display (i : SessionInfo) : String :=
  s!"slot {i.slot.toNat} state {i.state.toNat} flags {flagsText i.flags}"

end SessionInfo

namespace MechanismInfo

def display (i : MechanismInfo) : String :=
  s!"key size {i.minKeySize.toNat}..{i.maxKeySize.toNat} flags {flagsText i.flags}"

end MechanismInfo

inductive InfoRecord where
  | library (r : LibraryRecord)
  | slot (r : SlotRecord)
  | token (r : TokenRecord)
  | session (r : SessionInfo)
  | mechanism (r : MechanismInfo)
deriving Repr

end Cryptoki
