import Cryptoki.Status
import Cryptoki.Text.Utf8

/-! Why a request fails, the message that says so, and the status code that stands for a failure
when a module is told of it. -/

namespace Cryptoki

/-- Why the host cannot provide a buffer. -/
inductive Shortage where
  /-- No buffer can be that large. -/
  | capacity
  /-- The host has too little memory. -/
  | exhausted
deriving DecidableEq, Repr

namespace Shortage

def message : Shortage → String
  | capacity =>
    "memory allocation failed because the computed capacity exceeded the collection's maximum"
  | exhausted => "memory allocation failed because the memory allocator returned an error"

end Shortage

inductive AllocationFault where
  /-- A buffer of `count` bytes. -/
  | bytes (count : Nat) (why : Shortage)
  /-- An array of `count` words. -/
  | words (count : Nat) (why : Shortage)
  /-- The storage of a copy or of a native array. -/
  | storage (why : Shortage)
  /-- A failure that the application describes. -/
  | described (text : String)
deriving DecidableEq, Repr

namespace AllocationFault

def message : AllocationFault → String
  | bytes count why => s!"{count} bytes: {why.message}"
  | words count why => s!"{count} words: {why.message}"
  | storage why => why.message
  | described message => message

end AllocationFault

/-- Why a value and its native form do not correspond. -/
inductive ConversionFault where
  /-- A year with more than four digits. -/
  | year (year : Nat)
  /-- A byte of a native date that is not a digit. -/
  | dateDigit (byte : UInt8)
  /-- A native date of the wrong length. -/
  | dateLength (length : Nat)
  /-- Bytes that do not divide into words. -/
  | raggedWords (length : Nat)
  /-- Bytes that are not UTF-8. -/
  | text (flaw : Utf8.Flaw)
  /-- A failure that the application describes. -/
  | described (text : String)
deriving DecidableEq, Repr

namespace ConversionFault

def message : ConversionFault → String
  | year y => s!"year {y} does not fit a CK_DATE"
  | dateDigit byte => s!"invalid date digit {Digits.hexadecimal 2 byte.toUInt64} in CK_DATE"
  | dateLength length => s!"a CK_DATE is 8 bytes long, got {length}"
  | raggedWords length => s!"{length} bytes is not a whole number of 8-byte words"
  | text flaw => flaw.message
  | described message => message

end ConversionFault

inductive Error where
  /-- The handle names no connected module. -/
  | disconnected
  /-- The module has no entry for the function. -/
  | functionNotSupported (function : String)
  /-- The function returned a status other than success. -/
  | status (function : String) (code : Word)
  | allocation (fault : AllocationFault)
  /-- A value of this shape has no native form. -/
  | unrecognizedValue (shape : String)
  /-- The module does not reveal the attribute at this place of a template. -/
  | attributeUnavailable (index : Nat) (type : Word)
  /-- A library cannot be loaded. -/
  | io (text : String)
  | conversion (fault : ConversionFault)
  /-- A number is too large for its native type. -/
  | integerRange
  | other (text : String)
deriving DecidableEq, Repr

namespace Error

def message : Error → String
  | disconnected => "module is not connected"
  | functionNotSupported function => s!"{function} is not supported by the module"
  | status function code => s!"{function} returned {Status.label code}"
  | allocation fault => s!"allocation failed: {fault.message}"
  | unrecognizedValue shape => s!"unrecognized value shape: {shape}"
  | attributeUnavailable index type =>
    s!"attribute {Digits.hexadecimal 8 type} (template index {index}) is not available"
  | io text => text
  | conversion fault => s!"conversion error: {fault.message}"
  | integerRange => "number too large to fit in target type"
  | other text => text

/-- The status code that a module is told. -/
def code : Error → Word
  | status _ code => code
  | disconnected => Status.notInitialized
  | functionNotSupported _ => Status.functionNotSupported
  | allocation _ => Status.hostMemory
  | attributeUnavailable _ _ => Status.attributeTypeInvalid
  | unrecognizedValue _ | conversion _ | integerRange => Status.argumentsBad
  | io _ | other _ => Status.generalError

end Error

/-- How a request ends other than with a result. -/
inductive Fault where
  /-- It fails with an error that the caller is given. -/
  | error (e : Error)
  /-- The host ends for want of memory. -/
  | abort
  /-- Memory past the end of a buffer is read. -/
  | overrun
deriving DecidableEq, Repr

instance : MonadLift (Except Error) (Except Fault) where
  monadLift
    | .ok a => .ok a
    | .error e => .error (.error e)

end Cryptoki
