import Cryptoki.Word

/-! The native layout of an attribute value, which the type of the attribute decides. -/

namespace Cryptoki

/-- The native layout of an attribute value. -/
inductive Kind where
  /-- One word: a class, a key type, a size or a mechanism. -/
  | ulong
  /-- One boolean byte. -/
  | bool
  /-- Characters in the encoding of the call. -/
  | text
  /-- A date of eight digits. -/
  | date
  /-- Consecutive mechanism codes. -/
  | mechanismArray
  | templateArray
  /-- Bytes that only the application understands. -/
  | bytes
deriving DecidableEq, Repr

namespace Kind

def ulongTypes : List Word :=
  [0x0, 0x80, 0x87, 0x88, 0x8C, 0x100, 0x121, 0x133, 0x134, 0x160, 0x161, 0x166, 0x201, 0x220,
   0x221, 0x222, 0x224, 0x225, 0x226, 0x227, 0x22D, 0x300, 0x400, 0x401, 0x402, 0x403, 0x404, 0x406,
   0x500]

def boolTypes : List Word :=
  [0x1, 0x2, 0x86, 0x103, 0x104, 0x105, 0x106, 0x107, 0x108, 0x109, 0x10A, 0x10B, 0x10C, 0x162,
   0x163, 0x164, 0x165, 0x170, 0x171, 0x172, 0x200, 0x202, 0x210, 0x223, 0x301, 0x302, 0x405]

def textTypes : List Word :=
  [0x3, 0x10, 0x89, 0x22A, 0x22B, 0x480, 0x481, 0x482]

def dateTypes : List Word :=
  [0x110, 0x111]

def mechanismArrayTypes : List Word :=
  [0x40000600]

/-- The types of attributes that hold nested attributes: the templates for wrapping, unwrapping and
derivation. -/
def templateArrayTypes : List Word :=
  [0x40000211, 0x40000212, 0x40000213]

def of (type : Word) : Kind :=
  if ulongTypes.contains type then ulong
  else if boolTypes.contains type then bool
  else if textTypes.contains type then text
  else if dateTypes.contains type then date
  else if mechanismArrayTypes.contains type then mechanismArray
  else if templateArrayTypes.contains type then templateArray
  else bytes

def name : Kind → String
  | ulong => "Ulong"
  | bool => "Bool"
  | text => "Text"
  | date => "Date"
  | mechanismArray => "MechanismArray"
  | templateArray => "TemplateArray"
  | bytes => "Bytes"

end Kind

end Cryptoki
