/-! Binary floating-point numbers of 64 bits, by their bits: a sign, an exponent of 11 bits and a
fraction of 52 bits. -/

namespace Cryptoki

structure Binary64 where
  bits : UInt64
deriving Repr

namespace Binary64

/-- The values that are written as names, and the zero that has a sign. -/
def named : List (String × Binary64) :=
  [("NaN", ⟨0x7FF8000000000000⟩), ("inf", ⟨0x7FF0000000000000⟩), ("-inf", ⟨0xFFF0000000000000⟩),
   ("-0", ⟨0x8000000000000000⟩)]

def negative (x : Binary64) : Bool := x.bits >>> 63 == 1

def exponentField (x : Binary64) : Nat := ((x.bits >>> 52) &&& 0x7FF).toNat

def fraction (x : Binary64) : Nat := (x.bits &&& 0xFFFFFFFFFFFFF).toNat

def isNaN (x : Binary64) : Bool := x.exponentField == 0x7FF && x.fraction != 0

def isInfinite (x : Binary64) : Bool := x.exponentField == 0x7FF && x.fraction == 0

def isZero (x : Binary64) : Bool := x.exponentField == 0 && x.fraction == 0

/-- Numerical equality: the zeros are equal, and what is no number differs from itself. -/
def equal (x y : Binary64) : Bool :=
  !x.isNaN && !y.isNaN && (x.bits == y.bits || (x.isZero && y.isZero))

def significand (x : Binary64) : Nat :=
  if x.exponentField = 0 then x.fraction else x.fraction + 0x10000000000000

/-- The power of two that the significand of a finite number is multiplied with. -/
def exponent (x : Binary64) : Int :=
  if x.exponentField = 0 then -1074 else (x.exponentField : Int) - 1075

end Binary64

end Cryptoki
