import Cryptoki.Memory

/-! Calendar dates, carried in native memory as eight ASCII digits: four for the year, two for the
month and two for the day. -/

namespace Cryptoki

structure Date where
  year : UInt16
  month : UInt8
  day : UInt8
deriving DecidableEq, Repr

namespace Date

def maxYear : UInt16 := 9999

/-- The `count` low decimal digits of `n` in ASCII, most significant first. -/
def writeDigits : (count : Nat) → (n : Nat) → List UInt8
  | 0, _ => []
  | count + 1, n => writeDigits count (n / 10) ++ [UInt8.ofNat (48 + n % 10)]

/-- The number that ASCII digits spell after `n`. -/
def readDigits (n : Nat) : (digits : List UInt8) → Except Error Nat
  | [] => .ok n
  | d :: rest =>
    if 48 ≤ d && d ≤ 57 then readDigits (n * 10 + (d.toNat - 48)) rest
    else .error (.conversion (.dateDigit d))

def toByte (n : Nat) : Except Error UInt8 :=
  if n < 256 then .ok (UInt8.ofNat n) else .error .integerRange

def toHalfWord (n : Nat) : Except Error UInt16 :=
  if n < 65536 then .ok (UInt16.ofNat n) else .error .integerRange

/-- The native date; a year of more than four digits has none. Of the month and the day only the
last two digits are kept. -/
def toBytes (d : Date) : Except Error (List UInt8) :=
  if d.year ≤ maxYear then
    .ok (writeDigits 4 d.year.toNat ++ writeDigits 2 d.month.toNat ++ writeDigits 2 d.day.toNat)
  else .error (.conversion (.year d.year.toNat))

def ofBytes (bytes : List UInt8) : Except Error Date := do
  if bytes.length ≠ 8 then
    throw (.conversion (.dateLength bytes.length))
  let year ← toHalfWord (← readDigits 0 (bytes.take 4))
  let month ← toByte (← readDigits 0 ((bytes.drop 4).take 2))
  let day ← toByte (← readDigits 0 (bytes.drop 6))
  return ⟨year, month, day⟩

/-! ### Reading in numbers of fixed width

`Fixed.ofBytes` reads a date in bytes and numbers of 32 bits, where a difference, a product or a sum
need not fit. -/

inductive Halt where
  | error (e : Error)
  | overflow
deriving DecidableEq, Repr

namespace Fixed

def sub (a b : UInt8) : Except Halt UInt8 := if b ≤ a then .ok (a - b) else .error .overflow

def mul (a b : UInt32) : Except Halt UInt32 :=
  if a.toNat * b.toNat < UInt32.size then .ok (a * b) else .error .overflow

def add (a b : UInt32) : Except Halt UInt32 :=
  if a.toNat + b.toNat < UInt32.size then .ok (a + b) else .error .overflow

/-- The number of 32 bits that ASCII digits spell after `n`. -/
def readDigits (n : UInt32) : (digits : List UInt8) → Except Halt UInt32
  | [] => .ok n
  | d :: rest =>
    if 48 ≤ d && d ≤ 57 then do
      let shifted ← mul n 10
      let digit ← sub d 48
      let next ← add shifted digit.toUInt32
      readDigits next rest
    else .error (.error (.conversion (.dateDigit d)))

def ofBytes (bytes : List UInt8) : Except Halt Date := do
  if bytes.length ≠ 8 then
    throw (.error (.conversion (.dateLength bytes.length)))
  let year ← readDigits 0 (bytes.take 4)
  let year ← (toHalfWord year.toNat).mapError .error
  let month ← readDigits 0 ((bytes.drop 4).take 2)
  let month ← (toByte month.toNat).mapError .error
  let day ← readDigits 0 (bytes.drop 6)
  let day ← (toByte day.toNat).mapError .error
  return ⟨year, month, day⟩

end Fixed

def text (d : Date) : String :=
  let year := Digits.decimal 4 d.year.toNat
  let month := Digits.decimal 2 d.month.toNat
  let day := Digits.decimal 2 d.day.toNat
  s!"{year}-{month}-{day}"

end Date

end Cryptoki
