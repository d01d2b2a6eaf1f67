import Cryptoki.Number.Binary64

/-! Decimal numerals, and the floating-point numbers that they are read as: a minus sign, digits, a
fraction after a point and an exponent after the letter e, of which only digits are required. -/

namespace Cryptoki

/-- A numeral, as a whole number that is multiplied with a power of ten. -/
structure Decimal where
  negative : Bool
  significand : Nat
  power : Int
deriving DecidableEq, Repr

namespace Decimal

/-- The number that digits form, and how many of the last digits are left out of it because the
number would not fit a word with them. -/
def ofDigits (digits : List Char) : Nat × Nat :=
  digits.foldl (fun (n, dropped) d =>
    let longer := 10 * n + (d.toNat - '0'.toNat)
    if dropped = 0 && longer < UInt64.size then (longer, 0) else (n, dropped + 1)) (0, 0)

def takeSign : List Char → Bool × List Char
  | '-' :: rest => (true, rest)
  | text => (false, text)

/-- The exponent that ends a numeral, zero when nothing is left. -/
def exponent? : List Char → Option Int
  | [] => some 0
  | e :: rest =>
    let (negative, digits) := takeSign (if rest.head? = some '+' then rest.tail else rest)
    if e.toLower = 'e' && !digits.isEmpty && digits.all Char.isDigit then
      let n : Int := (ofDigits digits).1
      some (if negative then -n else n)
    else none

def parse? (text : List Char) : Option Decimal :=
  let (negative, text) := takeSign text
  let (whole, rest) := text.span Char.isDigit
  let (fraction, rest) := match rest with
    | '.' :: rest => rest.span Char.isDigit
    | _ => ([], rest)
  let (significand, dropped) := ofDigits (whole ++ fraction)
  if whole.isEmpty then none
  else (exponent? rest).map fun e => ⟨negative, significand, e + dropped - fraction.length⟩

def maxPower : Nat := 308

def powerOfTen (n : Nat) : Float := Float.ofScientific 1 false n

/-- Multiplies with a power of ten. A number is divided by powers of ten only, in steps if the power
is too small for one division. -/
def scale (x : Float) (power : Int) : Float :=
  if 0 ≤ power then x * powerOfTen power.toNat
  else
    let steps := (power.natAbs - 1) / maxPower
    Nat.repeat (· / powerOfTen maxPower) steps x / powerOfTen (power.natAbs - maxPower * steps)

/-- The number that a numeral is read as, none when it is too large. The significand is rounded to a
floating-point number and scaled then, so a number of many digits may be read as one next to the
nearest. -/
def toBinary64? (d : Decimal) : Option Binary64 :=
  let magnitude := if d.significand = 0 then 0 else scale (Float.ofNat d.significand) d.power
  if magnitude.isInf then none
  else some ⟨(if d.negative then -magnitude else magnitude).toBits⟩

end Decimal

end Cryptoki
