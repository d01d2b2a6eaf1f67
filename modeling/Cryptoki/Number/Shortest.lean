import Cryptoki.Number.Binary64

/-! The shortest decimal of a floating-point number: of the decimals that round to the number, one
with the fewest digits, among those the nearest to it, and of two equally near ones the larger. -/

namespace Cryptoki.Shortest

/-- The reals that round to a number, as multiples of a common unit: the number is `value / unit`,
and the interval reaches from `low / unit` to `high / unit`, with its ends when `closed`. -/
structure Neighbourhood where
  low : Nat
  value : Nat
  high : Nat
  unit : Nat
  closed : Bool

/-- The reals that round to a finite positive number. Below a power of two the floating-point
numbers lie twice as dense. -/
def Neighbourhood.of (x : Binary64) : Neighbourhood :=
  let m := x.significand
  let halfBelow := if x.fraction = 0 ∧ 1 < x.exponentField then 1 else 2
  let scale := if 0 ≤ x.exponent then Nat.pow 2 x.exponent.toNat else 1
  let unit := if 0 ≤ x.exponent then 1 else Nat.pow 2 (-x.exponent).toNat
  { low := (4 * m - halfBelow) * scale
    value := 4 * m * scale
    high := (4 * m + 2) * scale
    unit := 4 * unit
    closed := m % 2 == 0 }

def Neighbourhood.contains (n : Neighbourhood) (digits : Nat) (power : Int) : Bool :=
  let scaled := if 0 ≤ power then digits * Nat.pow 10 power.toNat * n.unit else digits * n.unit
  let scale := if 0 ≤ power then 1 else Nat.pow 10 (-power).toNat
  if n.closed then n.low * scale ≤ scaled && scaled ≤ n.high * scale
  else n.low * scale < scaled && scaled < n.high * scale

/-- The multiple of `10 ^ power` nearest to the value in the neighbourhood, if one lies there. -/
def Neighbourhood.nearest? (n : Neighbourhood) (power : Int) : Option Nat :=
  let numerator := if 0 ≤ power then n.value else n.value * Nat.pow 10 (-power).toNat
  let denominator := if 0 ≤ power then n.unit * Nat.pow 10 power.toNat else n.unit
  let below := numerator / denominator
  let rest := numerator % denominator
  let nearer := if 2 * rest < denominator then below else below + 1
  let farther := if 2 * rest < denominator then below + 1 else below
  if n.contains nearer power then some nearer
  else if n.contains farther power then some farther
  else none

/-- Tries the powers of ten from `power` downward, `fuel` of them, until one has a multiple in the
neighbourhood. -/
def search (n : Neighbourhood) : (fuel : Nat) → (power : Int) → Nat × Int
  | 0, power => (n.value / n.unit, power)
  | fuel + 1, power =>
    match n.nearest? power with
    | some digits => (digits, power)
    | none => search n fuel (power - 1)

/-- A decimal `digits * 10 ^ power` in positional notation. -/
def positional (digits : Nat) (power : Int) : String :=
  let text := toString digits
  if 0 ≤ power then text ++ "".pushn '0' power.toNat
  else
    let places := (-power).toNat
    let padded := "".pushn '0' (places + 1 - text.length) ++ text
    let whole := padded.length - places
    String.ofList (padded.toList.take whole) ++ "." ++ String.ofList (padded.toList.drop whole)

/-- The text of a floating-point number: its shortest decimal, written without an exponent. -/
def text (x : Binary64) : String :=
  if x.isNaN then "NaN"
  else
    let sign := if x.negative then "-" else ""
    if x.isInfinite then sign ++ "inf"
    else if x.isZero then sign ++ "0"
    else
      let (digits, power) := search (Neighbourhood.of x) 640 309
      sign ++ positional digits power

end Cryptoki.Shortest
