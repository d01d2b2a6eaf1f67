import Cryptoki.Word

/-! Hexadecimal and decimal digits of numbers, padded with zeros to a least width. -/

namespace Cryptoki.Digits

/-- The `count` low base-16 digits of `n`, most significant first. -/
def nibbles : (count : Nat) → (n : Nat) → List Nat
  | 0, _ => []
  | count + 1, n => nibbles count (n / 16) ++ [n % 16]

def dropZeros : (count : Nat) → (digits : List Nat) → List Nat
  | count + 1, 0 :: rest => dropZeros count rest
  | _, digits => digits

def upperDigit (d : Nat) : Char :=
  if d < 10 then Char.ofNat (48 + d) else Char.ofNat (55 + d)

/-- The hexadecimal text of a word after `0x`, in upper case and at least `width` digits wide. -/
def hexadecimal (width : Nat) (w : Word) : String :=
  String.ofList ('0' :: 'x' :: (dropZeros (16 - width) (nibbles 16 w.toNat)).map upperDigit)

def decimal (width n : Nat) : String :=
  let text := toString n
  "".pushn '0' (width - text.length) ++ text

end Cryptoki.Digits
