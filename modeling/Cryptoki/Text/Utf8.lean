/-! UTF-8 over byte lists. A malformed sequence is a maximal run of bytes that begins some
well-formed sequence, or a single byte that begins none; lossy decoding puts one replacement
character in the place of each. -/

namespace Cryptoki.Utf8

def encode (text : List Char) : List UInt8 := text.flatMap String.utf8EncodeChar

def isContinuation (b : UInt8) : Bool := 0x80 ≤ b && b ≤ 0xBF

/-- The bytes allowed after a lead byte: a range for each position. `none` for a byte that begins no
sequence of several bytes. -/
def following (lead : UInt8) : Option (List (UInt8 × UInt8)) :=
  if 0xC2 ≤ lead && lead ≤ 0xDF then some [(0x80, 0xBF)]
  else if lead == 0xE0 then some [(0xA0, 0xBF), (0x80, 0xBF)]
  else if lead == 0xED then some [(0x80, 0x9F), (0x80, 0xBF)]
  else if 0xE1 ≤ lead && lead ≤ 0xEF then some [(0x80, 0xBF), (0x80, 0xBF)]
  else if lead == 0xF0 then some [(0x90, 0xBF), (0x80, 0xBF), (0x80, 0xBF)]
  else if 0xF1 ≤ lead && lead ≤ 0xF3 then some [(0x80, 0xBF), (0x80, 0xBF), (0x80, 0xBF)]
  else if lead == 0xF4 then some [(0x80, 0x8F), (0x80, 0xBF), (0x80, 0xBF)]
  else none

/-- How many bytes at the head of `bytes` lie in the ranges, position by position. -/
def matching : (ranges : List (UInt8 × UInt8)) → (bytes : List UInt8) → Nat
  | (low, high) :: ranges, b :: bytes =>
    if low ≤ b && b ≤ high then matching ranges bytes + 1 else 0
  | _, _ => 0

/-- The number that a lead byte and its continuation bytes carry. -/
def codePoint (lead : UInt8) (rest : List UInt8) : Nat :=
  let low := match rest.length with
    | 1 => 0x1F
    | 2 => 0x0F
    | _ => 0x07
  rest.foldl (fun n b => n * 64 + (b &&& 0x3F).toNat) (lead &&& low).toNat

inductive Item where
  | char (c : Char)
  /-- A malformed sequence with bytes after it. -/
  | malformed
  /-- A well-formed beginning that the end of the bytes cuts off. -/
  | incomplete
deriving DecidableEq, Repr

/-- The item at the head of `lead :: rest` and its length in bytes. -/
def item (lead : UInt8) (rest : List UInt8) : Item × Nat :=
  if lead < 0x80 then (.char (Char.ofNat lead.toNat), 1)
  else match following lead with
    | none => (.malformed, 1)
    | some ranges =>
      let n := matching ranges rest
      if n = ranges.length then (.char (Char.ofNat (codePoint lead (rest.take n))), n + 1)
      else if n = rest.length then (.incomplete, n + 1)
      else (.malformed, n + 1)

def replacement : Char := '\ufffd'

/-- The text of a byte list, with a replacement character for each malformed sequence. -/
def decodeLossy : (bytes : List UInt8) → List Char
  | [] => []
  | lead :: rest =>
    let (found, n) := item lead rest
    let c := match found with
      | .char c => c
      | _ => replacement
    c :: decodeLossy (rest.drop (n - 1))
termination_by bytes => bytes.length
decreasing_by
  rw [List.length_drop, List.length_cons]
  omega

structure Flaw where
  /-- How many well-formed bytes precede it. -/
  index : Nat
  /-- Its length; `none` when the end of the bytes cuts it off. -/
  length : Option Nat
deriving DecidableEq, Repr

/-- The first flaw of a byte list that stands after `index` well-formed bytes. -/
def firstFlaw (index : Nat) : (bytes : List UInt8) → Option Flaw
  | [] => none
  | lead :: rest =>
    match item lead rest with
    | (.char _, n) => firstFlaw (index + n) (rest.drop (n - 1))
    | (.malformed, n) => some ⟨index, some n⟩
    | (.incomplete, _) => some ⟨index, none⟩
termination_by bytes => bytes.length
decreasing_by
  rw [List.length_drop, List.length_cons]
  omega

def WellFormed (bytes : List UInt8) : Prop := ∃ text, encode text = bytes

def Flaw.message : Flaw → String
  | ⟨index, some n⟩ => s!"invalid utf-8 sequence of {n} bytes from index {index}"
  | ⟨index, none⟩ => s!"incomplete utf-8 byte sequence from index {index}"

end Cryptoki.Utf8
