import Cryptoki.Proofs.Outcome
import Cryptoki.Proofs.Word
import Cryptoki.Version

/-! Spans as a module reads them: the bytes, the word or the version that a pointer leads to within
the length announced for it. -/

namespace Cryptoki

namespace Pointer

variable {α : Type} {storage storage' : List α}

@[simp] theorem ofStorage_eq_none_iff : ofStorage storage = none ↔ storage = [] := by
  cases storage <;> simp [ofStorage]

@[simp] theorem getD_ofStorage : (ofStorage storage).getD [] = storage := by
  cases storage <;> rfl

theorem eq_of_mem_ofStorage (h : storage' ∈ ofStorage storage) : storage' = storage := by
  cases storage with
  | nil => cases h
  | cons a storage => exact (Option.some.inj h).symm

theorem ofStorage_injective (h : ofStorage storage = ofStorage storage') : storage = storage' := by
  simpa using congrArg (·.getD []) h

end Pointer

theorem Word.toNat_ofLength {n : Nat} {w : Word} (h : Word.ofLength n = .ok w) : w.toNat = n := by
  unfold ofLength at h
  split at h
  case isTrue hn =>
    cases h
    exact UInt64.toNat_ofNat_of_lt' hn
  case isFalse => cases h

namespace Span

/-- The bytes that a module reads through a span. -/
def contents (s : Span) : List UInt8 := (s.pointer.getD []).take s.length.toNat

/-- A span points to `bytes`, or is null when there are none, and announces how many they are. -/
structure Lends (s : Span) (bytes : List UInt8) : Prop where
  pointer : s.pointer = .ofStorage bytes
  length : s.length.toNat = bytes.length

/-- A span points to the eight bytes of a word. -/
structure HoldsWord (s : Span) (w : Word) : Prop where
  pointer : ∃ bytes, s.pointer = some bytes ∧ bytes.length = wordSize ∧ Word.ofBytes bytes = w
  length : s.length = 8

/-- A span points to the two bytes of a version. -/
structure HoldsVersion (s : Span) (v : Version) : Prop where
  pointer : s.pointer = some [v.major, v.minor]
  length : s.length = 2

variable {s : Span} {bytes bytes' : List UInt8}

theorem lends_of_lend (h : lend bytes = .ok s) : s.Lends bytes := by
  cases bytes with
  | nil =>
    cases h
    exact ⟨rfl, rfl⟩
  | cons b bytes =>
    obtain ⟨length, hlength, hs⟩ := bind_eq_ok_iff.mp h
    cases hs
    exact ⟨rfl, Word.toNat_ofLength hlength⟩

theorem Lends.contents_eq (h : s.Lends bytes) : s.contents = bytes := by
  rw [contents, h.pointer, Pointer.getD_ofStorage, h.length, List.take_length]

theorem Lends.unique (h : s.Lends bytes) (h' : s.Lends bytes') : bytes = bytes' :=
  h.contents_eq.symm.trans h'.contents_eq

theorem Lends.null_iff (h : s.Lends bytes) : s.pointer = none ↔ bytes = [] := by
  rw [h.pointer, Pointer.ofStorage_eq_none_iff]

theorem HoldsWord.unique {w w' : Word} (h : s.HoldsWord w) (h' : s.HoldsWord w') : w = w' := by
  obtain ⟨bytes, hbytes, -, rfl⟩ := h.pointer
  obtain ⟨bytes', hbytes', -, rfl⟩ := h'.pointer
  rw [Option.some.inj (hbytes.symm.trans hbytes')]

theorem HoldsVersion.unique {v v' : Version} (h : s.HoldsVersion v) (h' : s.HoldsVersion v') :
    v = v' := by
  have heq := h.pointer.symm.trans h'.pointer
  cases v
  cases v'
  simpa using heq

end Span

end Cryptoki
