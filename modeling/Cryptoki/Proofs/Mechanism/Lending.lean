import Cryptoki.Proofs.Mechanism.Marshaling

/-! The memory that the pointers of a lent mechanism lead to, beside the lengths that are announced
for it. A pointer with a length of its own always has as many bytes as are announced. Two pointers
go by the length of another one, and have as many bytes exactly when the buffer that the length is
taken from is not the longer one (`Mechanism.marshal_covers`). -/

namespace Cryptoki

/-- What a pointer leads to: how many bytes lie there, nothing when it is null, and how many are
announced. -/
structure Area where
  backing : Option Nat
  announced : Nat
deriving DecidableEq, Repr

/-- At least as many bytes lie behind a pointer as are announced, and none are announced for a null
pointer. -/
def Area.Covered (a : Area) : Prop := a.announced ≤ a.backing.getD 0

instance : DecidablePred Area.Covered := fun a =>
  inferInstanceAs (Decidable (a.announced ≤ a.backing.getD 0))

namespace Pointer

/-- The area behind a pointer to bytes. -/
def area (p : Pointer (List UInt8)) (announced : Nat) : Area := ⟨p.map List.length, announced⟩

theorem area_covered_iff {p : Pointer (List UInt8)} {announced : Nat} :
    (p.area announced).Covered ↔ announced ≤ (p.getD []).length := by
  cases p <;> rfl

end Pointer

namespace Span

def area (s : Span) : Area := s.pointer.area s.length.toNat

theorem Lends.covered {s : Span} {bytes : List UInt8} (h : s.Lends bytes) : s.area.Covered := by
  refine Pointer.area_covered_iff.mpr (Nat.le_of_eq ?_)
  rw [h.pointer, h.length, Pointer.getD_ofStorage]

theorem HoldsWord.covered {s : Span} {w : Word} (h : s.HoldsWord w) : s.area.Covered := by
  obtain ⟨bytes, hbytes, hlength, -⟩ := h.pointer
  refine Pointer.area_covered_iff.mpr (Nat.le_of_eq ?_)
  rw [hbytes, h.length]
  exact hlength.symm

theorem HoldsVersion.covered {s : Span} {v : Version} (h : s.HoldsVersion v) : s.area.Covered := by
  refine Pointer.area_covered_iff.mpr (Nat.le_of_eq ?_)
  rw [h.pointer, h.length]
  rfl

end Span

/-- The bytes that storage takes. -/
def Storage.size : Storage → Nat
  | bytes b => b.length
  | entries list => list.length * entrySize

namespace NativeValue

def area (v : NativeValue) : Area := ⟨v.pointer.map Storage.size, v.length.toNat⟩

theorem covered_of_ofBytes {b : List UInt8} {v : NativeValue} (h : ofBytes b = .ok v) :
    v.area.Covered := by
  obtain ⟨length, hlength, hv⟩ := bind_eq_ok_iff.mp h
  cases hv
  have hsize : ((Pointer.ofStorage b).map Storage.bytes).map Storage.size =
      (Pointer.ofStorage b).map List.length := by rw [Option.map_map]; rfl
  rw [area, hsize, Word.toNat_ofLength hlength]
  exact Pointer.area_covered_iff.mpr (Nat.le_of_eq (by rw [Pointer.getD_ofStorage]))

end NativeValue

theorem Value.marshalScalar_covered {allocator : Allocator} {v : Value} {encoding : Encoding}
    {native : NativeValue} (h : v.marshalScalar encoding = .ok native) : native.area.Covered := by
  cases v <;> simp only [marshalScalar, bind_eq_ok_iff] at h
  case absent =>
    cases h
    exact Nat.le_refl 0
  case char | chars | date =>
    obtain ⟨bytes, -, hbytes⟩ := h
    exact NativeValue.covered_of_ofBytes hbytes
  case template | float => cases h
  all_goals exact NativeValue.covered_of_ofBytes h

namespace Block

/-- The areas behind the pointers of a parameter structure that have a length of their own. The
vector of password-based key generation and the vectors of a derivation have no length field; their
lengths are agreed upon. -/
def ownAreas : Block → List Area
  | rsaPkcsPss _ | rc2Cbc _ | rc2MacGeneral _ | rc5 _ | rc5MacGeneral _ => []
  | rsaPkcsOaep b => [b.sourceData.area]
  | keaDerive b => [b.randomA.area, b.publicData.area]
  | rc5Cbc b => [b.iv.area]
  | skipjackPrivateWrap b =>
    [b.password.area, b.publicData.area, b.randomA.area, b.primeP.area, b.subprimeQ.area]
  | skipjackRelayx b =>
    [b.oldWrappedX.area, b.oldPassword.area, b.oldPublicData.area, b.oldRandomA.area,
     b.newPassword.area, b.newPublicData.area, b.newRandomA.area]
  | pbe b => [b.initVector.area initVectorLength, b.password.area, b.salt.area]
  | pkcs5Pbkd2 b => [b.saltSourceData.area, b.pseudoRandomData.area, b.password.area]
  | keyWrapSetOaep b => [b.x.area]
  | keyDerivationStringData data => [data.area]
  | ssl3MasterKeyDerive b => [b.random.client.area, b.random.server.area]
  | ssl3KeyMat b =>
    let vectors := match b.returned with
      | some out =>
        let ivLength := (b.ivSizeInBits / 8).toNat
        [out.clientIv.area ivLength, out.serverIv.area ivLength]
      | none => []
    [b.random.client.area, b.random.server.area] ++ vectors
  | ecdh1Derive b | x942Dh1Derive b => [b.sharedInfo.area, b.publicData.area]
  | ecdh2Derive b | x942Dh2Derive b =>
    [b.sharedInfo.area, b.publicData.area, b.publicData2.area]
  | ecmqvDerive b | x942MqvDerive b =>
    [b.sharedInfo.area, b.publicData.area, b.publicData2.area]
  | desCbcEncryptData b => [b.data.area]
  | aesCbcEncryptData b => [b.data.area]
  | aesGcm b => [b.iv.area, b.additionalData.area]

/-- The areas behind the pointers of a parameter structure that go by the length of another one. -/
def sharedAreas : Block → List Area
  | keaDerive b => [b.randomB.area b.randomA.length.toNat]
  | skipjackPrivateWrap b => [b.baseG.area b.primeP.length.toNat]
  | _ => []

theorem Holds.ownAreas_covered [Allocator] {encoding : Encoding} {b : Block} {p : Parameters}
    (h : b.Holds encoding p) : ∀ a ∈ b.ownAreas, a.Covered := by
  cases h <;> simp only [ownAreas, List.forall_mem_cons, List.cons_append, List.nil_append]
  case rsaPkcsPss | rc2Cbc | rc2MacGeneral | rc5 | rc5MacGeneral => exact nofun
  case rsaPkcsOaep hb => exact ⟨hb.sourceData.covered, nofun⟩
  case keaDerive hb => exact ⟨hb.randomA.covered, hb.publicData.covered, nofun⟩
  case rc5Cbc hb => exact ⟨hb.iv.covered, nofun⟩
  case skipjackPrivateWrap hb =>
    exact ⟨hb.password.covered, hb.publicData.covered, hb.randomA.covered, hb.primeP.covered,
      hb.subprimeQ.covered, nofun⟩
  case skipjackRelayx hb =>
    exact ⟨hb.oldWrappedX.covered, hb.oldPassword.covered, hb.oldPublicData.covered,
      hb.oldRandomA.covered, hb.newPassword.covered, hb.newPublicData.covered,
      hb.newRandomA.covered, nofun⟩
  case pbe p hb =>
    refine ⟨?_, hb.password.covered, hb.salt.covered, nofun⟩
    rw [hb.initVector, Pointer.area_covered_iff]
    simp [PbeParameters.extendedVector]
    omega
  case pkcs5Pbkd2 hb =>
    exact ⟨hb.saltSourceData.covered, hb.pseudoRandomData.covered, hb.password.covered, nofun⟩
  case keyWrapSetOaep hb => exact ⟨hb.x.covered, nofun⟩
  case keyDerivationStringData hs => exact ⟨hs.covered, nofun⟩
  case ssl3MasterKeyDerive hb =>
    exact ⟨hb.random.client.covered, hb.random.server.covered, nofun⟩
  case ssl3KeyMat hb =>
    refine ⟨hb.random.client.covered, hb.random.server.covered, ?_⟩
    rw [hb.returned, hb.ivSizeInBits]
    simp [KeyMaterialBlock.blank, Pointer.area_covered_iff]
  case ecdh1Derive hb | x942Dh1Derive hb =>
    exact ⟨hb.sharedInfo.covered, hb.publicData.covered, nofun⟩
  case ecdh2Derive hb | x942Dh2Derive hb =>
    exact ⟨hb.sharedInfo.covered, hb.publicData.covered, hb.publicData2.covered, nofun⟩
  case ecmqvDerive hb | x942MqvDerive hb =>
    exact ⟨hb.sharedInfo.covered, hb.publicData.covered, hb.publicData2.covered, nofun⟩
  case desCbcEncryptData hb => exact ⟨hb.data.covered, nofun⟩
  case aesCbcEncryptData hb => exact ⟨hb.data.covered, nofun⟩
  case aesGcm hb => exact ⟨hb.iv.covered, hb.additionalData.covered, nofun⟩

end Block

/-- The two buffers that one length is announced for: the other one has at least as many bytes as
the one that the length is taken from. -/
def Parameters.SharesLengths : Parameters → Prop
  | keaDerive p => p.randomA.length ≤ p.randomB.length
  | skipjackPrivateWrap p => p.primeP.length ≤ p.baseG.length
  | _ => True

theorem Block.Holds.sharedAreas_covered_iff [Allocator] {encoding : Encoding} {b : Block}
    {p : Parameters} (h : b.Holds encoding p) :
    (∀ a ∈ b.sharedAreas, a.Covered) ↔ p.SharesLengths := by
  cases h <;> simp only [sharedAreas, Parameters.SharesLengths, List.forall_mem_singleton,
    List.not_mem_nil, false_implies, implies_true]
  case keaDerive hb =>
    rw [Pointer.area_covered_iff, hb.randomB, Pointer.getD_ofStorage, hb.randomA.length]
  case skipjackPrivateWrap hb =>
    rw [Pointer.area_covered_iff, hb.baseG, Pointer.getD_ofStorage, hb.primeP.length]

namespace NativeMechanism

/-- The areas behind the pointer to the parameter, and behind its pointers that have a length of
their own. -/
def ownAreas (n : NativeMechanism) : List Area :=
  match n.parameter with
  | .null => [⟨none, n.parameterLength.toNat⟩]
  | .buffer s => [s.area]
  | .value v => [v.area]
  | .block b => ⟨some (structSize b.fieldTypes), n.parameterLength.toNat⟩ :: b.ownAreas

/-- The areas behind the pointers that go by the length of another one. -/
def sharedAreas (n : NativeMechanism) : List Area :=
  match n.parameter with
  | .block b => b.sharedAreas
  | _ => []

/-- All areas that a lent mechanism leads to. -/
def areas (n : NativeMechanism) : List Area := n.ownAreas ++ n.sharedAreas

end NativeMechanism

/-- No buffer is longer than one that its length is announced for too. -/
def Mechanism.SharesLengths (m : Mechanism) : Prop := ∀ p ∈ m.parameters, p.SharesLengths

namespace NativeMechanism.Represents

variable {allocator : Allocator} {n : NativeMechanism} {encoding : Encoding} {m : Mechanism}

theorem ownAreas_covered (h : n.Represents encoding m) : ∀ a ∈ n.ownAreas, a.Covered := by
  obtain ⟨code, parameter, xCapacity⟩ := n
  obtain ⟨code', parameters⟩ := m
  obtain ⟨-, hp, hlength⟩ := h
  cases hp <;> simp only [ownAreas, List.forall_mem_cons]
  case null => exact ⟨Nat.le_refl 0, nofun⟩
  case bytes hs => exact ⟨hs.covered, nofun⟩
  case long hs | objectHandle hs | rc2 hs | macGeneral hs | extract hs => exact ⟨hs.covered, nofun⟩
  case version hs => exact ⟨hs.covered, nofun⟩
  case other hv => exact ⟨Value.marshalScalar_covered hv, nofun⟩
  case block hb => exact ⟨Nat.le_of_eq (hlength _ rfl), hb.ownAreas_covered⟩

theorem sharedAreas_covered_iff (h : n.Represents encoding m) :
    (∀ a ∈ n.sharedAreas, a.Covered) ↔ m.SharesLengths := by
  have hp := h.parameter
  obtain ⟨code, parameter, xCapacity⟩ := n
  obtain ⟨code', parameters⟩ := m
  unfold Mechanism.SharesLengths
  cases hp
  case block hb =>
    simp [sharedAreas, hb.sharedAreas_covered_iff]
  all_goals simp [sharedAreas, Parameters.SharesLengths]

end NativeMechanism.Represents

namespace Mechanism

variable {allocator : Allocator} {m : Mechanism} {encoding : Encoding} {n : NativeMechanism}

/-- Every pointer of a lent mechanism with a length of its own has as many bytes behind it as are
announced. All its pointers have exactly when no buffer is longer than another one that shares its
length. -/
theorem marshal_covers (h : m.marshal encoding = .ok n) :
    (∀ a ∈ n.ownAreas, a.Covered) ∧ ((∀ a ∈ n.areas, a.Covered) ↔ m.SharesLengths) := by
  have hn := represents_of_marshal h
  refine ⟨hn.ownAreas_covered, ?_⟩
  rw [NativeMechanism.areas, List.forall_mem_append, hn.sharedAreas_covered_iff,
    and_iff_right hn.ownAreas_covered]

end Mechanism

namespace Mechanism

open Simulation

/-- Random data of equal lengths on both sides of a key exchange. -/
theorem marshal_covers_equal_randoms :
    let m : Mechanism := ⟨0x1011, some (.keaDerive ⟨true, [1, 2], [3, 4], []⟩)⟩
    let n : NativeMechanism := ⟨0x1011, .block (.keaDerive
      ⟨1, ⟨some [1, 2], 2⟩, some [3, 4], ⟨none, 0⟩⟩), 0⟩
    m.marshal .utf8 = .ok n ∧ ∀ a ∈ n.areas, a.Covered := by
  intro m n
  have h : m.marshal .utf8 = .ok n := by rfl
  refine ⟨h, (marshal_covers h).2.mpr ?_⟩
  rintro p ⟨⟩
  exact Nat.le_refl 2

/-- A key exchange with two bytes of random data on one side and one byte on the other announces two
bytes for both. -/
theorem short_random_not_covered :
    let m : Mechanism := ⟨0x1011, some (.keaDerive ⟨true, [1, 2], [3], []⟩)⟩
    ∃ n, m.marshal .utf8 = .ok n ∧ ⟨some 1, 2⟩ ∈ n.areas ∧ ¬∀ a ∈ n.areas, a.Covered :=
  ⟨_, rfl, by decide, by decide⟩

end Mechanism

end Cryptoki
