import Cryptoki.Proofs.Mechanism.CopyBack

/-! Outputs that are read back from a structure in which a module may have changed any number and
set any pointer to null. Reading stays inside the buffers that were lent, but for one case: how many
bytes are read of the vectors of a derivation is taken from the structure, so a module that makes
that number larger lets the host read past them (`Mechanism.output_eq_overrun_iff`). -/

namespace Cryptoki

/-- A pointer becomes null, or there are as many bytes behind it as before, whichever they are. -/
def Pointer.LeftAs (before after : Pointer (List UInt8)) : Prop :=
  ∀ bytes' ∈ after, ∃ bytes ∈ before, bytes'.length = bytes.length

/-- A record for keys and vectors as a module may leave it. -/
structure KeyMaterialBlock.LeftAs (before after : KeyMaterialBlock) : Prop where
  clientIv : before.clientIv.LeftAs after.clientIv
  serverIv : before.serverIv.LeftAs after.serverIv

/-- A module writes outputs to the structure. -/
def Block.IsWritten : Block → Prop
  | pbe _ | keyWrapSetOaep _ | ssl3MasterKeyDerive _ | ssl3KeyMat _ => True
  | _ => False

/-- A structure as a module may leave it: numbers and contents of buffers can be any, and pointers
to outputs stay or become null. What becomes of a structure without outputs is of no matter. -/
inductive Block.LeftAs : Block → Block → Prop
  | pbe {b b' : PbeBlock} : b.initVector.LeftAs b'.initVector → LeftAs (.pbe b) (.pbe b')
  | keyWrapSetOaep {b b' : SetOaepBlock} : b.x.pointer.LeftAs b'.x.pointer →
      LeftAs (.keyWrapSetOaep b) (.keyWrapSetOaep b')
  | ssl3MasterKeyDerive {b b' : MasterKeyBlock} : (b.version = none → b'.version = none) →
      LeftAs (.ssl3MasterKeyDerive b) (.ssl3MasterKeyDerive b')
  | ssl3KeyMat {b b' : KeyDerivationBlock} :
      (∀ out' ∈ b'.returned, ∃ out ∈ b.returned, out.LeftAs out') →
      LeftAs (.ssl3KeyMat b) (.ssl3KeyMat b')
  | unwritten {b b' : Block} : ¬b.IsWritten → ¬b'.IsWritten → LeftAs b b'

def NativeParameter.LeftAs : NativeParameter → NativeParameter → Prop
  | block b, block b' => b.LeftAs b'
  | block _, _ | _, block _ => False
  | _, _ => True

/-- A lent mechanism as a module may leave it. The host keeps the code and the capacity to itself.
-/
structure NativeMechanism.LeftAs (before after : NativeMechanism) : Prop where
  code : after.code = before.code
  xCapacity : after.xCapacity = before.xCapacity
  parameter : before.parameter.LeftAs after.parameter

namespace Pointer

variable {allocator : Allocator} {p p' : Pointer (List UInt8)} {length : Nat}

theorem LeftAs.refl (p : Pointer (List UInt8)) : p.LeftAs p := fun bytes h => ⟨bytes, h, rfl⟩

theorem LeftAs.room (h : p.LeftAs p') (hroom : p.Room length) : p'.Room length := by
  intro bytes' hbytes'
  obtain ⟨bytes, hbytes, hlength⟩ := h bytes' hbytes'
  rw [hlength]
  exact hroom bytes hbytes

theorem read_eq_overrun {bytes : List UInt8} (h : bytes.length < length) :
    read (some bytes) length = .error .overrun :=
  if_pos h

end Pointer

/-! ### The writes of a module are a case of what it may leave -/

namespace ParameterWrites

theorem pointer_leftAs (w : ParameterWrites) (name : OutputPointer) (p : Pointer (List UInt8))
    (bytes : List UInt8) : p.LeftAs (w.pointer name (p.map (overwrite · bytes))) := by
  intro bytes' hbytes'
  obtain ⟨old, hold, rfl⟩ := Option.map_eq_some_iff.mp (w.pointer_eq_some hbytes')
  exact ⟨old, hold, length_overwrite old bytes⟩

theorem onBlock_leftAs (w : ParameterWrites) (b : Block) : b.LeftAs (w.onBlock b) := by
  cases b
  case pbe b => exact .pbe (w.pointer_leftAs _ _ _)
  case keyWrapSetOaep b => exact .keyWrapSetOaep (w.pointer_leftAs _ _ _)
  case ssl3MasterKeyDerive b =>
    refine .ssl3MasterKeyDerive fun hnone => ?_
    show w.pointer .version (b.version.map _) = none
    rw [hnone, Option.map_none, pointer, ite_self]
  case ssl3KeyMat b =>
    refine .ssl3KeyMat fun out' hout' => ?_
    obtain ⟨out, hout, rfl⟩ := Option.map_eq_some_iff.mp (w.pointer_eq_some hout')
    exact ⟨out, hout, w.pointer_leftAs _ _ _, w.pointer_leftAs _ _ _⟩
  all_goals exact .unwritten not_false not_false

end ParameterWrites

/-! ### Reading past the end -/

namespace NativeMechanism

variable {allocator : Allocator} {n n' : NativeMechanism} {m : Mechanism} {code cap : Word}

theorem write_leftAs (n : NativeMechanism) (w : ParameterWrites) : n.LeftAs (n.write w) := by
  obtain ⟨code, parameter, cap⟩ := n
  cases parameter with
  | block b => exact ⟨rfl, rfl, w.onBlock_leftAs b⟩
  | _ => exact ⟨rfl, rfl, trivial⟩

theorem HasOutputs.isWritten {b : Block} (h : HasOutputs ⟨code, .block b, cap⟩) : b.IsWritten := by
  cases b
  case pbe | keyWrapSetOaep | ssl3MasterKeyDerive | ssl3KeyMat => trivial
  all_goals exact h

theorem output_eq_error_iff {fault : Fault} :
    n.output = .error fault ↔ n.outputData = .error fault :=
  map_eq_error_iff

theorem CopiesBack.ne_overrun (h : n.CopiesBack m) : n.outputData ≠ .error .overrun := by
  obtain ⟨data, hdata, -⟩ := h
  exact hdata.ne_overrun

/-- The vectors that are not null have `room` bytes. -/
theorem readKeyMaterial_eq_overrun_iff {out : KeyMaterialBlock} {room length : Nat}
    (hclient : ∀ iv ∈ out.clientIv, iv.length = room)
    (hserver : ∀ iv ∈ out.serverIv, iv.length = room) :
    readKeyMaterial out length = .error .overrun ↔
      (out.clientIv ≠ none ∨ out.serverIv ≠ none) ∧ room < length := by
  by_cases hlong : room < length
  case neg =>
    have hroom : out.Room length :=
      ⟨fun iv hiv => by rw [hclient iv hiv]; omega, fun iv hiv => by rw [hserver iv hiv]; omega⟩
    exact iff_of_false (readKeyMaterial_yields hroom).ne_overrun fun h => hlong h.2
  case pos =>
    rw [and_iff_left hlong]
    unfold readKeyMaterial
    cases hc : out.clientIv with
    | some iv =>
      rw [Pointer.read_eq_overrun (hclient iv hc ▸ hlong)]
      exact iff_of_true rfl (.inl nofun)
    | none =>
      cases hs : out.serverIv with
      | some iv =>
        rw [Pointer.read_eq_overrun (hserver iv hs ▸ hlong)]
        exact iff_of_true rfl (.inr nofun)
      | none => exact iff_of_false nofun fun h => h.elim (· rfl) (· rfl)

theorem outputData_keyMaterial {b : KeyDerivationBlock}
    (hc : MechanismCode.derivesKeyMaterial code) :
    outputData ⟨code, .block (.ssl3KeyMat b), cap⟩ = match b.returned with
      | some out => do
        return some (.keyMaterial (← readKeyMaterial out (b.ivSizeInBits / 8).toNat))
      | none => .ok none := by
  have hcodes : code = 0x372 ∨ code = 0x376 := by
    simpa [MechanismCode.derivesKeyMaterial] using hc
  obtain ⟨_, _, _, _, _, returned⟩ := b
  rcases hcodes with rfl | rfl <;> cases returned <;> rfl

/-- A module has left a vector in the record that a derivation returns, and a larger length than the
one the vectors were made for. -/
def Stretches (n : NativeMechanism) (m : Mechanism) : Prop :=
  ∃ p b out, MechanismCode.derivesKeyMaterial m.code ∧ m.parameters = some (.ssl3KeyMat p) ∧
    n.parameter = .block (.ssl3KeyMat b) ∧ b.returned = some out ∧
    (out.clientIv ≠ none ∨ out.serverIv ≠ none) ∧
    (p.ivSizeInBits / 8).toNat < (b.ivSizeInBits / 8).toNat

theorem outputData_eq_overrun_iff_keyMaterial {b : KeyDerivationBlock} (p : KeyMaterialParameters)
    (hc : MechanismCode.derivesKeyMaterial code)
    (hleft : ∀ out' ∈ b.returned, (KeyMaterialBlock.blank (p.ivSizeInBits / 8).toNat).LeftAs out') :
    outputData ⟨code, .block (.ssl3KeyMat b), cap⟩ = .error .overrun ↔
      Stretches ⟨code, .block (.ssl3KeyMat b), cap⟩ ⟨code, some (.ssl3KeyMat p)⟩ := by
  have hlength {iv : Pointer (List UInt8)} {ivLength : Nat}
      (h : (Pointer.ofStorage (List.replicate ivLength 0)).LeftAs iv) :
      ∀ bytes ∈ iv, bytes.length = ivLength := by
    intro bytes hbytes
    obtain ⟨blank, hblank, hlength⟩ := h bytes hbytes
    rw [hlength, Pointer.eq_of_mem_ofStorage hblank, List.length_replicate]
  rw [outputData_keyMaterial hc]
  cases hout : b.returned with
  | none =>
    refine iff_of_false nofun ?_
    rintro ⟨_, b', out, -, -, hb', hsome, -⟩
    cases hb'
    rw [hout] at hsome
    cases hsome
  | some out =>
    have hout' := hleft out hout
    rw [map_eq_error_iff,
      readKeyMaterial_eq_overrun_iff (hlength hout'.clientIv) (hlength hout'.serverIv)]
    constructor
    · rintro ⟨hvector, hlong⟩
      exact ⟨p, b, out, hc, rfl, rfl, hout, hvector, hlong⟩
    · rintro ⟨_, _, out', -, hp, hb, hsome, hvector, hlong⟩
      cases hp
      cases hb
      cases hout.symm.trans hsome
      exact ⟨hvector, hlong⟩

theorem not_stretches_of_parameters (h : ∀ p, m.parameters ≠ some (.ssl3KeyMat p)) :
    ¬n.Stretches m := by
  rintro ⟨p, _, _, -, hp, -⟩
  exact h p hp

theorem Stretches.hasOutputs (h : n.Stretches m) (hcode : n.code = m.code) : n.HasOutputs := by
  obtain ⟨p, b, out, hc, -, hb, -⟩ := h
  unfold HasOutputs
  rw [hb, hcode]
  exact hc

/-- The buffers behind a structure that holds a parameter are long enough for the outputs that are
read, whatever is in the structure, but for the vectors of a derivation. -/
theorem outputData_eq_overrun_iff {encoding : Encoding} {b b' : Block} {p : Parameters}
    (hb : b.Holds encoding p) (hleft : b.LeftAs b')
    (hcap : ∀ x, b = .keyWrapSetOaep x → cap = x.x.length)
    (hout : HasOutputs ⟨code, .block b', cap⟩) :
    outputData ⟨code, .block b', cap⟩ = .error .overrun ↔
      Stretches ⟨code, .block b', cap⟩ ⟨code, some p⟩ := by
  -- the structure stays of one shape, and its shape is that of the parameter
  cases hleft with
  | pbe hiv =>
    cases hb with
    | @pbe _ p hb =>
      have hroom := hiv.room fun s hs => by
        rw [hb.initVector] at hs
        exact Option.some.inj hs ▸ p.initVectorLength_le
      exact iff_of_false (copiesBack_pbe p hout hroom).ne_overrun
        (not_stretches_of_parameters nofun)
  | keyWrapSetOaep hx =>
    cases hb with
    | @keyWrapSetOaep _ p hb =>
      have hcapacity : cap.toNat = p.x.length := by
        rw [← hb.x.length]
        exact congrArg UInt64.toNat (hcap _ rfl)
      have hroom := hx.room (hb.x.pointer ▸ Pointer.room_ofStorage p.x)
      obtain rfl : code = MechanismCode.keyWrapSetOaep := hout
      exact iff_of_false (copiesBack_keyWrapSetOaep p hcapacity hroom).ne_overrun
        (not_stretches_of_parameters nofun)
  | ssl3MasterKeyDerive _ =>
    cases hb with
    | @ssl3MasterKeyDerive _ p hb =>
      exact iff_of_false (copiesBack_masterKey p hout).ne_overrun
        (not_stretches_of_parameters nofun)
  | ssl3KeyMat hreturned =>
    cases hb with
    | @ssl3KeyMat _ p hb =>
      refine outputData_eq_overrun_iff_keyMaterial p hout fun out' hout' => ?_
      obtain ⟨out, hmem, hleft⟩ := hreturned out' hout'
      rw [hb.returned] at hmem
      exact Option.some.inj hmem ▸ hleft
  | unwritten _ hb' => exact absurd hout.isWritten hb'

theorem HasOutputs.exists_block {parameter : NativeParameter}
    (h : HasOutputs ⟨code, parameter, cap⟩) : ∃ b, parameter = .block b := by
  cases parameter with
  | block b => exact ⟨b, rfl⟩
  | null | buffer | value => exact h.elim

end NativeMechanism

namespace Mechanism

open NativeMechanism

variable {allocator : Allocator} {m : Mechanism} {encoding : Encoding} {n n' : NativeMechanism}

/-- Whatever a module leaves in the structure that it was lent, reading the outputs stays inside the
buffers, unless it has made the length of the vectors of a derivation larger. -/
theorem output_eq_overrun_iff (h : m.marshal encoding = .ok n) (hleft : n.LeftAs n') :
    n'.output = .error .overrun ↔ n'.Stretches m := by
  have hxcap {b : SetOaepBlock} := xCapacity_of_marshal h (b := b)
  obtain ⟨hcode, hp, -⟩ := represents_of_marshal h
  rw [output_eq_error_iff]
  by_cases hout : n'.HasOutputs
  case neg =>
    refine iff_of_false ?_ fun hs => hout (hs.hasOutputs (hleft.code.trans hcode))
    rw [outputData_of_not_hasOutputs hout]
    exact nofun
  obtain ⟨code, parameter, cap⟩ := n
  obtain ⟨code', parameters⟩ := m
  obtain ⟨code'', parameter', cap'⟩ := n'
  obtain rfl : code = code' := hcode
  obtain ⟨hcode, hcap, hparameter⟩ := hleft
  obtain rfl : code = code'' := hcode.symm
  obtain rfl : cap = cap' := hcap.symm
  obtain ⟨b', rfl⟩ := hout.exists_block
  cases hp
  case block hb =>
    exact outputData_eq_overrun_iff hb hparameter (fun x hx => hxcap (congrArg _ hx)) hout
  -- what is no structure is not left as one
  all_goals exact hparameter.elim

end Mechanism

namespace Mechanism

open NativeMechanism Simulation

/-- A module announces the largest length for a wrapped block of four bytes. -/
theorem output_inside_wrapped :
    let m : Mechanism := ⟨0x401, some (.keyWrapSetOaep ⟨0, [1, 2, 3, 4]⟩)⟩
    let n : NativeMechanism := ⟨0x401, .block (.keyWrapSetOaep ⟨0, ⟨some [1, 2, 3, 4], 4⟩⟩), 4⟩
    let n' := n.write { blockContents := some 7, xLength := some unavailable }
    m.marshal .utf8 = .ok n ∧ n.LeftAs n' ∧ n'.output ≠ .error .overrun := by
  intro m n n'
  have h : m.marshal .utf8 = .ok n := by rfl
  have hleft : n.LeftAs n' := n.write_leftAs _
  refine ⟨h, hleft, fun hoverrun => ?_⟩
  obtain ⟨p, _, _, -, hp, -⟩ := (output_eq_overrun_iff h hleft).mp hoverrun
  cases hp

/-- A module doubles the length of vectors of eight bytes, and sixteen bytes of each are read. -/
theorem longer_vectors_overrun :
    let m : Mechanism :=
      ⟨0x372, some (.ssl3KeyMat ⟨0, 0, 64, false, ⟨[], []⟩, ⟨0, 0, 0, 0, [], []⟩⟩)⟩
    let returned : KeyMaterialBlock := .blank 8
    let n : NativeMechanism :=
      ⟨0x372, .block (.ssl3KeyMat ⟨0, 0, 64, 0, ⟨.null, .null⟩, some returned⟩), 0⟩
    let n' : NativeMechanism :=
      ⟨0x372, .block (.ssl3KeyMat ⟨0, 0, 128, 0, ⟨.null, .null⟩, some returned⟩), 0⟩
    m.marshal .utf8 = .ok n ∧ n.LeftAs n' ∧ n'.output = .error .overrun := by
  intro m returned n n'
  have hleft : n.LeftAs n' :=
    ⟨rfl, rfl, .ssl3KeyMat fun out hout => ⟨out, hout, .refl _, .refl _⟩⟩
  have hread : readKeyMaterial returned (UInt64.toNat (128 / 8)) = .error .overrun := by rfl
  have hoverrun : n'.outputData = .error .overrun := by
    rw [outputData_keyMaterial rfl]
    exact map_eq_error_iff.mpr hread
  exact ⟨by rfl, hleft, output_eq_error_iff.mpr hoverrun⟩

end Mechanism

end Cryptoki
