import Cryptoki.Mechanism.Native

/-! The fields of a parameter that a module writes during a call: the writes themselves, reading
them back after the call, and applying them to the managed mechanism. -/

namespace Cryptoki

/-- A pointer of a native parameter that a module may set to null. -/
inductive OutputPointer where
  | initVector
  | x
  | version
  | clientIv
  | serverIv
  | keyMaterial
deriving DecidableEq, Repr

/-- What a module writes through the pointer to a parameter. -/
structure ParameterWrites where
  /-- Bytes for the vector of password-based key generation. -/
  initVector : List UInt8 := []
  /-- Bytes for the buffer of the wrapping block. -/
  x : List UInt8 := []
  blockContents : Option UInt8 := none
  xLength : Option Word := none
  version : Option Version := none
  /-- The handles of the client and server MAC secrets and of the client and server keys. -/
  handles : Option (Word × Word × Word × Word) := none
  clientIv : List UInt8 := []
  serverIv : List UInt8 := []
  /-- The pointers that are set to null after the writes. -/
  nulled : List OutputPointer := []
deriving DecidableEq, Repr

/-- `storage` with `bytes` written at its head, as many as it holds. -/
def overwrite {α : Type} (storage bytes : List α) : List α :=
  bytes.take storage.length ++ storage.drop bytes.length

theorem length_overwrite {α : Type} (storage bytes : List α) :
    (overwrite storage bytes).length = storage.length := by
  simp [overwrite]
  omega

namespace ParameterWrites

def pointer {α : Type} (w : ParameterWrites) (name : OutputPointer) (p : Pointer α) : Pointer α :=
  if w.nulled.contains name then none else p

/-- The effect of the writes on a parameter structure; input fields stay as they are. -/
def onBlock (w : ParameterWrites) : Block → Block
  | .pbe b =>
    let initVector := w.pointer .initVector (b.initVector.map (overwrite · w.initVector))
    .pbe { b with initVector := initVector }
  | .keyWrapSetOaep b =>
    let x := w.pointer .x (b.x.pointer.map (overwrite · w.x))
    .keyWrapSetOaep {
      blockContents := w.blockContents.getD b.blockContents
      x := ⟨x, w.xLength.getD b.x.length⟩ }
  | .ssl3MasterKeyDerive b =>
    let version := b.version.map fun v => w.version.getD v
    .ssl3MasterKeyDerive { b with version := w.pointer .version version }
  | .ssl3KeyMat b =>
    let returned := b.returned.map fun out =>
      let (clientMacSecret, serverMacSecret, clientKey, serverKey) := w.handles.getD
        (out.clientMacSecret, out.serverMacSecret, out.clientKey, out.serverKey)
      { clientMacSecret := clientMacSecret
        serverMacSecret := serverMacSecret
        clientKey := clientKey
        serverKey := serverKey
        clientIv := w.pointer .clientIv (out.clientIv.map (overwrite · w.clientIv))
        serverIv := w.pointer .serverIv (out.serverIv.map (overwrite · w.serverIv)) }
    .ssl3KeyMat { b with returned := w.pointer .keyMaterial returned }
  | b => b

end ParameterWrites

def NativeMechanism.write (n : NativeMechanism) (w : ParameterWrites) : NativeMechanism :=
  match n.parameter with
  | .block b => { n with parameter := .block (w.onBlock b) }
  | _ => n

inductive OutputData where
  | initVector (iv : List UInt8)
  | keyWrapSetOaep (blockContents : UInt8) (x : List UInt8)
  | version (v : Version)
  | keyMaterial (material : KeyMaterial)
deriving DecidableEq, Repr

structure Output where
  code : Word
  data : OutputData
deriving DecidableEq, Repr

namespace NativeMechanism

variable [Allocator]

def readKeyMaterial (out : KeyMaterialBlock) (ivLength : Nat) : Except Fault KeyMaterial := do
  let clientIv ← Pointer.read out.clientIv ivLength
  let serverIv ← Pointer.read out.serverIv ivLength
  return {
    clientMacSecret := out.clientMacSecret
    serverMacSecret := out.serverMacSecret
    clientKey := out.clientKey
    serverKey := out.serverKey
    clientIv := clientIv.getD []
    serverIv := serverIv.getD [] }

/-- The output fields, for mechanisms that have some and parameters that hold them. -/
def outputData (n : NativeMechanism) : Except Fault (Option OutputData) := do
  if MechanismCode.generatesInitVector n.code then
    match n.parameter with
    | .block (.pbe b) =>
      return (← Pointer.read b.initVector initVectorLength).map .initVector
    | _ => return none
  else if n.code = MechanismCode.keyWrapSetOaep then
    match n.parameter with
    | .block (.keyWrapSetOaep b) =>
      let x ← Pointer.read b.x.pointer (min b.x.length n.xCapacity).toNat
      return some (.keyWrapSetOaep b.blockContents (x.getD []))
    | _ => return none
  else if MechanismCode.derivesMasterKey n.code then
    match n.parameter with
    | .block (.ssl3MasterKeyDerive b) => return b.version.map .version
    | _ => return none
  else if MechanismCode.derivesKeyMaterial n.code then
    match n.parameter with
    | .block (.ssl3KeyMat b) =>
      match b.returned with
      | some out => return some (.keyMaterial (← readKeyMaterial out (b.ivSizeInBits / 8).toNat))
      | none => return none
    | _ => return none
  else return none

/-- The output fields after a call, with the code the call was made with. -/
def output (n : NativeMechanism) : Except Fault (Option Output) := do
  return (← n.outputData).map fun data => ⟨n.code, data⟩

end NativeMechanism

namespace Output

/-- The mechanism with the output fields written into it, when the output belongs to a call with
this mechanism and its parameter has the matching shape. -/
def applied? (o : Output) (m : Mechanism) : Option Mechanism :=
  if o.code ≠ m.code then none
  else match o.data, m.parameters with
    | .initVector iv, some (.pbe p) =>
      if MechanismCode.generatesInitVector m.code then
        some { m with parameters := some (.pbe { p with initVector := iv }) }
      else none
    | .keyWrapSetOaep blockContents x, some (.keyWrapSetOaep _) =>
      if m.code = MechanismCode.keyWrapSetOaep then
        some { m with parameters := some (.keyWrapSetOaep ⟨blockContents, x⟩) }
      else none
    | .version v, some (.ssl3MasterKeyDerive p) =>
      if MechanismCode.derivesMasterKey m.code then
        some { m with parameters := some (.ssl3MasterKeyDerive { p with version := some v }) }
      else none
    | .keyMaterial material, some (.ssl3KeyMat p) =>
      if MechanismCode.derivesKeyMaterial m.code then
        some { m with parameters := some (.ssl3KeyMat { p with returned := material }) }
      else none
    | _, _ => none

/-- The mechanism after a call, unchanged when the output does not match it. -/
def apply (o : Output) (m : Mechanism) : Mechanism := (o.applied? m).getD m

end Output

end Cryptoki
