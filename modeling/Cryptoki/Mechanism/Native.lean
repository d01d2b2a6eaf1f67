import Cryptoki.Attribute.Native
import Cryptoki.Mechanism.Parameters

/-! Mechanisms in native memory: a code, and a pointer to the parameter with its length. Parameters
of several fields are native structures, here blocks; a block points to the buffers of the managed
parameter, null where one is empty, and to buffers that the module writes its outputs to. -/

namespace Cryptoki

/-- The length of the initialization vector that password-based key generation returns. -/
def initVectorLength : Nat := 8

structure OaepBlock where
  hash : Word
  maskGeneration : Word
  source : Word
  sourceData : Span
deriving DecidableEq, Repr

/-- The length of `randomA` is announced for `randomB` too. -/
structure KeaBlock where
  isSender : UInt8
  randomA : Span
  randomB : Pointer (List UInt8)
  publicData : Span
deriving DecidableEq, Repr

structure Rc5CbcBlock where
  wordSize : Word
  rounds : Word
  iv : Span
deriving DecidableEq, Repr

/-- The length of `primeP` is announced for `baseG` too. -/
structure PrivateWrapBlock where
  password : Span
  publicData : Span
  randomA : Span
  primeP : Span
  baseG : Pointer (List UInt8)
  subprimeQ : Span
deriving DecidableEq, Repr

structure RelayBlock where
  oldWrappedX : Span
  oldPassword : Span
  oldPublicData : Span
  oldRandomA : Span
  newPassword : Span
  newPublicData : Span
  newRandomA : Span
deriving DecidableEq, Repr

/-- The vector is a buffer for the module to write to; no length is announced for it. -/
structure PbeBlock where
  initVector : Pointer (List UInt8)
  password : Span
  salt : Span
  iteration : Word
deriving DecidableEq, Repr

/-- The length of the password lies behind a pointer of its own. -/
structure Pbkd2Block where
  saltSource : Word
  saltSourceData : Span
  iterations : Word
  pseudoRandom : Word
  pseudoRandomData : Span
  password : Span
deriving DecidableEq, Repr

/-- All of it is for the module to write to. -/
structure SetOaepBlock where
  blockContents : UInt8
  x : Span
deriving DecidableEq, Repr

structure RandomBlock where
  client : Span
  server : Span
deriving DecidableEq, Repr

structure MasterKeyBlock where
  random : RandomBlock
  version : Pointer Version
deriving DecidableEq, Repr

/-- The record that the module writes keys and vectors to. -/
structure KeyMaterialBlock where
  clientMacSecret : Word
  serverMacSecret : Word
  clientKey : Word
  serverKey : Word
  clientIv : Pointer (List UInt8)
  serverIv : Pointer (List UInt8)
deriving DecidableEq, Repr

structure KeyDerivationBlock where
  macSizeInBits : Word
  keySizeInBits : Word
  ivSizeInBits : Word
  isExport : UInt8
  random : RandomBlock
  returned : Pointer KeyMaterialBlock
deriving DecidableEq, Repr

structure AgreementBlock where
  derivation : Word
  sharedInfo : Span
  publicData : Span
deriving DecidableEq, Repr

structure HybridBlock where
  derivation : Word
  sharedInfo : Span
  publicData : Span
  privateDataLength : Word
  privateData : Word
  publicData2 : Span
deriving DecidableEq, Repr

structure MqvBlock where
  derivation : Word
  sharedInfo : Span
  publicData : Span
  privateDataLength : Word
  privateData : Word
  publicData2 : Span
  publicKey : Word
deriving DecidableEq, Repr

structure CbcDataBlock (n : Nat) where
  iv : Vector UInt8 n
  data : Span
deriving DecidableEq, Repr

structure GcmBlock where
  iv : Span
  ivBits : Word
  additionalData : Span
  tagBits : Word
deriving DecidableEq, Repr

inductive Block where
  | rsaPkcsOaep (b : OaepBlock)
  | rsaPkcsPss (b : PssParameters)
  | keaDerive (b : KeaBlock)
  | rc2Cbc (b : Rc2CbcParameters)
  | rc2MacGeneral (b : Rc2MacParameters)
  | rc5 (b : Rc5Parameters)
  | rc5Cbc (b : Rc5CbcBlock)
  | rc5MacGeneral (b : Rc5MacParameters)
  | skipjackPrivateWrap (b : PrivateWrapBlock)
  | skipjackRelayx (b : RelayBlock)
  | pbe (b : PbeBlock)
  | pkcs5Pbkd2 (b : Pbkd2Block)
  | keyWrapSetOaep (b : SetOaepBlock)
  | keyDerivationStringData (data : Span)
  | ssl3MasterKeyDerive (b : MasterKeyBlock)
  | ssl3KeyMat (b : KeyDerivationBlock)
  | ecdh1Derive (b : AgreementBlock)
  | ecdh2Derive (b : HybridBlock)
  | ecmqvDerive (b : MqvBlock)
  | x942Dh1Derive (b : AgreementBlock)
  | x942Dh2Derive (b : HybridBlock)
  | x942MqvDerive (b : MqvBlock)
  | desCbcEncryptData (b : CbcDataBlock 8)
  | aesCbcEncryptData (b : CbcDataBlock 16)
  | aesGcm (b : GcmBlock)
deriving DecidableEq, Repr

def Block.size : Block → Word
  | rsaPkcsOaep _ => 40
  | rsaPkcsPss _ => 24
  | keaDerive _ => 48
  | rc2Cbc _ => 16
  | rc2MacGeneral _ => 16
  | rc5 _ => 16
  | rc5Cbc _ => 32
  | rc5MacGeneral _ => 24
  | skipjackPrivateWrap _ => 88
  | skipjackRelayx _ => 112
  | pbe _ => 48
  | pkcs5Pbkd2 _ => 72
  | keyWrapSetOaep _ => 24
  | keyDerivationStringData _ => 16
  | ssl3MasterKeyDerive _ => 40
  | ssl3KeyMat _ => 72
  | ecdh1Derive _ => 40
  | ecdh2Derive _ => 72
  | ecmqvDerive _ => 80
  | x942Dh1Derive _ => 40
  | x942Dh2Derive _ => 72
  | x942MqvDerive _ => 80
  | desCbcEncryptData _ => 24
  | aesCbcEncryptData _ => 32
  | aesGcm _ => 48

/-- What the parameter pointer of a mechanism leads to. -/
inductive NativeParameter where
  | null
  /-- Bytes, a word or a version. -/
  | buffer (span : Span)
  /-- A value laid out like the value of an attribute. -/
  | value (v : NativeValue)
  | block (b : Block)
deriving Repr

/-- A mechanism as it is lent to a module for one call. -/
structure NativeMechanism where
  code : Word
  parameter : NativeParameter
  /-- The length of the buffer that the wrapping block of an electronic transaction points to. -/
  xCapacity : Word
deriving Repr

namespace NativeMechanism

def parameterLength (n : NativeMechanism) : Word :=
  match n.parameter with
  | .null => 0
  | .buffer span => span.length
  | .value v => v.length
  | .block b => b.size

/-- Whether derived keys are returned through the parameter instead of a key handle. -/
def returnsKeyMaterial (n : NativeMechanism) : Bool := MechanismCode.derivesKeyMaterial n.code

def describe (n : NativeMechanism) : String :=
  s!"NativeMechanism \x7b mechanism: {Digits.hexadecimal 1 n.code}, .. \x7d"

end NativeMechanism

namespace RandomData

def marshal (r : RandomData) : Except Error RandomBlock := do
  return { client := ← Span.lend r.client, server := ← Span.lend r.server }

end RandomData

def lendPassword [Allocator] (password : List Char) (encoding : Encoding) : Except Error Span := do
  Span.lend (← Value.encodeChars password encoding)

namespace AgreementParameters

def marshal (p : AgreementParameters) : Except Error AgreementBlock := do
  return {
    derivation := p.derivation
    sharedInfo := ← Span.lend p.sharedInfo
    publicData := ← Span.lend p.publicData }

end AgreementParameters

namespace HybridParameters

def marshal (p : HybridParameters) : Except Error HybridBlock := do
  return {
    derivation := p.derivation
    sharedInfo := ← Span.lend p.sharedInfo
    publicData := ← Span.lend p.publicData
    privateDataLength := p.privateDataLength
    privateData := p.privateData
    publicData2 := ← Span.lend p.publicData2 }

end HybridParameters

namespace MqvParameters

def marshal (p : MqvParameters) : Except Error MqvBlock := do
  return {
    derivation := p.derivation
    sharedInfo := ← Span.lend p.sharedInfo
    publicData := ← Span.lend p.publicData
    privateDataLength := p.privateDataLength
    privateData := p.privateData
    publicData2 := ← Span.lend p.publicData2
    publicKey := p.publicKey }

end MqvParameters

namespace CbcDataParameters

def marshal {n : Nat} (p : CbcDataParameters n) : Except Error (CbcDataBlock n) := do
  return { iv := p.iv, data := ← Span.lend p.data }

end CbcDataParameters

namespace KeaParameters

def marshal (p : KeaParameters) : Except Error KeaBlock := do
  let randomA ← Span.lend p.randomA
  let randomB ← Span.lend p.randomB
  let publicData ← Span.lend p.publicData
  return {
    isSender := boolToByte p.isSender
    randomA := randomA
    randomB := randomB.pointer
    publicData := publicData }

end KeaParameters

namespace PrivateWrapParameters

def marshal [Allocator] (p : PrivateWrapParameters) : Except Fault PrivateWrapBlock := do
  let password ← Span.lendCopy p.password
  let publicData ← Span.lend p.publicData
  let randomA ← Span.lend p.randomA
  let primeP ← Span.lend p.primeP
  let baseG ← Span.lend p.baseG
  let subprimeQ ← Span.lend p.subprimeQ
  return {
    password := password
    publicData := publicData
    randomA := randomA
    primeP := primeP
    baseG := baseG.pointer
    subprimeQ := subprimeQ }

end PrivateWrapParameters

namespace RelayParameters

def marshal [Allocator] (p : RelayParameters) : Except Fault RelayBlock := do
  return {
    oldWrappedX := ← Span.lend p.oldWrappedX
    oldPassword := ← Span.lendCopy p.oldPassword
    oldPublicData := ← Span.lend p.oldPublicData
    oldRandomA := ← Span.lend p.oldRandomA
    newPassword := ← Span.lendCopy p.newPassword
    newPublicData := ← Span.lend p.newPublicData
    newRandomA := ← Span.lend p.newRandomA }

end RelayParameters

namespace PbeParameters

/-- The buffer for the vector holds the managed vector and then zeros, and has room for at least the
vector that is returned. -/
def marshal [Allocator] (p : PbeParameters) (encoding : Encoding) : Except Fault PbeBlock := do
  Memory.insist (.bytes (max initVectorLength p.initVector.length))
  let zeros := List.replicate (initVectorLength - p.initVector.length) 0
  return {
    initVector := some (p.initVector ++ zeros)
    password := ← lendPassword p.password encoding
    salt := ← Span.lend p.salt
    iteration := p.iteration }

end PbeParameters

namespace Pbkd2Parameters

def marshal [Allocator] (p : Pbkd2Parameters) (encoding : Encoding) :
    Except Error Pbkd2Block := do
  return {
    saltSource := p.saltSource
    saltSourceData := ← Span.lend p.saltSourceData
    iterations := p.iterations
    pseudoRandom := p.pseudoRandom
    pseudoRandomData := ← Span.lend p.pseudoRandomData
    password := ← lendPassword p.password encoding }

end Pbkd2Parameters

namespace KeyMaterialParameters

/-- The vectors are zeroed buffers of the announced size, whatever that is. -/
def marshal [Allocator] (p : KeyMaterialParameters) : Except Fault KeyDerivationBlock := do
  let ivLength := (p.ivSizeInBits / 8).toNat
  let clientIv ← Memory.zeroed ivLength
  let serverIv ← Memory.zeroed ivLength
  let random ← p.random.marshal
  return {
    macSizeInBits := p.macSizeInBits
    keySizeInBits := p.keySizeInBits
    ivSizeInBits := p.ivSizeInBits
    isExport := boolToByte p.isExport
    random := random
    returned := some {
      clientMacSecret := 0
      serverMacSecret := 0
      clientKey := 0
      serverKey := 0
      clientIv := Pointer.ofStorage clientIv
      serverIv := Pointer.ofStorage serverIv } }

end KeyMaterialParameters

variable [Allocator]

namespace Parameters

def lendWord (w : Word) : NativeParameter := .buffer ⟨some w.toBytes, 8⟩

/-- The native form of a parameter; characters of passwords and of other values are written in the
encoding. -/
def marshal (p : Parameters) (encoding : Encoding) : Except Fault NativeParameter := do
  match p with
  | bytes b => return .buffer (← Span.lend b)
  | long v => return lendWord (Word.ofSigned v)
  | objectHandle w | rc2 w | macGeneral w | extract w => return lendWord w
  | version v => return .buffer ⟨some v.toBytes, 2⟩
  | rsaPkcsOaep p =>
    let sourceData ← Span.lend p.sourceData
    return .block (.rsaPkcsOaep ⟨p.hash, p.maskGeneration, p.source, sourceData⟩)
  | rsaPkcsPss p => return .block (.rsaPkcsPss p)
  | keaDerive p => return .block (.keaDerive (← p.marshal))
  | rc2Cbc p => return .block (.rc2Cbc p)
  | rc2MacGeneral p => return .block (.rc2MacGeneral p)
  | rc5 p => return .block (.rc5 p)
  | rc5Cbc p =>
    let iv ← Span.lend p.iv
    return .block (.rc5Cbc ⟨p.wordSize, p.rounds, iv⟩)
  | rc5MacGeneral p => return .block (.rc5MacGeneral p)
  | skipjackPrivateWrap p => return .block (.skipjackPrivateWrap (← p.marshal))
  | skipjackRelayx p => return .block (.skipjackRelayx (← p.marshal))
  | pbe p => return .block (.pbe (← p.marshal encoding))
  | pkcs5Pbkd2 p => return .block (.pkcs5Pbkd2 (← p.marshal encoding))
  | keyWrapSetOaep p => return .block (.keyWrapSetOaep ⟨p.blockContents, ← Span.lendCopy p.x⟩)
  | keyDerivationStringData b => return .block (.keyDerivationStringData (← Span.lend b))
  | ssl3MasterKeyDerive p =>
    let random ← p.random.marshal
    return .block (.ssl3MasterKeyDerive ⟨random, p.version⟩)
  | ssl3KeyMat p => return .block (.ssl3KeyMat (← p.marshal))
  | ecdh1Derive p => return .block (.ecdh1Derive (← p.marshal))
  | ecdh2Derive p => return .block (.ecdh2Derive (← p.marshal))
  | ecmqvDerive p => return .block (.ecmqvDerive (← p.marshal))
  | x942Dh1Derive p => return .block (.x942Dh1Derive (← p.marshal))
  | x942Dh2Derive p => return .block (.x942Dh2Derive (← p.marshal))
  | x942MqvDerive p => return .block (.x942MqvDerive (← p.marshal))
  | desCbcEncryptData p => return .block (.desCbcEncryptData (← p.marshal))
  | aesCbcEncryptData p => return .block (.aesCbcEncryptData (← p.marshal))
  | aesGcm p =>
    let iv ← Span.lend p.iv
    let additionalData ← Span.lend p.additionalData
    return .block (.aesGcm ⟨iv, p.ivBits, additionalData, p.tagBits⟩)
  | other v => return .value (← v.marshalScalar encoding)

end Parameters

namespace Mechanism

def marshal (m : Mechanism) (encoding : Encoding) : Except Fault NativeMechanism := do
  match m.parameters with
  | none => return ⟨m.code, .null, 0⟩
  | some p =>
    let parameter ← p.marshal encoding
    let xCapacity := match parameter with
      | .block (.keyWrapSetOaep b) => b.x.length
      | _ => 0
    return ⟨m.code, parameter, xCapacity⟩

end Mechanism

end Cryptoki
