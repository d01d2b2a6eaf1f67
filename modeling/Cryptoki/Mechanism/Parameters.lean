import Cryptoki.Attribute.Value
import Cryptoki.Mechanism.Code

/-! Mechanisms and their managed parameters. The lengths that native parameters announce follow from
the buffers here, so no length is kept beside a buffer. -/

namespace Cryptoki

/-- RSA encryption with optimal asymmetric padding. -/
structure OaepParameters where
  hash : Word
  maskGeneration : Word
  source : Word
  sourceData : List UInt8
deriving DecidableEq, Repr

/-- RSA signatures with a probabilistic scheme. -/
structure PssParameters where
  hash : Word
  maskGeneration : Word
  saltLength : Word
deriving DecidableEq, Repr

/-- Key exchange. The length of the random data is that of `randomA`. -/
structure KeaParameters where
  isSender : Bool
  randomA : List UInt8
  randomB : List UInt8
  publicData : List UInt8
deriving DecidableEq, Repr

structure Rc2CbcParameters where
  effectiveBits : Word
  iv : Vector UInt8 8
deriving DecidableEq, Repr

structure Rc2MacParameters where
  effectiveBits : Word
  macLength : Word
deriving DecidableEq, Repr

structure Rc5Parameters where
  wordSize : Word
  rounds : Word
deriving DecidableEq, Repr

structure Rc5CbcParameters where
  wordSize : Word
  rounds : Word
  iv : List UInt8
deriving DecidableEq, Repr

structure Rc5MacParameters where
  wordSize : Word
  rounds : Word
  macLength : Word
deriving DecidableEq, Repr

/-- Wrapping of a private key. The length of `primeP` is announced for `baseG` too. -/
structure PrivateWrapParameters where
  password : List UInt8
  publicData : List UInt8
  randomA : List UInt8
  primeP : List UInt8
  baseG : List UInt8
  subprimeQ : List UInt8
deriving DecidableEq, Repr

/-- Rewrapping of a private key under a new password. -/
structure RelayParameters where
  oldWrappedX : List UInt8
  oldPassword : List UInt8
  oldPublicData : List UInt8
  oldRandomA : List UInt8
  newPassword : List UInt8
  newPublicData : List UInt8
  newRandomA : List UInt8
deriving DecidableEq, Repr

/-- Password-based key generation; some of its mechanisms return `initVector`. -/
structure PbeParameters where
  initVector : List UInt8
  password : List Char
  salt : List UInt8
  iteration : Word
deriving DecidableEq, Repr

/-- Key derivation from a password by iterated hashing. -/
structure Pbkd2Parameters where
  saltSource : Word
  saltSourceData : List UInt8
  iterations : Word
  pseudoRandom : Word
  pseudoRandomData : List UInt8
  password : List Char
deriving DecidableEq, Repr

/-- Key wrapping for electronic transactions, which returns both fields. -/
structure SetOaepParameters where
  blockContents : UInt8
  x : List UInt8
deriving DecidableEq, Repr

structure RandomData where
  client : List UInt8
  server : List UInt8
deriving DecidableEq, Repr

/-- Derivation of a master key, which returns the version of the client when asked for it. -/
structure MasterKeyParameters where
  random : RandomData
  version : Option Version
deriving DecidableEq, Repr

structure KeyMaterial where
  clientMacSecret : Word
  serverMacSecret : Word
  clientKey : Word
  serverKey : Word
  clientIv : List UInt8
  serverIv : List UInt8
deriving DecidableEq, Repr

structure KeyMaterialParameters where
  macSizeInBits : Word
  keySizeInBits : Word
  /-- Both returned vectors have `ivSizeInBits / 8` bytes. -/
  ivSizeInBits : Word
  isExport : Bool
  random : RandomData
  returned : KeyMaterial
deriving DecidableEq, Repr

/-- Key agreement with one pair of keys on each side. -/
structure AgreementParameters where
  derivation : Word
  sharedInfo : List UInt8
  publicData : List UInt8
deriving DecidableEq, Repr

/-- Key agreement with two pairs of keys on each side. -/
structure HybridParameters where
  derivation : Word
  sharedInfo : List UInt8
  publicData : List UInt8
  privateDataLength : Word
  privateData : Word
  publicData2 : List UInt8
deriving DecidableEq, Repr

/-- Authenticated key agreement with two pairs of keys and an ephemeral key. -/
structure MqvParameters where
  derivation : Word
  sharedInfo : List UInt8
  publicData : List UInt8
  privateDataLength : Word
  privateData : Word
  publicData2 : List UInt8
  publicKey : Word
deriving DecidableEq, Repr

/-- Derivation by encryption of data in chained blocks of `n` bytes. -/
structure CbcDataParameters (n : Nat) where
  iv : Vector UInt8 n
  data : List UInt8
deriving DecidableEq, Repr

structure GcmParameters where
  iv : List UInt8
  ivBits : Word
  additionalData : List UInt8
  tagBits : Word
deriving DecidableEq, Repr

inductive Parameters where
  | bytes (bytes : List UInt8)
  | long (v : Int64)
  | objectHandle (handle : Word)
  | version (v : Version)
  | rsaPkcsOaep (p : OaepParameters)
  | rsaPkcsPss (p : PssParameters)
  | keaDerive (p : KeaParameters)
  /-- The effective bits of a key. -/
  | rc2 (effectiveBits : Word)
  | rc2Cbc (p : Rc2CbcParameters)
  | rc2MacGeneral (p : Rc2MacParameters)
  | rc5 (p : Rc5Parameters)
  | rc5Cbc (p : Rc5CbcParameters)
  | rc5MacGeneral (p : Rc5MacParameters)
  /-- The length of a MAC. -/
  | macGeneral (macLength : Word)
  /-- The index of a bit of a key. -/
  | extract (bit : Word)
  | skipjackPrivateWrap (p : PrivateWrapParameters)
  | skipjackRelayx (p : RelayParameters)
  | pbe (p : PbeParameters)
  | pkcs5Pbkd2 (p : Pbkd2Parameters)
  | keyWrapSetOaep (p : SetOaepParameters)
  | keyDerivationStringData (bytes : List UInt8)
  | ssl3MasterKeyDerive (p : MasterKeyParameters)
  | ssl3KeyMat (p : KeyMaterialParameters)
  | ecdh1Derive (p : AgreementParameters)
  | ecdh2Derive (p : HybridParameters)
  | ecmqvDerive (p : MqvParameters)
  | x942Dh1Derive (p : AgreementParameters)
  | x942Dh2Derive (p : HybridParameters)
  | x942MqvDerive (p : MqvParameters)
  | desCbcEncryptData (p : CbcDataParameters 8)
  | aesCbcEncryptData (p : CbcDataParameters 16)
  | aesGcm (p : GcmParameters)
  /-- Any other value, laid out like the value of an attribute. -/
  | other (v : Value)
deriving Repr

namespace Parameters

def shape : Parameters → String
  | bytes _ => "Bytes"
  | long _ => "Long"
  | objectHandle _ => "ObjectHandle"
  | version _ => "Version"
  | rsaPkcsOaep _ => "RsaPkcsOaep"
  | rsaPkcsPss _ => "RsaPkcsPss"
  | keaDerive _ => "KeaDerive"
  | rc2 _ => "Rc2"
  | rc2Cbc _ => "Rc2Cbc"
  | rc2MacGeneral _ => "Rc2MacGeneral"
  | rc5 _ => "Rc5"
  | rc5Cbc _ => "Rc5Cbc"
  | rc5MacGeneral _ => "Rc5MacGeneral"
  | macGeneral _ => "MacGeneral"
  | extract _ => "Extract"
  | skipjackPrivateWrap _ => "SkipjackPrivateWrap"
  | skipjackRelayx _ => "SkipjackRelayx"
  | pbe _ => "Pbe"
  | pkcs5Pbkd2 _ => "Pkcs5Pbkd2"
  | keyWrapSetOaep _ => "KeyWrapSetOaep"
  | keyDerivationStringData _ => "KeyDerivationStringData"
  | ssl3MasterKeyDerive _ => "Ssl3MasterKeyDerive"
  | ssl3KeyMat _ => "Ssl3KeyMat"
  | ecdh1Derive _ => "Ecdh1Derive"
  | ecdh2Derive _ => "Ecdh2Derive"
  | ecmqvDerive _ => "EcmqvDerive"
  | x942Dh1Derive _ => "X942Dh1Derive"
  | x942Dh2Derive _ => "X942Dh2Derive"
  | x942MqvDerive _ => "X942MqvDerive"
  | desCbcEncryptData _ => "DesCbcEncryptData"
  | aesCbcEncryptData _ => "AesCbcEncryptData"
  | aesGcm _ => "AesGcm"
  | other _ => "Other"

end Parameters

structure Mechanism where
  code : Word
  parameters : Option Parameters
deriving Repr

namespace Mechanism

def display (m : Mechanism) : String :=
  match m.parameters with
  | some p => s!"{MechanismCode.label m.code} ({p.shape})"
  | none => MechanismCode.label m.code

end Mechanism

end Cryptoki
