import Cryptoki.Mechanism.Native
import Cryptoki.Proofs.Span
import Cryptoki.Simulation.Memory

/-! What a mechanism is in native memory. `Holds` says for every shape of a parameter which native
field has which managed field. A lent mechanism holds the mechanism that it was made from, and no
other mechanism of that shape with different inputs (`Mechanism.marshal_represents`). -/

namespace Cryptoki

attribute [ext] OaepParameters KeaParameters Rc5CbcParameters PrivateWrapParameters RelayParameters
  SetOaepParameters RandomData MasterKeyParameters AgreementParameters HybridParameters
  MqvParameters CbcDataParameters GcmParameters

/-! ### Parameter structures -/

structure OaepBlock.Holds (b : OaepBlock) (p : OaepParameters) : Prop where
  hash : b.hash = p.hash
  maskGeneration : b.maskGeneration = p.maskGeneration
  source : b.source = p.source
  sourceData : b.sourceData.Lends p.sourceData

/-- `randomB` is read over its own length, which is not announced. -/
structure KeaBlock.Holds (b : KeaBlock) (p : KeaParameters) : Prop where
  isSender : b.isSender = boolToByte p.isSender
  randomA : b.randomA.Lends p.randomA
  randomB : b.randomB = .ofStorage p.randomB
  publicData : b.publicData.Lends p.publicData

structure Rc5CbcBlock.Holds (b : Rc5CbcBlock) (p : Rc5CbcParameters) : Prop where
  wordSize : b.wordSize = p.wordSize
  rounds : b.rounds = p.rounds
  iv : b.iv.Lends p.iv

/-- `baseG` is read over its own length, which is not announced. -/
structure PrivateWrapBlock.Holds (b : PrivateWrapBlock) (p : PrivateWrapParameters) : Prop where
  password : b.password.Lends p.password
  publicData : b.publicData.Lends p.publicData
  randomA : b.randomA.Lends p.randomA
  primeP : b.primeP.Lends p.primeP
  baseG : b.baseG = .ofStorage p.baseG
  subprimeQ : b.subprimeQ.Lends p.subprimeQ

structure RelayBlock.Holds (b : RelayBlock) (p : RelayParameters) : Prop where
  oldWrappedX : b.oldWrappedX.Lends p.oldWrappedX
  oldPassword : b.oldPassword.Lends p.oldPassword
  oldPublicData : b.oldPublicData.Lends p.oldPublicData
  oldRandomA : b.oldRandomA.Lends p.oldRandomA
  newPassword : b.newPassword.Lends p.newPassword
  newPublicData : b.newPublicData.Lends p.newPublicData
  newRandomA : b.newRandomA.Lends p.newRandomA

/-- The vector of password-based key generation, with zeros up to the length that is returned. -/
def PbeParameters.extendedVector (p : PbeParameters) : List UInt8 :=
  p.initVector ++ List.replicate (initVectorLength - p.initVector.length) 0

structure PbeBlock.Holds (encoding : Encoding) (b : PbeBlock) (p : PbeParameters) : Prop where
  initVector : b.initVector = some p.extendedVector
  password : b.password.Lends (encoding.encode p.password)
  salt : b.salt.Lends p.salt
  iteration : b.iteration = p.iteration

structure Pbkd2Block.Holds (encoding : Encoding) (b : Pbkd2Block) (p : Pbkd2Parameters) :
    Prop where
  saltSource : b.saltSource = p.saltSource
  saltSourceData : b.saltSourceData.Lends p.saltSourceData
  iterations : b.iterations = p.iterations
  pseudoRandom : b.pseudoRandom = p.pseudoRandom
  pseudoRandomData : b.pseudoRandomData.Lends p.pseudoRandomData
  password : b.password.Lends (encoding.encode p.password)

structure SetOaepBlock.Holds (b : SetOaepBlock) (p : SetOaepParameters) : Prop where
  blockContents : b.blockContents = p.blockContents
  x : b.x.Lends p.x

structure RandomBlock.Holds (b : RandomBlock) (r : RandomData) : Prop where
  client : b.client.Lends r.client
  server : b.server.Lends r.server

structure MasterKeyBlock.Holds (b : MasterKeyBlock) (p : MasterKeyParameters) : Prop where
  random : b.random.Holds p.random
  version : b.version = p.version

/-- A record for keys and vectors before a module has written to it. -/
def KeyMaterialBlock.blank (ivLength : Nat) : KeyMaterialBlock :=
  { clientMacSecret := 0
    serverMacSecret := 0
    clientKey := 0
    serverKey := 0
    clientIv := .ofStorage (List.replicate ivLength 0)
    serverIv := .ofStorage (List.replicate ivLength 0) }

structure KeyDerivationBlock.Holds (b : KeyDerivationBlock) (p : KeyMaterialParameters) :
    Prop where
  macSizeInBits : b.macSizeInBits = p.macSizeInBits
  keySizeInBits : b.keySizeInBits = p.keySizeInBits
  ivSizeInBits : b.ivSizeInBits = p.ivSizeInBits
  isExport : b.isExport = boolToByte p.isExport
  random : b.random.Holds p.random
  returned : b.returned = some (.blank (p.ivSizeInBits / 8).toNat)

structure AgreementBlock.Holds (b : AgreementBlock) (p : AgreementParameters) : Prop where
  derivation : b.derivation = p.derivation
  sharedInfo : b.sharedInfo.Lends p.sharedInfo
  publicData : b.publicData.Lends p.publicData

structure HybridBlock.Holds (b : HybridBlock) (p : HybridParameters) : Prop where
  derivation : b.derivation = p.derivation
  sharedInfo : b.sharedInfo.Lends p.sharedInfo
  publicData : b.publicData.Lends p.publicData
  privateDataLength : b.privateDataLength = p.privateDataLength
  privateData : b.privateData = p.privateData
  publicData2 : b.publicData2.Lends p.publicData2

structure MqvBlock.Holds (b : MqvBlock) (p : MqvParameters) : Prop where
  derivation : b.derivation = p.derivation
  sharedInfo : b.sharedInfo.Lends p.sharedInfo
  publicData : b.publicData.Lends p.publicData
  privateDataLength : b.privateDataLength = p.privateDataLength
  privateData : b.privateData = p.privateData
  publicData2 : b.publicData2.Lends p.publicData2
  publicKey : b.publicKey = p.publicKey

structure CbcDataBlock.Holds {n : Nat} (b : CbcDataBlock n) (p : CbcDataParameters n) : Prop where
  iv : b.iv = p.iv
  data : b.data.Lends p.data

structure GcmBlock.Holds (b : GcmBlock) (p : GcmParameters) : Prop where
  iv : b.iv.Lends p.iv
  ivBits : b.ivBits = p.ivBits
  additionalData : b.additionalData.Lends p.additionalData
  tagBits : b.tagBits = p.tagBits

/-- A parameter structure holds a managed parameter of its shape, field by field; a password is held
as its bytes in the encoding. -/
inductive Block.Holds (encoding : Encoding) : Block → Parameters → Prop
  | rsaPkcsOaep {b : OaepBlock} {p : OaepParameters} : b.Holds p →
      Holds encoding (.rsaPkcsOaep b) (.rsaPkcsOaep p)
  | rsaPkcsPss (p : PssParameters) : Holds encoding (.rsaPkcsPss p) (.rsaPkcsPss p)
  | keaDerive {b : KeaBlock} {p : KeaParameters} : b.Holds p →
      Holds encoding (.keaDerive b) (.keaDerive p)
  | rc2Cbc (p : Rc2CbcParameters) : Holds encoding (.rc2Cbc p) (.rc2Cbc p)
  | rc2MacGeneral (p : Rc2MacParameters) : Holds encoding (.rc2MacGeneral p) (.rc2MacGeneral p)
  | rc5 (p : Rc5Parameters) : Holds encoding (.rc5 p) (.rc5 p)
  | rc5Cbc {b : Rc5CbcBlock} {p : Rc5CbcParameters} : b.Holds p →
      Holds encoding (.rc5Cbc b) (.rc5Cbc p)
  | rc5MacGeneral (p : Rc5MacParameters) : Holds encoding (.rc5MacGeneral p) (.rc5MacGeneral p)
  | skipjackPrivateWrap {b : PrivateWrapBlock} {p : PrivateWrapParameters} : b.Holds p →
      Holds encoding (.skipjackPrivateWrap b) (.skipjackPrivateWrap p)
  | skipjackRelayx {b : RelayBlock} {p : RelayParameters} : b.Holds p →
      Holds encoding (.skipjackRelayx b) (.skipjackRelayx p)
  | pbe {b : PbeBlock} {p : PbeParameters} : b.Holds encoding p → Holds encoding (.pbe b) (.pbe p)
  | pkcs5Pbkd2 {b : Pbkd2Block} {p : Pbkd2Parameters} : b.Holds encoding p →
      Holds encoding (.pkcs5Pbkd2 b) (.pkcs5Pbkd2 p)
  | keyWrapSetOaep {b : SetOaepBlock} {p : SetOaepParameters} : b.Holds p →
      Holds encoding (.keyWrapSetOaep b) (.keyWrapSetOaep p)
  | keyDerivationStringData {s : Span} {bytes : List UInt8} : s.Lends bytes →
      Holds encoding (.keyDerivationStringData s) (.keyDerivationStringData bytes)
  | ssl3MasterKeyDerive {b : MasterKeyBlock} {p : MasterKeyParameters} : b.Holds p →
      Holds encoding (.ssl3MasterKeyDerive b) (.ssl3MasterKeyDerive p)
  | ssl3KeyMat {b : KeyDerivationBlock} {p : KeyMaterialParameters} : b.Holds p →
      Holds encoding (.ssl3KeyMat b) (.ssl3KeyMat p)
  | ecdh1Derive {b : AgreementBlock} {p : AgreementParameters} : b.Holds p →
      Holds encoding (.ecdh1Derive b) (.ecdh1Derive p)
  | ecdh2Derive {b : HybridBlock} {p : HybridParameters} : b.Holds p →
      Holds encoding (.ecdh2Derive b) (.ecdh2Derive p)
  | ecmqvDerive {b : MqvBlock} {p : MqvParameters} : b.Holds p →
      Holds encoding (.ecmqvDerive b) (.ecmqvDerive p)
  | x942Dh1Derive {b : AgreementBlock} {p : AgreementParameters} : b.Holds p →
      Holds encoding (.x942Dh1Derive b) (.x942Dh1Derive p)
  | x942Dh2Derive {b : HybridBlock} {p : HybridParameters} : b.Holds p →
      Holds encoding (.x942Dh2Derive b) (.x942Dh2Derive p)
  | x942MqvDerive {b : MqvBlock} {p : MqvParameters} : b.Holds p →
      Holds encoding (.x942MqvDerive b) (.x942MqvDerive p)
  | desCbcEncryptData {b : CbcDataBlock 8} {p : CbcDataParameters 8} : b.Holds p →
      Holds encoding (.desCbcEncryptData b) (.desCbcEncryptData p)
  | aesCbcEncryptData {b : CbcDataBlock 16} {p : CbcDataParameters 16} : b.Holds p →
      Holds encoding (.aesCbcEncryptData b) (.aesCbcEncryptData p)
  | aesGcm {b : GcmBlock} {p : GcmParameters} : b.Holds p → Holds encoding (.aesGcm b) (.aesGcm p)

/-- What the parameter pointer of a mechanism leads to holds the parameter, if there is one. -/
inductive NativeParameter.Holds [Allocator] (encoding : Encoding) :
    NativeParameter → Option Parameters → Prop
  | null : Holds encoding .null none
  | bytes {s : Span} {bytes : List UInt8} : s.Lends bytes →
      Holds encoding (.buffer s) (some (.bytes bytes))
  | long {s : Span} {v : Int64} : s.HoldsWord (Word.ofSigned v) →
      Holds encoding (.buffer s) (some (.long v))
  | objectHandle {s : Span} {w : Word} : s.HoldsWord w →
      Holds encoding (.buffer s) (some (.objectHandle w))
  | rc2 {s : Span} {w : Word} : s.HoldsWord w → Holds encoding (.buffer s) (some (.rc2 w))
  | macGeneral {s : Span} {w : Word} : s.HoldsWord w →
      Holds encoding (.buffer s) (some (.macGeneral w))
  | extract {s : Span} {w : Word} : s.HoldsWord w → Holds encoding (.buffer s) (some (.extract w))
  | version {s : Span} {v : Version} : s.HoldsVersion v →
      Holds encoding (.buffer s) (some (.version v))
  | other {v : Value} {native : NativeValue} : v.marshalScalar encoding = .ok native →
      Holds encoding (.value native) (some (.other v))
  | block {b : Block} {p : Parameters} : b.Holds encoding p → Holds encoding (.block b) (some p)

/-! ### Lent parameters hold what they were made from -/

section

variable {allocator : Allocator}

theorem Memory.eq_replicate_of_zeroed {count : Nat} {bytes : List UInt8}
    (h : zeroed count = .ok bytes) : bytes = List.replicate count 0 := by
  simp only [zeroed, bind_eq_ok_iff, exists_unit_iff, pure_eq_ok_iff] at h
  exact h.2.symm

theorem Span.lends_of_lendCopy {bytes : List UInt8} {s : Span} (h : lendCopy bytes = .ok s) :
    s.Lends bytes := by
  simp only [lendCopy, bind_eq_ok_iff, exists_unit_iff, liftM_eq_ok_iff] at h
  exact lends_of_lend h.2

theorem lends_of_lendPassword {password : List Char} {encoding : Encoding} {s : Span}
    (h : lendPassword password encoding = .ok s) : s.Lends (encoding.encode password) := by
  simp only [lendPassword, Value.encodeChars, bind_eq_ok_iff, pure_eq_ok_iff] at h
  obtain ⟨bytes, ⟨-, -, rfl⟩, hs⟩ := h
  exact Span.lends_of_lend hs

theorem RandomData.marshal_holds {r : RandomData} {b : RandomBlock} (h : r.marshal = .ok b) :
    b.Holds r := by
  simp only [marshal, bind_eq_ok_iff, pure_eq_ok_iff] at h
  obtain ⟨client, hclient, server, hserver, rfl⟩ := h
  exact ⟨Span.lends_of_lend hclient, Span.lends_of_lend hserver⟩

theorem AgreementParameters.marshal_holds {p : AgreementParameters} {b : AgreementBlock}
    (h : p.marshal = .ok b) : b.Holds p := by
  simp only [marshal, bind_eq_ok_iff, pure_eq_ok_iff] at h
  obtain ⟨sharedInfo, hshared, publicData, hpublic, rfl⟩ := h
  exact ⟨rfl, Span.lends_of_lend hshared, Span.lends_of_lend hpublic⟩

theorem HybridParameters.marshal_holds {p : HybridParameters} {b : HybridBlock}
    (h : p.marshal = .ok b) : b.Holds p := by
  simp only [marshal, bind_eq_ok_iff, pure_eq_ok_iff] at h
  obtain ⟨sharedInfo, hshared, publicData, hpublic, publicData2, hpublic2, rfl⟩ := h
  exact ⟨rfl, Span.lends_of_lend hshared, Span.lends_of_lend hpublic, rfl, rfl,
    Span.lends_of_lend hpublic2⟩

theorem MqvParameters.marshal_holds {p : MqvParameters} {b : MqvBlock} (h : p.marshal = .ok b) :
    b.Holds p := by
  simp only [marshal, bind_eq_ok_iff, pure_eq_ok_iff] at h
  obtain ⟨sharedInfo, hshared, publicData, hpublic, publicData2, hpublic2, rfl⟩ := h
  exact ⟨rfl, Span.lends_of_lend hshared, Span.lends_of_lend hpublic, rfl, rfl,
    Span.lends_of_lend hpublic2, rfl⟩

theorem CbcDataParameters.marshal_holds {n : Nat} {p : CbcDataParameters n} {b : CbcDataBlock n}
    (h : p.marshal = .ok b) : b.Holds p := by
  simp only [marshal, bind_eq_ok_iff, pure_eq_ok_iff] at h
  obtain ⟨data, hdata, rfl⟩ := h
  exact ⟨rfl, Span.lends_of_lend hdata⟩

theorem KeaParameters.marshal_holds {p : KeaParameters} {b : KeaBlock} (h : p.marshal = .ok b) :
    b.Holds p := by
  simp only [marshal, bind_eq_ok_iff, pure_eq_ok_iff] at h
  obtain ⟨randomA, hA, randomB, hB, publicData, hpublic, rfl⟩ := h
  exact ⟨rfl, Span.lends_of_lend hA, (Span.lends_of_lend hB).pointer, Span.lends_of_lend hpublic⟩

theorem PrivateWrapParameters.marshal_holds {p : PrivateWrapParameters} {b : PrivateWrapBlock}
    (h : p.marshal = .ok b) : b.Holds p := by
  simp only [marshal, bind_eq_ok_iff, pure_eq_ok_iff, liftM_eq_ok_iff] at h
  obtain ⟨password, hpassword, publicData, hpublic, randomA, hrandom, primeP, hprime, baseG, hbase,
    subprimeQ, hsubprime, rfl⟩ := h
  exact ⟨Span.lends_of_lendCopy hpassword, Span.lends_of_lend hpublic, Span.lends_of_lend hrandom,
    Span.lends_of_lend hprime, (Span.lends_of_lend hbase).pointer, Span.lends_of_lend hsubprime⟩

theorem RelayParameters.marshal_holds {p : RelayParameters} {b : RelayBlock}
    (h : p.marshal = .ok b) : b.Holds p := by
  simp only [marshal, bind_eq_ok_iff, pure_eq_ok_iff, liftM_eq_ok_iff] at h
  obtain ⟨oldWrappedX, hx, oldPassword, hold, oldPublicData, holdPublic, oldRandomA, holdRandom,
    newPassword, hnew, newPublicData, hnewPublic, newRandomA, hnewRandom, rfl⟩ := h
  exact ⟨Span.lends_of_lend hx, Span.lends_of_lendCopy hold, Span.lends_of_lend holdPublic,
    Span.lends_of_lend holdRandom, Span.lends_of_lendCopy hnew, Span.lends_of_lend hnewPublic,
    Span.lends_of_lend hnewRandom⟩

theorem PbeParameters.marshal_holds {p : PbeParameters} {encoding : Encoding} {b : PbeBlock}
    (h : p.marshal encoding = .ok b) : b.Holds encoding p := by
  simp only [marshal, bind_eq_ok_iff, exists_unit_iff, pure_eq_ok_iff, liftM_eq_ok_iff] at h
  obtain ⟨-, password, hpassword, salt, hsalt, rfl⟩ := h
  exact ⟨rfl, lends_of_lendPassword hpassword, Span.lends_of_lend hsalt, rfl⟩

theorem Pbkd2Parameters.marshal_holds {p : Pbkd2Parameters} {encoding : Encoding} {b : Pbkd2Block}
    (h : p.marshal encoding = .ok b) : b.Holds encoding p := by
  simp only [marshal, bind_eq_ok_iff, pure_eq_ok_iff] at h
  obtain ⟨saltSourceData, hsalt, pseudoRandomData, hpseudo, password, hpassword, rfl⟩ := h
  exact ⟨rfl, Span.lends_of_lend hsalt, rfl, rfl, Span.lends_of_lend hpseudo,
    lends_of_lendPassword hpassword⟩

theorem KeyMaterialParameters.marshal_holds {p : KeyMaterialParameters} {b : KeyDerivationBlock}
    (h : p.marshal = .ok b) : b.Holds p := by
  simp only [marshal, bind_eq_ok_iff, pure_eq_ok_iff, liftM_eq_ok_iff] at h
  obtain ⟨clientIv, hclient, serverIv, hserver, random, hrandom, rfl⟩ := h
  rw [Memory.eq_replicate_of_zeroed hclient, Memory.eq_replicate_of_zeroed hserver]
  exact ⟨rfl, rfl, rfl, rfl, RandomData.marshal_holds hrandom, rfl⟩

namespace Parameters

theorem lendWord_holdsWord (w : Word) : Span.HoldsWord ⟨some w.toBytes, 8⟩ w :=
  ⟨⟨_, rfl, w.length_toBytes, w.ofBytes_toBytes⟩, rfl⟩

theorem marshal_holds {p : Parameters} {encoding : Encoding} {n : NativeParameter}
    (h : p.marshal encoding = .ok n) : n.Holds encoding (some p) := by
  cases p <;> simp only [marshal, bind_eq_ok_iff, pure_eq_ok_iff, liftM_eq_ok_iff] at h
  case bytes =>
    obtain ⟨s, hs, rfl⟩ := h
    exact .bytes (Span.lends_of_lend hs)
  case long => exact h ▸ .long (lendWord_holdsWord _)
  case objectHandle => exact h ▸ .objectHandle (lendWord_holdsWord _)
  case rc2 => exact h ▸ .rc2 (lendWord_holdsWord _)
  case macGeneral => exact h ▸ .macGeneral (lendWord_holdsWord _)
  case extract => exact h ▸ .extract (lendWord_holdsWord _)
  case version => exact h ▸ .version ⟨rfl, rfl⟩
  case rsaPkcsOaep =>
    obtain ⟨s, hs, rfl⟩ := h
    exact .block (.rsaPkcsOaep ⟨rfl, rfl, rfl, Span.lends_of_lend hs⟩)
  case rsaPkcsPss p => exact h ▸ .block (.rsaPkcsPss p)
  case keaDerive =>
    obtain ⟨b, hb, rfl⟩ := h
    exact .block (.keaDerive (KeaParameters.marshal_holds hb))
  case rc2Cbc p => exact h ▸ .block (.rc2Cbc p)
  case rc2MacGeneral p => exact h ▸ .block (.rc2MacGeneral p)
  case rc5 p => exact h ▸ .block (.rc5 p)
  case rc5Cbc =>
    obtain ⟨s, hs, rfl⟩ := h
    exact .block (.rc5Cbc ⟨rfl, rfl, Span.lends_of_lend hs⟩)
  case rc5MacGeneral p => exact h ▸ .block (.rc5MacGeneral p)
  case skipjackPrivateWrap =>
    obtain ⟨b, hb, rfl⟩ := h
    exact .block (.skipjackPrivateWrap (PrivateWrapParameters.marshal_holds hb))
  case skipjackRelayx =>
    obtain ⟨b, hb, rfl⟩ := h
    exact .block (.skipjackRelayx (RelayParameters.marshal_holds hb))
  case pbe =>
    obtain ⟨b, hb, rfl⟩ := h
    exact .block (.pbe (PbeParameters.marshal_holds hb))
  case pkcs5Pbkd2 =>
    obtain ⟨b, hb, rfl⟩ := h
    exact .block (.pkcs5Pbkd2 (Pbkd2Parameters.marshal_holds hb))
  case keyWrapSetOaep =>
    obtain ⟨s, hs, rfl⟩ := h
    exact .block (.keyWrapSetOaep ⟨rfl, Span.lends_of_lendCopy hs⟩)
  case keyDerivationStringData =>
    obtain ⟨s, hs, rfl⟩ := h
    exact .block (.keyDerivationStringData (Span.lends_of_lend hs))
  case ssl3MasterKeyDerive =>
    obtain ⟨random, hrandom, rfl⟩ := h
    exact .block (.ssl3MasterKeyDerive ⟨RandomData.marshal_holds hrandom, rfl⟩)
  case ssl3KeyMat =>
    obtain ⟨b, hb, rfl⟩ := h
    exact .block (.ssl3KeyMat (KeyMaterialParameters.marshal_holds hb))
  case ecdh1Derive =>
    obtain ⟨b, hb, rfl⟩ := h
    exact .block (.ecdh1Derive (AgreementParameters.marshal_holds hb))
  case ecdh2Derive =>
    obtain ⟨b, hb, rfl⟩ := h
    exact .block (.ecdh2Derive (HybridParameters.marshal_holds hb))
  case ecmqvDerive =>
    obtain ⟨b, hb, rfl⟩ := h
    exact .block (.ecmqvDerive (MqvParameters.marshal_holds hb))
  case x942Dh1Derive =>
    obtain ⟨b, hb, rfl⟩ := h
    exact .block (.x942Dh1Derive (AgreementParameters.marshal_holds hb))
  case x942Dh2Derive =>
    obtain ⟨b, hb, rfl⟩ := h
    exact .block (.x942Dh2Derive (HybridParameters.marshal_holds hb))
  case x942MqvDerive =>
    obtain ⟨b, hb, rfl⟩ := h
    exact .block (.x942MqvDerive (MqvParameters.marshal_holds hb))
  case desCbcEncryptData =>
    obtain ⟨b, hb, rfl⟩ := h
    exact .block (.desCbcEncryptData (CbcDataParameters.marshal_holds hb))
  case aesCbcEncryptData =>
    obtain ⟨b, hb, rfl⟩ := h
    exact .block (.aesCbcEncryptData (CbcDataParameters.marshal_holds hb))
  case aesGcm =>
    obtain ⟨iv, hiv, additionalData, hdata, rfl⟩ := h
    exact .block (.aesGcm ⟨Span.lends_of_lend hiv, rfl, Span.lends_of_lend hdata, rfl⟩)
  case other =>
    obtain ⟨native, hnative, rfl⟩ := h
    exact .other hnative

end Parameters

end

/-! ### Native memory determines the inputs -/

theorem OaepBlock.Holds.unique {b : OaepBlock} {p q : OaepParameters} (h : b.Holds p)
    (h' : b.Holds q) : p = q :=
  OaepParameters.ext (h.hash.symm.trans h'.hash) (h.maskGeneration.symm.trans h'.maskGeneration)
    (h.source.symm.trans h'.source) (h.sourceData.unique h'.sourceData)

theorem KeaBlock.Holds.unique {b : KeaBlock} {p q : KeaParameters} (h : b.Holds p)
    (h' : b.Holds q) : p = q :=
  KeaParameters.ext (boolToByte_injective (h.isSender.symm.trans h'.isSender))
    (h.randomA.unique h'.randomA) (Pointer.ofStorage_injective (h.randomB.symm.trans h'.randomB))
    (h.publicData.unique h'.publicData)

theorem Rc5CbcBlock.Holds.unique {b : Rc5CbcBlock} {p q : Rc5CbcParameters} (h : b.Holds p)
    (h' : b.Holds q) : p = q :=
  Rc5CbcParameters.ext (h.wordSize.symm.trans h'.wordSize) (h.rounds.symm.trans h'.rounds)
    (h.iv.unique h'.iv)

theorem PrivateWrapBlock.Holds.unique {b : PrivateWrapBlock} {p q : PrivateWrapParameters}
    (h : b.Holds p) (h' : b.Holds q) : p = q :=
  PrivateWrapParameters.ext (h.password.unique h'.password) (h.publicData.unique h'.publicData)
    (h.randomA.unique h'.randomA) (h.primeP.unique h'.primeP)
    (Pointer.ofStorage_injective (h.baseG.symm.trans h'.baseG)) (h.subprimeQ.unique h'.subprimeQ)

theorem RelayBlock.Holds.unique {b : RelayBlock} {p q : RelayParameters} (h : b.Holds p)
    (h' : b.Holds q) : p = q :=
  RelayParameters.ext (h.oldWrappedX.unique h'.oldWrappedX) (h.oldPassword.unique h'.oldPassword)
    (h.oldPublicData.unique h'.oldPublicData) (h.oldRandomA.unique h'.oldRandomA)
    (h.newPassword.unique h'.newPassword) (h.newPublicData.unique h'.newPublicData)
    (h.newRandomA.unique h'.newRandomA)

theorem SetOaepBlock.Holds.unique {b : SetOaepBlock} {p q : SetOaepParameters} (h : b.Holds p)
    (h' : b.Holds q) : p = q :=
  SetOaepParameters.ext (h.blockContents.symm.trans h'.blockContents) (h.x.unique h'.x)

theorem RandomBlock.Holds.unique {b : RandomBlock} {r r' : RandomData} (h : b.Holds r)
    (h' : b.Holds r') : r = r' :=
  RandomData.ext (h.client.unique h'.client) (h.server.unique h'.server)

theorem MasterKeyBlock.Holds.unique {b : MasterKeyBlock} {p q : MasterKeyParameters}
    (h : b.Holds p) (h' : b.Holds q) : p = q :=
  MasterKeyParameters.ext (h.random.unique h'.random) (h.version.symm.trans h'.version)

theorem AgreementBlock.Holds.unique {b : AgreementBlock} {p q : AgreementParameters}
    (h : b.Holds p) (h' : b.Holds q) : p = q :=
  AgreementParameters.ext (h.derivation.symm.trans h'.derivation)
    (h.sharedInfo.unique h'.sharedInfo) (h.publicData.unique h'.publicData)

theorem HybridBlock.Holds.unique {b : HybridBlock} {p q : HybridParameters} (h : b.Holds p)
    (h' : b.Holds q) : p = q :=
  HybridParameters.ext (h.derivation.symm.trans h'.derivation) (h.sharedInfo.unique h'.sharedInfo)
    (h.publicData.unique h'.publicData) (h.privateDataLength.symm.trans h'.privateDataLength)
    (h.privateData.symm.trans h'.privateData) (h.publicData2.unique h'.publicData2)

theorem MqvBlock.Holds.unique {b : MqvBlock} {p q : MqvParameters} (h : b.Holds p)
    (h' : b.Holds q) : p = q :=
  MqvParameters.ext (h.derivation.symm.trans h'.derivation) (h.sharedInfo.unique h'.sharedInfo)
    (h.publicData.unique h'.publicData) (h.privateDataLength.symm.trans h'.privateDataLength)
    (h.privateData.symm.trans h'.privateData) (h.publicData2.unique h'.publicData2)
    (h.publicKey.symm.trans h'.publicKey)

theorem CbcDataBlock.Holds.unique {n : Nat} {b : CbcDataBlock n} {p q : CbcDataParameters n}
    (h : b.Holds p) (h' : b.Holds q) : p = q :=
  CbcDataParameters.ext (h.iv.symm.trans h'.iv) (h.data.unique h'.data)

theorem GcmBlock.Holds.unique {b : GcmBlock} {p q : GcmParameters} (h : b.Holds p)
    (h' : b.Holds q) : p = q :=
  GcmParameters.ext (h.iv.unique h'.iv) (h.ivBits.symm.trans h'.ivBits)
    (h.additionalData.unique h'.additionalData) (h.tagBits.symm.trans h'.tagBits)

/-- Two parameters differ in nothing that a module is given. -/
inductive Parameters.SameInputs [Allocator] (encoding : Encoding) :
    Parameters → Parameters → Prop
  | refl (p : Parameters) : SameInputs encoding p p
  /-- Zeros at the end of a short vector and characters that the encoding does not tell apart make
  no difference. -/
  | pbe {p q : PbeParameters} : p.extendedVector = q.extendedVector →
      encoding.encode p.password = encoding.encode q.password → p.salt = q.salt →
      p.iteration = q.iteration → SameInputs encoding (.pbe p) (.pbe q)
  | pkcs5Pbkd2 (p : Pbkd2Parameters) {password : List Char} :
      encoding.encode p.password = encoding.encode password →
      SameInputs encoding (.pkcs5Pbkd2 p) (.pkcs5Pbkd2 { p with password := password })
  /-- The keys and vectors that a derivation returns are no inputs. -/
  | ssl3KeyMat (p : KeyMaterialParameters) (returned : KeyMaterial) :
      SameInputs encoding (.ssl3KeyMat p) (.ssl3KeyMat { p with returned := returned })
  | other {v w : Value} {native : NativeValue} : v.marshalScalar encoding = .ok native →
      w.marshalScalar encoding = .ok native → SameInputs encoding (.other v) (.other w)

namespace Parameters.SameInputs

variable [Allocator] {encoding : Encoding}

theorem of_eq {p q : Parameters} (h : p = q) : SameInputs encoding p q := h ▸ .refl p

theorem of_pbe {b : PbeBlock} {p q : PbeParameters} (h : b.Holds encoding p)
    (h' : b.Holds encoding q) : SameInputs encoding (.pbe p) (.pbe q) :=
  .pbe (Option.some.inj (h.initVector.symm.trans h'.initVector)) (h.password.unique h'.password)
    (h.salt.unique h'.salt) (h.iteration.symm.trans h'.iteration)

theorem of_pbkd2 {b : Pbkd2Block} {p q : Pbkd2Parameters} (h : b.Holds encoding p)
    (h' : b.Holds encoding q) : SameInputs encoding (.pkcs5Pbkd2 p) (.pkcs5Pbkd2 q) := by
  have hq : q = { p with password := q.password } := by
    obtain ⟨saltSource, saltSourceData, iterations, pseudoRandom, pseudoRandomData, password⟩ := q
    simp only [Pbkd2Parameters.mk.injEq, and_true]
    exact ⟨h'.saltSource.symm.trans h.saltSource, h'.saltSourceData.unique h.saltSourceData,
      h'.iterations.symm.trans h.iterations, h'.pseudoRandom.symm.trans h.pseudoRandom,
      h'.pseudoRandomData.unique h.pseudoRandomData⟩
  rw [hq]
  exact .pkcs5Pbkd2 p (h.password.unique h'.password)

theorem of_keyMaterial {b : KeyDerivationBlock} {p q : KeyMaterialParameters} (h : b.Holds p)
    (h' : b.Holds q) : SameInputs encoding (.ssl3KeyMat p) (.ssl3KeyMat q) := by
  have hq : q = { p with returned := q.returned } := by
    obtain ⟨macSizeInBits, keySizeInBits, ivSizeInBits, isExport, random, returned⟩ := q
    simp only [KeyMaterialParameters.mk.injEq, and_true]
    exact ⟨h'.macSizeInBits.symm.trans h.macSizeInBits,
      h'.keySizeInBits.symm.trans h.keySizeInBits, h'.ivSizeInBits.symm.trans h.ivSizeInBits,
      boolToByte_injective (h'.isExport.symm.trans h.isExport), h'.random.unique h.random⟩
  rw [hq]
  exact .ssl3KeyMat p q.returned

end Parameters.SameInputs

namespace Block.Holds

open Parameters.SameInputs

variable [Allocator] {encoding : Encoding} {b : Block} {p q : Parameters}

theorem sameInputs (h : b.Holds encoding p) (h' : b.Holds encoding q) :
    Parameters.SameInputs encoding p q := by
  cases h <;> cases h'
  case rsaPkcsPss | rc2Cbc | rc2MacGeneral | rc5 | rc5MacGeneral => exact .refl _
  case pbe.pbe hb _ hb' => exact of_pbe hb hb'
  case pkcs5Pbkd2.pkcs5Pbkd2 hb _ hb' => exact of_pbkd2 hb hb'
  case ssl3KeyMat.ssl3KeyMat hb _ hb' => exact of_keyMaterial hb hb'
  -- every other structure determines all fields of its parameter
  all_goals
    rename_i hb _ hb'
    exact of_eq (congrArg _ (hb.unique hb'))

end Block.Holds

namespace NativeParameter.Holds

open Parameters.SameInputs

variable {allocator : Allocator} {encoding : Encoding} {n : NativeParameter}

/-- A buffer does not tell in which shape it is to be read, so that must be known. -/
theorem sameInputs {p q : Parameters} (h : n.Holds encoding (some p))
    (h' : n.Holds encoding (some q)) (hshape : q.shape = p.shape) : p.SameInputs encoding q := by
  cases h <;> cases h' <;> simp only [Parameters.shape] at hshape
  case bytes.bytes hb _ hb' => exact of_eq (congrArg _ (hb.unique hb'))
  case long.long hw _ hw' =>
    exact of_eq (congrArg _ (Word.ofSigned_injective (hw.unique hw')))
  case objectHandle.objectHandle hw _ hw' => exact of_eq (congrArg _ (hw.unique hw'))
  case rc2.rc2 hw _ hw' => exact of_eq (congrArg _ (hw.unique hw'))
  case macGeneral.macGeneral hw _ hw' => exact of_eq (congrArg _ (hw.unique hw'))
  case extract.extract hw _ hw' => exact of_eq (congrArg _ (hw.unique hw'))
  case version.version hv _ hv' => exact of_eq (congrArg _ (hv.unique hv'))
  case other.other hv _ hv' => exact .other hv hv'
  case block.block hb hb' => exact hb.sameInputs hb'
  all_goals simp at hshape

end NativeParameter.Holds

/-! ### Sizes of parameter structures -/

/-- The type of a field of a native structure. -/
inductive FieldType where
  | byte
  | word
  | pointer
  /-- Bytes in the structure itself. -/
  | inline (count : Nat)

namespace FieldType

def size : FieldType → Nat
  | byte => 1
  | word => 8
  | pointer => 8
  | inline count => count

def alignment : FieldType → Nat
  | byte => 1
  | word => 8
  | pointer => 8
  | inline _ => 1

end FieldType

/-- The least multiple of `alignment` from `offset` on. -/
def alignUp (alignment offset : Nat) : Nat := (offset + (alignment - 1)) / alignment * alignment

/-- The size of a native structure: its fields lie in order, each at a multiple of its alignment,
and the structure ends at a multiple of the largest alignment. -/
def structSize (fields : List FieldType) : Nat :=
  alignUp ((fields.map FieldType.alignment).foldr max 1)
    (fields.foldl (fun offset f => alignUp f.alignment offset + f.size) 0)

/-- The fields of a parameter structure in the order of its declaration, those of a structure inside
it in its place. -/
def Block.fieldTypes : Block → List FieldType
  | rsaPkcsOaep _ => [.word, .word, .word, .pointer, .word]
  | rsaPkcsPss _ => [.word, .word, .word]
  | keaDerive _ => [.byte, .word, .pointer, .pointer, .word, .pointer]
  | rc2Cbc _ => [.word, .inline 8]
  | rc2MacGeneral _ => [.word, .word]
  | rc5 _ => [.word, .word]
  | rc5Cbc _ => [.word, .word, .pointer, .word]
  | rc5MacGeneral _ => [.word, .word, .word]
  | skipjackPrivateWrap _ =>
    [.word, .pointer, .word, .pointer, .word, .word, .word, .pointer, .pointer, .pointer, .pointer]
  | skipjackRelayx _ =>
    [.word, .pointer, .word, .pointer, .word, .pointer, .word, .pointer, .word, .pointer, .word,
     .pointer, .word, .pointer]
  | pbe _ => [.pointer, .pointer, .word, .pointer, .word, .word]
  | pkcs5Pbkd2 _ =>
    [.word, .pointer, .word, .word, .word, .pointer, .word, .pointer, .pointer]
  | keyWrapSetOaep _ => [.byte, .pointer, .word]
  | keyDerivationStringData _ => [.pointer, .word]
  | ssl3MasterKeyDerive _ => [.pointer, .word, .pointer, .word, .pointer]
  | ssl3KeyMat _ => [.word, .word, .word, .byte, .pointer, .word, .pointer, .word, .pointer]
  | ecdh1Derive _ | x942Dh1Derive _ => [.word, .word, .pointer, .word, .pointer]
  | ecdh2Derive _ | x942Dh2Derive _ =>
    [.word, .word, .pointer, .word, .pointer, .word, .word, .word, .pointer]
  | ecmqvDerive _ | x942MqvDerive _ =>
    [.word, .word, .pointer, .word, .pointer, .word, .word, .word, .pointer, .word]
  | desCbcEncryptData _ => [.inline 8, .pointer, .word]
  | aesCbcEncryptData _ => [.inline 16, .pointer, .word]
  | aesGcm _ => [.pointer, .word, .word, .pointer, .word, .word]

theorem Block.toNat_size (b : Block) : b.size.toNat = structSize b.fieldTypes := by
  cases b <;> simp only [size, fieldTypes] <;> decide

/-! ### Mechanisms -/

/-- Two mechanisms differ in nothing that a module is given. -/
structure Mechanism.SameInputs [Allocator] (encoding : Encoding) (m m' : Mechanism) : Prop where
  code : m.code = m'.code
  parameters : Option.Rel (Parameters.SameInputs encoding) m.parameters m'.parameters

/-- The pointer to the parameter of a mechanism is null. -/
def NativeParameter.IsNull : NativeParameter → Prop
  | null => True
  | buffer s => s.pointer = none
  | value v => v.pointer = none
  | block _ => False

/-- A mechanism in native memory carries the code of `m` and holds its parameter, and the length of
a structure is announced for it. -/
structure NativeMechanism.Represents [Allocator] (n : NativeMechanism) (encoding : Encoding)
    (m : Mechanism) : Prop where
  code : n.code = m.code
  parameter : n.parameter.Holds encoding m.parameters
  length : ∀ b, n.parameter = .block b → n.parameterLength.toNat = structSize b.fieldTypes

namespace NativeMechanism.Represents

variable {allocator : Allocator} {n : NativeMechanism} {encoding : Encoding} {m m' : Mechanism}

theorem null_of_empty (h : n.Represents encoding m)
    (hm : m.parameters = none ∨ m.parameters = some (.bytes [])) :
    n.parameter.IsNull ∧ n.parameterLength = 0 := by
  have hp := h.parameter
  rcases hm with hm | hm <;> rw [hm] at hp <;> unfold parameterLength
  · generalize n.parameter = p at hp
    cases hp
    exact ⟨trivial, rfl⟩
  · generalize n.parameter = p at hp
    cases hp with
    | bytes hs => exact ⟨hs.null_iff.mpr rfl, UInt64.toNat_inj.mp hs.length⟩
    | block hb => cases hb

theorem sameInputs (h : n.Represents encoding m) (h' : n.Represents encoding m')
    (hshape : m'.parameters.map Parameters.shape = m.parameters.map Parameters.shape) :
    m.SameInputs encoding m' := by
  refine ⟨h.code.symm.trans h'.code, ?_⟩
  have hp := h.parameter
  have hp' := h'.parameter
  cases hm : m.parameters with
  | none =>
    rw [hm, Option.map_none, Option.map_eq_none_iff] at hshape
    rw [hshape]
    exact .none
  | some p =>
    rw [hm, Option.map_some, Option.map_eq_some_iff] at hshape
    obtain ⟨p', hm', hshape⟩ := hshape
    rw [hm] at hp
    rw [hm'] at hp' ⊢
    exact .some (hp.sameInputs hp' hshape)

end NativeMechanism.Represents

namespace Mechanism

variable {allocator : Allocator} {m : Mechanism} {encoding : Encoding} {n : NativeMechanism}

theorem represents_of_marshal (h : m.marshal encoding = .ok n) : n.Represents encoding m := by
  obtain ⟨code, parameters⟩ := m
  unfold marshal at h
  cases parameters with
  | none =>
    cases h
    exact ⟨rfl, .null, nofun⟩
  | some p =>
    obtain ⟨parameter, hparameter, hn⟩ := bind_eq_ok_iff.mp h
    cases hn
    refine ⟨rfl, Parameters.marshal_holds hparameter, fun b hb => ?_⟩
    rw [NativeMechanism.parameterLength, hb]
    exact b.toNat_size

/-- A lent mechanism represents the mechanism that it was made from. Its pointer is null and its
length zero when there is no parameter or the parameter has no bytes. Another mechanism of that
shape that it represents as well has the same inputs. -/
theorem marshal_represents (h : m.marshal encoding = .ok n) :
    n.Represents encoding m ∧
    (m.parameters = none ∨ m.parameters = some (.bytes []) →
      n.parameter.IsNull ∧ n.parameterLength = 0) ∧
    ∀ m' : Mechanism, n.Represents encoding m' →
      m'.parameters.map Parameters.shape = m.parameters.map Parameters.shape →
      m.SameInputs encoding m' := by
  have hn := represents_of_marshal h
  exact ⟨hn, hn.null_of_empty, fun m' hm' => hn.sameInputs hm'⟩

end Mechanism

namespace Mechanism

open Simulation

/-- A derivation from a password without data for the pseudo-random function. -/
theorem marshal_represents_pbkd2 :
    let m : Mechanism := ⟨0x3B0, some (.pkcs5Pbkd2 ⟨1, [5, 6], 1000, 1, [], ['p', 'w']⟩)⟩
    let n : NativeMechanism := ⟨0x3B0, .block (.pkcs5Pbkd2
      ⟨1, ⟨some [5, 6], 2⟩, 1000, 1, ⟨none, 0⟩, ⟨some [0x70, 0x77], 2⟩⟩), 0⟩
    m.marshal .utf8 = .ok n ∧ n.Represents .utf8 m ∧
      ∀ m' : Mechanism, n.Represents .utf8 m' →
        m'.parameters.map Parameters.shape = some "Pkcs5Pbkd2" → m.SameInputs .utf8 m' := by
  intro m n
  have h : m.marshal .utf8 = .ok n := by rfl
  obtain ⟨hn, -, hsame⟩ := marshal_represents h
  exact ⟨h, hn, hsame⟩

end Mechanism

end Cryptoki
