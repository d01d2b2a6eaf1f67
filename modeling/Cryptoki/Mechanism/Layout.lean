import Cryptoki.Mechanism.Native

/-! The fields of native parameter structures under their names in the interface. A pointer is given
with the bytes that lie behind it within the length announced for it. -/

namespace Cryptoki

inductive FieldContent where
  | byte (b : UInt8)
  | word (w : Word)
  /-- Bytes in the structure itself. -/
  | inline (bytes : List UInt8)
  /-- A pointer to bytes, nothing when it is null. -/
  | pointer (bytes : Option (List UInt8))
  | version (v : Option Version)
  /-- A structure, or a pointer to one. -/
  | fields (fields : Option (List (String × FieldContent)))
deriving Repr

abbrev Layout := List (String × FieldContent)

/-- The bytes behind a pointer within a length. -/
def Pointer.within (p : Pointer (List UInt8)) (length : Word) : FieldContent :=
  .pointer (p.map (·.take length.toNat))

namespace Span

def layout (s : Span) (pointer length : String) : Layout :=
  [(pointer, s.pointer.within s.length), (length, .word s.length)]

end Span

namespace RandomBlock

def layout (b : RandomBlock) : Layout :=
  b.client.layout "pClientRandom" "ulClientRandomLen" ++
    b.server.layout "pServerRandom" "ulServerRandomLen"

end RandomBlock

namespace KeyMaterialBlock

/-- The vectors have the length that is announced in the structure that points here. -/
def layout (b : KeyMaterialBlock) (ivLength : Word) : Layout :=
  [("hClientMacSecret", .word b.clientMacSecret), ("hServerMacSecret", .word b.serverMacSecret),
   ("hClientKey", .word b.clientKey), ("hServerKey", .word b.serverKey),
   ("pIVClient", b.clientIv.within ivLength), ("pIVServer", b.serverIv.within ivLength)]

end KeyMaterialBlock

namespace AgreementBlock

/-- Families of mechanisms differ in the names of the shared information. -/
def layout (b : AgreementBlock) (pointer length : String) : Layout :=
  ("kdf", .word b.derivation) :: b.sharedInfo.layout pointer length ++
    b.publicData.layout "pPublicData" "ulPublicDataLen"

end AgreementBlock

namespace HybridBlock

def layout (b : HybridBlock) (pointer length : String) : Layout :=
  ("kdf", .word b.derivation) :: b.sharedInfo.layout pointer length ++
    b.publicData.layout "pPublicData" "ulPublicDataLen" ++
    [("ulPrivateDataLen", .word b.privateDataLength), ("hPrivateData", .word b.privateData)] ++
    b.publicData2.layout "pPublicData2" "ulPublicDataLen2"

end HybridBlock

namespace MqvBlock

def layout (b : MqvBlock) (pointer length : String) : Layout :=
  ("kdf", .word b.derivation) :: b.sharedInfo.layout pointer length ++
    b.publicData.layout "pPublicData" "ulPublicDataLen" ++
    [("ulPrivateDataLen", .word b.privateDataLength), ("hPrivateData", .word b.privateData)] ++
    b.publicData2.layout "pPublicData2" "ulPublicDataLen2" ++ [("publicKey", .word b.publicKey)]

end MqvBlock

namespace CbcDataBlock

def layout {n : Nat} (b : CbcDataBlock n) : Layout :=
  ("iv", .inline b.iv.toList) :: b.data.layout "pData" "length"

end CbcDataBlock

namespace Block

/-- The fields of a parameter structure. The length of a password that lies behind a pointer of its
own is given under the name of that pointer after a star. -/
def layout : Block → Layout
  | rsaPkcsOaep b =>
    [("hashAlg", .word b.hash), ("mgf", .word b.maskGeneration), ("source", .word b.source)] ++
      b.sourceData.layout "pSourceData" "ulSourceDataLen"
  | rsaPkcsPss b =>
    [("hashAlg", .word b.hash), ("mgf", .word b.maskGeneration), ("sLen", .word b.saltLength)]
  | keaDerive b =>
    ("isSender", .byte b.isSender) :: b.randomA.layout "pRandomA" "ulRandomLen" ++
      ("pRandomB", b.randomB.within b.randomA.length) ::
      b.publicData.layout "pPublicData" "ulPublicDataLen"
  | rc2Cbc b => [("ulEffectiveBits", .word b.effectiveBits), ("iv", .inline b.iv.toList)]
  | rc2MacGeneral b =>
    [("ulEffectiveBits", .word b.effectiveBits), ("ulMacLength", .word b.macLength)]
  | rc5 b => [("ulWordsize", .word b.wordSize), ("ulRounds", .word b.rounds)]
  | rc5Cbc b =>
    [("ulWordsize", .word b.wordSize), ("ulRounds", .word b.rounds)] ++ b.iv.layout "pIv" "ulIvLen"
  | rc5MacGeneral b =>
    [("ulWordsize", .word b.wordSize), ("ulRounds", .word b.rounds),
     ("ulMacLength", .word b.macLength)]
  | skipjackPrivateWrap b =>
    b.password.layout "pPassword" "ulPasswordLen" ++
      b.publicData.layout "pPublicData" "ulPublicDataLen" ++
      b.randomA.layout "pRandomA" "ulRandomLen" ++ b.primeP.layout "pPrimeP" "ulPAndGLen" ++
      ("pBaseG", b.baseG.within b.primeP.length) :: b.subprimeQ.layout "pSubprimeQ" "ulQLen"
  | skipjackRelayx b =>
    b.oldWrappedX.layout "pOldWrappedX" "ulOldWrappedXLen" ++
      b.oldPassword.layout "pOldPassword" "ulOldPasswordLen" ++
      b.oldPublicData.layout "pOldPublicData" "ulOldPublicDataLen" ++
      b.oldRandomA.layout "pOldRandomA" "ulOldRandomLen" ++
      b.newPassword.layout "pNewPassword" "ulNewPasswordLen" ++
      b.newPublicData.layout "pNewPublicData" "ulNewPublicDataLen" ++
      b.newRandomA.layout "pNewRandomA" "ulNewRandomLen"
  | pbe b =>
    ("pInitVector", .pointer b.initVector) :: b.password.layout "pPassword" "ulPasswordLen" ++
      b.salt.layout "pSalt" "ulSaltLen" ++ [("ulIteration", .word b.iteration)]
  | pkcs5Pbkd2 b =>
    ("saltSource", .word b.saltSource) ::
      b.saltSourceData.layout "pSaltSourceData" "ulSaltSourceDataLen" ++
      [("iterations", .word b.iterations), ("prf", .word b.pseudoRandom)] ++
      b.pseudoRandomData.layout "pPrfData" "ulPrfDataLen" ++
      b.password.layout "pPassword" "*ulPasswordLen"
  | keyWrapSetOaep b => ("bBC", .byte b.blockContents) :: b.x.layout "pX" "ulXLen"
  | keyDerivationStringData data => data.layout "pData" "ulLen"
  | ssl3MasterKeyDerive b =>
    [("RandomInfo", .fields (some b.random.layout)), ("pVersion", .version b.version)]
  | ssl3KeyMat b =>
    [("ulMacSizeInBits", .word b.macSizeInBits), ("ulKeySizeInBits", .word b.keySizeInBits),
     ("ulIVSizeInBits", .word b.ivSizeInBits), ("bIsExport", .byte b.isExport),
     ("RandomInfo", .fields (some b.random.layout)),
     ("pReturnedKeyMaterial", .fields (b.returned.map (·.layout (b.ivSizeInBits / 8))))]
  | ecdh1Derive b => b.layout "pSharedData" "ulSharedDataLen"
  | ecdh2Derive b => b.layout "pSharedData" "ulSharedDataLen"
  | ecmqvDerive b => b.layout "pSharedData" "ulSharedDataLen"
  | x942Dh1Derive b => b.layout "pOtherInfo" "ulOtherInfoLen"
  | x942Dh2Derive b => b.layout "pOtherInfo" "ulOtherInfoLen"
  | x942MqvDerive b => b.layout "pOtherInfo" "ulOtherInfoLen"
  | desCbcEncryptData b => b.layout
  | aesCbcEncryptData b => b.layout
  | aesGcm b =>
    b.iv.layout "pIv" "ulIvLen" ++ ("ulIvBits", .word b.ivBits) ::
      b.additionalData.layout "pAAD" "ulAADLen" ++ [("ulTagBits", .word b.tagBits)]

end Block

end Cryptoki
