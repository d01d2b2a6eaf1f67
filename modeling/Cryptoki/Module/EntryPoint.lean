/-! The functions of a module, in the order of its function table. -/

namespace Cryptoki

inductive EntryPoint where
  | initialise
  | finalise
  | getInfo
  | getFunctionList
  | getSlotList
  | getSlotInfo
  | getTokenInfo
  | getMechanismList
  | getMechanismInfo
  | initToken
  | initPin
  | setPin
  | openSession
  | closeSession
  | closeAllSessions
  | getSessionInfo
  | getOperationState
  | setOperationState
  | login
  | logout
  | createObject
  | copyObject
  | destroyObject
  | getObjectSize
  | getAttributeValue
  | setAttributeValue
  | findObjectsInit
  | findObjects
  | findObjectsFinal
  | encryptInit
  | encrypt
  | encryptUpdate
  | encryptFinal
  | decryptInit
  | decrypt
  | decryptUpdate
  | decryptFinal
  | digestInit
  | digest
  | digestUpdate
  | digestKey
  | digestFinal
  | signInit
  | sign
  | signUpdate
  | signFinal
  | signRecoverInit
  | signRecover
  | verifyInit
  | verify
  | verifyUpdate
  | verifyFinal
  | verifyRecoverInit
  | verifyRecover
  | digestEncryptUpdate
  | decryptDigestUpdate
  | signEncryptUpdate
  | decryptVerifyUpdate
  | generateKey
  | generateKeyPair
  | wrapKey
  | unwrapKey
  | deriveKey
  | seedRandom
  | generateRandom
  | getFunctionStatus
  | cancelFunction
  | waitForSlotEvent
deriving DecidableEq, Repr

namespace EntryPoint

def all : List EntryPoint :=
  [.initialise, .finalise, .getInfo, .getFunctionList, .getSlotList, .getSlotInfo, .getTokenInfo,
   .getMechanismList, .getMechanismInfo, .initToken, .initPin, .setPin, .openSession, .closeSession,
   .closeAllSessions, .getSessionInfo, .getOperationState, .setOperationState, .login, .logout,
   .createObject, .copyObject, .destroyObject, .getObjectSize, .getAttributeValue,
   .setAttributeValue, .findObjectsInit, .findObjects, .findObjectsFinal, .encryptInit, .encrypt,
   .encryptUpdate, .encryptFinal, .decryptInit, .decrypt, .decryptUpdate, .decryptFinal,
   .digestInit, .digest, .digestUpdate, .digestKey, .digestFinal, .signInit, .sign, .signUpdate,
   .signFinal, .signRecoverInit, .signRecover, .verifyInit, .verify, .verifyUpdate, .verifyFinal,
   .verifyRecoverInit, .verifyRecover, .digestEncryptUpdate, .decryptDigestUpdate,
   .signEncryptUpdate, .decryptVerifyUpdate, .generateKey, .generateKeyPair, .wrapKey, .unwrapKey,
   .deriveKey, .seedRandom, .generateRandom, .getFunctionStatus, .cancelFunction, .waitForSlotEvent]

def name : EntryPoint → String
  | initialise => "C_Initialize"
  | finalise => "C_Finalize"
  | getInfo => "C_GetInfo"
  | getFunctionList => "C_GetFunctionList"
  | getSlotList => "C_GetSlotList"
  | getSlotInfo => "C_GetSlotInfo"
  | getTokenInfo => "C_GetTokenInfo"
  | getMechanismList => "C_GetMechanismList"
  | getMechanismInfo => "C_GetMechanismInfo"
  | initToken => "C_InitToken"
  | initPin => "C_InitPIN"
  | setPin => "C_SetPIN"
  | openSession => "C_OpenSession"
  | closeSession => "C_CloseSession"
  | closeAllSessions => "C_CloseAllSessions"
  | getSessionInfo => "C_GetSessionInfo"
  | getOperationState => "C_GetOperationState"
  | setOperationState => "C_SetOperationState"
  | login => "C_Login"
  | logout => "C_Logout"
  | createObject => "C_CreateObject"
  | copyObject => "C_CopyObject"
  | destroyObject => "C_DestroyObject"
  | getObjectSize => "C_GetObjectSize"
  | getAttributeValue => "C_GetAttributeValue"
  | setAttributeValue => "C_SetAttributeValue"
  | findObjectsInit => "C_FindObjectsInit"
  | findObjects => "C_FindObjects"
  | findObjectsFinal => "C_FindObjectsFinal"
  | encryptInit => "C_EncryptInit"
  | encrypt => "C_Encrypt"
  | encryptUpdate => "C_EncryptUpdate"
  | encryptFinal => "C_EncryptFinal"
  | decryptInit => "C_DecryptInit"
  | decrypt => "C_Decrypt"
  | decryptUpdate => "C_DecryptUpdate"
  | decryptFinal => "C_DecryptFinal"
  | digestInit => "C_DigestInit"
  | digest => "C_Digest"
  | digestUpdate => "C_DigestUpdate"
  | digestKey => "C_DigestKey"
  | digestFinal => "C_DigestFinal"
  | signInit => "C_SignInit"
  | sign => "C_Sign"
  | signUpdate => "C_SignUpdate"
  | signFinal => "C_SignFinal"
  | signRecoverInit => "C_SignRecoverInit"
  | signRecover => "C_SignRecover"
  | verifyInit => "C_VerifyInit"
  | verify => "C_Verify"
  | verifyUpdate => "C_VerifyUpdate"
  | verifyFinal => "C_VerifyFinal"
  | verifyRecoverInit => "C_VerifyRecoverInit"
  | verifyRecover => "C_VerifyRecover"
  | digestEncryptUpdate => "C_DigestEncryptUpdate"
  | decryptDigestUpdate => "C_DecryptDigestUpdate"
  | signEncryptUpdate => "C_SignEncryptUpdate"
  | decryptVerifyUpdate => "C_DecryptVerifyUpdate"
  | generateKey => "C_GenerateKey"
  | generateKeyPair => "C_GenerateKeyPair"
  | wrapKey => "C_WrapKey"
  | unwrapKey => "C_UnwrapKey"
  | deriveKey => "C_DeriveKey"
  | seedRandom => "C_SeedRandom"
  | generateRandom => "C_GenerateRandom"
  | getFunctionStatus => "C_GetFunctionStatus"
  | cancelFunction => "C_CancelFunction"
  | waitForSlotEvent => "C_WaitForSlotEvent"

end EntryPoint

end Cryptoki
