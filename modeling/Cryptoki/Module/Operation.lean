import Cryptoki.Module.Call

/-! What a connected module is asked to do, other than being put to use and opening and closing
sessions. Operations of one shape share a constructor and differ in the function that they name. -/

namespace Cryptoki

inductive KeyedStart where
  | encrypt
  | decrypt
  | sign
  | signRecover
  | verify
  | verifyRecover
deriving DecidableEq, Repr

/-- Input turned into output. -/
inductive Transformation where
  | encrypt
  | encryptUpdate
  | decrypt
  | decryptUpdate
  | digest
  | signRecover
  | verifyRecover
  | digestEncryptUpdate
  | decryptDigestUpdate
  | signEncryptUpdate
  | decryptVerifyUpdate
deriving DecidableEq, Repr

/-- Output without input. -/
inductive Extraction where
  | operationState
  | encrypt
  | decrypt
  | digest
  | sign
deriving DecidableEq, Repr

/-- Input without output. -/
inductive Feed where
  | digest
  | sign
  | verify
  /-- The signature that ends a verification. -/
  | verifyFinal
  /-- A seed for random numbers. -/
  | seed
deriving DecidableEq, Repr

/-- A command to a session that has neither input nor output. -/
inductive SessionCommand where
  | logout
  | findObjectsFinal
  | functionStatus
  | cancelFunction
deriving DecidableEq, Repr

/-- What a module is asked to do. Without a PIN the token asks for it by a way of its own. -/
inductive Operation where
  | libraryInfo (encoding : Encoding)
  | slotList (tokenPresent : Bool)
  | slotInfo (slot : Word) (encoding : Encoding)
  | tokenInfo (slot : Word) (encoding : Encoding)
  | mechanismList (slot : Word)
  | mechanismInfo (slot code : Word)
  | initToken (slot : Word) (pin : Option String) (label : String) (encoding : Encoding)
  | initPin (session : Word) (pin : Option String) (encoding : Encoding)
  | setPin (session : Word) (oldPin newPin : Option String) (encoding : Encoding)
  | sessionInfo (session : Word)
  | setOperationState (session : Word) (state : List UInt8) (encryptionKey authenticationKey : Word)
  | login (session user : Word) (pin : Option String) (encoding : Encoding)
  | createObject (session : Word) (template : Template) (encoding : Encoding)
  | copyObject (session object : Word) (template : Template) (encoding : Encoding)
  | destroyObject (session object : Word)
  | objectSize (session object : Word)
  | readAttributes (session object : Word) (template : Template) (encoding : Encoding)
  | writeAttributes (session object : Word) (template : Template) (encoding : Encoding)
  | findObjectsInit (session : Word) (template : Template) (encoding : Encoding)
  /-- At most `limit` objects of the search that is under way. -/
  | findObjects (session limit : Word)
  | start (what : KeyedStart) (session : Word) (mechanism : Mechanism) (key : Word)
  | startDigest (session : Word) (mechanism : Mechanism)
  | digestKey (session key : Word)
  | transform (what : Transformation) (session : Word) (input : List UInt8)
  | extract (what : Extraction) (session : Word)
  | feed (what : Feed) (session : Word) (input : List UInt8)
  | command (what : SessionCommand) (session : Word)
  | sign (session : Word) (data : List UInt8)
  | verify (session : Word) (data signature : List UInt8)
  | generateKey (session : Word) (mechanism : Mechanism) (template : Template)
      (encoding : Encoding)
  | generateKeyPair (session : Word) (mechanism : Mechanism)
      (publicTemplate privateTemplate : Template) (encoding : Encoding)
  | wrapKey (session : Word) (mechanism : Mechanism) (wrappingKey key : Word)
  | unwrapKey (session : Word) (mechanism : Mechanism) (unwrappingKey : Word)
      (wrapped : List UInt8) (template : Template) (encoding : Encoding)
  | deriveKey (session : Word) (mechanism : Mechanism) (baseKey : Word) (template : Template)
      (encoding : Encoding)
  | generateRandom (session length : Word)
  | waitForSlotEvent (flags : Word)
deriving Repr

namespace KeyedStart

def all : List KeyedStart :=
  [.encrypt, .decrypt, .sign, .signRecover, .verify, .verifyRecover]

def entry : KeyedStart → EntryPoint
  | encrypt => .encryptInit
  | decrypt => .decryptInit
  | sign => .signInit
  | signRecover => .signRecoverInit
  | verify => .verifyInit
  | verifyRecover => .verifyRecoverInit

end KeyedStart

namespace Transformation

def all : List Transformation :=
  [.encrypt, .encryptUpdate, .decrypt, .decryptUpdate, .digest, .signRecover, .verifyRecover,
   .digestEncryptUpdate, .decryptDigestUpdate, .signEncryptUpdate, .decryptVerifyUpdate]

def entry : Transformation → EntryPoint
  | encrypt => .encrypt
  | encryptUpdate => .encryptUpdate
  | decrypt => .decrypt
  | decryptUpdate => .decryptUpdate
  | digest => .digest
  | signRecover => .signRecover
  | verifyRecover => .verifyRecover
  | digestEncryptUpdate => .digestEncryptUpdate
  | decryptDigestUpdate => .decryptDigestUpdate
  | signEncryptUpdate => .signEncryptUpdate
  | decryptVerifyUpdate => .decryptVerifyUpdate

end Transformation

namespace Extraction

def all : List Extraction :=
  [.operationState, .encrypt, .decrypt, .digest, .sign]

def entry : Extraction → EntryPoint
  | operationState => .getOperationState
  | encrypt => .encryptFinal
  | decrypt => .decryptFinal
  | digest => .digestFinal
  | sign => .signFinal

end Extraction

namespace Feed

def all : List Feed :=
  [.digest, .sign, .verify, .verifyFinal, .seed]

def entry : Feed → EntryPoint
  | digest => .digestUpdate
  | sign => .signUpdate
  | verify => .verifyUpdate
  | verifyFinal => .verifyFinal
  | seed => .seedRandom

end Feed

namespace SessionCommand

def all : List SessionCommand :=
  [.logout, .findObjectsFinal, .functionStatus, .cancelFunction]

def entry : SessionCommand → EntryPoint
  | logout => .logout
  | findObjectsFinal => .findObjectsFinal
  | functionStatus => .getFunctionStatus
  | cancelFunction => .cancelFunction

end SessionCommand

namespace Operation

def entry : Operation → EntryPoint
  | libraryInfo _ => .getInfo
  | slotList _ => .getSlotList
  | slotInfo _ _ => .getSlotInfo
  | tokenInfo _ _ => .getTokenInfo
  | mechanismList _ => .getMechanismList
  | mechanismInfo _ _ => .getMechanismInfo
  | initToken _ _ _ _ => .initToken
  | initPin _ _ _ => .initPin
  | setPin _ _ _ _ => .setPin
  | sessionInfo _ => .getSessionInfo
  | setOperationState _ _ _ _ => .setOperationState
  | login _ _ _ _ => .login
  | createObject _ _ _ => .createObject
  | copyObject _ _ _ _ => .copyObject
  | destroyObject _ _ => .destroyObject
  | objectSize _ _ => .getObjectSize
  | readAttributes _ _ _ _ => .getAttributeValue
  | writeAttributes _ _ _ _ => .setAttributeValue
  | findObjectsInit _ _ _ => .findObjectsInit
  | findObjects _ _ => .findObjects
  | start what _ _ _ => what.entry
  | startDigest _ _ => .digestInit
  | digestKey _ _ => .digestKey
  | transform what _ _ => what.entry
  | extract what _ => what.entry
  | feed what _ _ => what.entry
  | command what _ => what.entry
  | sign _ _ => .sign
  | verify _ _ _ => .verify
  | generateKey _ _ _ _ => .generateKey
  | generateKeyPair _ _ _ _ _ => .generateKeyPair
  | wrapKey _ _ _ _ => .wrapKey
  | unwrapKey _ _ _ _ _ _ => .unwrapKey
  | deriveKey _ _ _ _ _ => .deriveKey
  | generateRandom _ _ => .generateRandom
  | waitForSlotEvent _ => .waitForSlotEvent

/-- Whether the function is looked up before the arguments are marshaled, so that a missing function
is reported even when the arguments have no native form. -/
def resolvesFirst : Operation → Bool
  | slotList _ | mechanismList _ | transform _ _ _ | extract _ _ | sign _ _ | wrapKey _ _ _ _
  | readAttributes _ _ _ _ => true
  | _ => false

/-- The mechanism of an operation that writes its outputs back into it. -/
def outputMechanism : Operation → Option Mechanism
  | generateKey _ mechanism _ _ | unwrapKey _ mechanism _ _ _ _ | deriveKey _ mechanism _ _ _ =>
    some mechanism
  | _ => none

def outputTemplate : Operation → Template
  | readAttributes _ _ template _ => template
  | _ => []

end Operation

end Cryptoki
