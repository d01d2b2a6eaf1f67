import Cryptoki.Host.Request

/-! Requests by name. A command names a function and carries arguments of every kind, of which each
function takes its own; an argument that a function does not take is ignored. -/

namespace Cryptoki

/-- A function name in lower case, with words joined by underscores, and the arguments. -/
structure Command (κ η : Type) where
  function : String
  session : Word := 0
  slot : Word := 0
  object : Word := 0
  flags : Word := 0
  encoding : Encoding := .default
  template : Template := []
  mechanism : Mechanism := ⟨0, none⟩
  /-- The code of a mechanism to be described. -/
  code : Word := 0
  tokenPresent : Bool := false
  /-- Input: data, a wrapped key, a seed or a saved state. -/
  data : List UInt8 := []
  signature : List UInt8 := []
  user : Word := 0
  pin : Option String := none
  newPin : Option String := none
  label : String := ""
  /-- The key of an operation; the wrapping, unwrapping, base or encryption key. -/
  key : Word := 0
  /-- The key to be wrapped; the authentication key. -/
  secondKey : Word := 0
  /-- The most objects to be found; the number of random bytes. -/
  limit : Word := 0
  publicTemplate : Template := []
  privateTemplate : Template := []
  initArgs : Option (InitArgs η) := none
  registration : Option κ := none
deriving Repr

namespace Command

variable {κ η : Type}

/-- The operations that the arguments can make, at least one for each function. Verification takes
its input from the signature, so its operations come first. -/
def operations (c : Command κ η) : List Operation :=
  [.libraryInfo c.encoding, .slotList c.tokenPresent, .slotInfo c.slot c.encoding,
   .tokenInfo c.slot c.encoding, .mechanismList c.slot, .mechanismInfo c.slot c.code,
   .initToken c.slot c.pin c.label c.encoding, .initPin c.session c.pin c.encoding,
   .setPin c.session c.pin c.newPin c.encoding, .sessionInfo c.session,
   .setOperationState c.session c.data c.key c.secondKey,
   .login c.session c.user c.pin c.encoding, .createObject c.session c.template c.encoding,
   .copyObject c.session c.object c.template c.encoding, .destroyObject c.session c.object,
   .objectSize c.session c.object, .readAttributes c.session c.object c.template c.encoding,
   .writeAttributes c.session c.object c.template c.encoding,
   .findObjectsInit c.session c.template c.encoding, .findObjects c.session c.limit,
   .startDigest c.session c.mechanism, .digestKey c.session c.key, .sign c.session c.data,
   .verify c.session c.data c.signature,
   .generateKey c.session c.mechanism c.template c.encoding,
   .generateKeyPair c.session c.mechanism c.publicTemplate c.privateTemplate c.encoding,
   .wrapKey c.session c.mechanism c.key c.secondKey,
   .unwrapKey c.session c.mechanism c.key c.data c.template c.encoding,
   .deriveKey c.session c.mechanism c.key c.template c.encoding,
   .generateRandom c.session c.limit, .waitForSlotEvent c.flags,
   .transform .verifyRecover c.session c.signature, .feed .verifyFinal c.session c.signature] ++
  KeyedStart.all.map (.start · c.session c.mechanism c.key) ++
  Transformation.all.map (.transform · c.session c.data) ++
  Extraction.all.map (.extract · c.session) ++ Feed.all.map (.feed · c.session c.data) ++
  SessionCommand.all.map (.command · c.session)

def requests (c : Command κ η) : List (Request κ η) :=
  [.initialise c.initArgs, .finalise, .openSession c.slot c.flags c.registration,
   .closeSession c.session, .closeAllSessions c.slot] ++ c.operations.map .operate

/-- Puts an underscore before each upper-case letter that follows a lower-case one, and turns all
letters to lower case. -/
def joinWords : List Char → List Char
  | a :: b :: rest =>
    if a.isLower && b.isUpper then a :: '_' :: joinWords (b :: rest)
    else a.toLower :: joinWords (b :: rest)
  | [a] => [a.toLower]
  | [] => []

def functionName (f : EntryPoint) : String :=
  String.ofList (joinWords (f.name.toList.drop "C_".length))

/-- The request that a command stands for, none when no function has the name. -/
def request? (c : Command κ η) : Option (Request κ η) :=
  c.requests.find? fun r => functionName r.entry == c.function

end Command

end Cryptoki
