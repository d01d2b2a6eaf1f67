import Cryptoki.Attribute.Reader
import Cryptoki.Module.Library
import Cryptoki.Module.Operation

/-! Operations in native memory. A plan is an operation whose arguments have been marshaled: it says
how often the function is called, with what arguments, and what the replies come to. All that can
fail before the first call fails in the making of the plan. -/

namespace Cryptoki

inductive Response where
  | done
  | word (w : Word)
  | words (words : List Word)
  | bytes (bytes : List UInt8)
  /-- A derived key, unless the keys are returned through the parameter. -/
  | derivedKey (key : Option Word)
  | keyPair (publicKey privateKey : Word)
  | library (i : LibraryInfo)
  | slot (i : SlotInfo)
  | token (i : TokenInfo)
  | session (i : SessionInfo)
  | mechanism (i : MechanismInfo)
deriving DecidableEq, Repr

/-- What a successful reply comes to: the response, and the output fields of the parameter. -/
structure Conclusion where
  response : Response
  output : Option Output := none
deriving DecidableEq, Repr

/-- An operation whose arguments are in native memory. -/
inductive Plan where
  | once (arguments : List Argument) (conclude : Reply → Except Fault Conclusion)
  /-- Bytes of a length to be asked for; the output buffer follows the arguments. -/
  | bytes (arguments : List Argument)
  /-- Words of a number to be asked for. -/
  | words (arguments : List Argument)
  /-- Bytes of a length that is guessed first. -/
  | guessed (guess : Nat) (arguments : List Argument)
  /-- The values of attributes of an object. -/
  | attributes (session object : Word) (template : Template) (encoding : Encoding)

/-- How an operation ends: its result, and what the caller has lent for outputs, afterwards. -/
structure Answer where
  result : Except Fault Response
  /-- The template that was to be filled in. -/
  template : Template := []
  /-- The mechanism that outputs are written back into. -/
  mechanism : Option Mechanism := none

/-- The length of the buffer that a signature is first asked for with. -/
def signatureGuess : Nat := 512

def labelWidth : Nat := 32

variable [Allocator]

namespace Argument

def ofTemplate (template : Template) (encoding : Encoding) : Except Error Argument := do
  let entries ← template.marshal encoding
  let count ← Word.ofLength entries.length
  return .template entries count

/-- Input as an argument; it is never a null pointer. -/
def ofInput (bytes : List UInt8) : Except Error Argument := do
  return .input (← Span.ofOption (some bytes))

/-- A PIN as an argument, null when there is none. It is a copy: one in UTF-8 must be had. -/
def ofPin (pin : Option String) (encoding : Encoding) : Except Fault Argument :=
  match pin with
  | none => .ok (.input .null)
  | some pin => do
    let bytes ← Value.encodeText pin encoding
    if encoding = .utf8 then
      Memory.insist (.bytes bytes.length)
    ofInput bytes

def ofLabel (label : String) (encoding : Encoding) : Except Fault Argument := do
  return .field (Padding.fill labelWidth (← Value.encodeText label encoding))

end Argument

namespace Reply

/-- The handle of a reply, zero when none was written. -/
def handleValue (r : Reply) : Word := r.handle.getD 0

end Reply

namespace Plan

/-- A call whose success is all that it gives. -/
def act (arguments : List Argument) : Plan := once arguments fun _ => return { response := .done }

def fetchWord (arguments : List Argument) : Plan :=
  once arguments fun reply => return { response := .word reply.handleValue }

def fetchInfo (arguments : List Argument)
    (read : Option InfoRecord → Except Fault Response) : Plan :=
  once arguments fun reply => do return { response := ← read reply.info }

/-- A call that gives `response` and may write to the parameter of a mechanism. -/
def fetchKey (arguments : List Argument) (n : NativeMechanism)
    (response : Reply → Response) : Plan :=
  once arguments fun reply => do
    return { response := response reply, output := ← (n.write reply.parameter).output }

end Plan

namespace InfoRecord

/-- The record of a library, blank unless the module has filled in one. -/
def asLibrary : Option InfoRecord → LibraryRecord
  | some (.library record) => record
  | _ => {}

def asSlot : Option InfoRecord → SlotRecord
  | some (.slot record) => record
  | _ => {}

def asToken : Option InfoRecord → TokenRecord
  | some (.token record) => record
  | _ => {}

def readLibrary (encoding : Encoding) (r : Option InfoRecord) : Except Fault Response := do
  return .library (← LibraryInfo.ofRecord (asLibrary r) encoding)

def readSlot (encoding : Encoding) (r : Option InfoRecord) : Except Fault Response := do
  return .slot (← SlotInfo.ofRecord (asSlot r) encoding)

def readToken (encoding : Encoding) (r : Option InfoRecord) : Except Fault Response := do
  return .token (← TokenInfo.ofRecord (asToken r) encoding)

def readSession (r : Option InfoRecord) : Except Fault Response :=
  match r with
  | some (.session record) => .ok (.session record)
  | _ => .ok (.session {})

def readMechanism (r : Option InfoRecord) : Except Fault Response :=
  match r with
  | some (.mechanism record) => .ok (.mechanism record)
  | _ => .ok (.mechanism {})

end InfoRecord

namespace Operation

/-- The handles that a search has found, at most as many as were asked for. -/
def foundObjects (buffer : List Word) (reply : Reply) : List Word :=
  (overwrite buffer reply.words).take (min (reply.length.getD 0).toNat buffer.length)

def plan (o : Operation) : Except Fault Plan := do
  match o with
  | libraryInfo encoding => return .fetchInfo [] (InfoRecord.readLibrary encoding)
  | slotList tokenPresent => return .words [.byte (boolToByte tokenPresent)]
  | slotInfo slot encoding => return .fetchInfo [.word slot] (InfoRecord.readSlot encoding)
  | tokenInfo slot encoding => return .fetchInfo [.word slot] (InfoRecord.readToken encoding)
  | mechanismList slot => return .words [.word slot]
  | mechanismInfo slot code => return .fetchInfo [.word slot, .word code] InfoRecord.readMechanism
  | initToken slot pin label encoding =>
    let pin ← Argument.ofPin pin encoding
    let label ← Argument.ofLabel label encoding
    return .act [.word slot, pin, label]
  | initPin session pin encoding =>
    return .act [.word session, ← Argument.ofPin pin encoding]
  | setPin session oldPin newPin encoding =>
    let oldPin ← Argument.ofPin oldPin encoding
    let newPin ← Argument.ofPin newPin encoding
    return .act [.word session, oldPin, newPin]
  | sessionInfo session => return .fetchInfo [.word session] InfoRecord.readSession
  | setOperationState session state encryptionKey authenticationKey =>
    let state ← Argument.ofInput state
    return .act [.word session, state, .word encryptionKey, .word authenticationKey]
  | login session user pin encoding =>
    return .act [.word session, .word user, ← Argument.ofPin pin encoding]
  | createObject session template encoding =>
    return .fetchWord [.word session, ← Argument.ofTemplate template encoding]
  | copyObject session object template encoding =>
    return .fetchWord [.word session, .word object, ← Argument.ofTemplate template encoding]
  | destroyObject session object => return .act [.word session, .word object]
  | objectSize session object => return .fetchWord [.word session, .word object]
  | readAttributes session object template encoding =>
    return .attributes session object template encoding
  | writeAttributes session object template encoding =>
    return .act [.word session, .word object, ← Argument.ofTemplate template encoding]
  | findObjectsInit session template encoding =>
    return .act [.word session, ← Argument.ofTemplate template encoding]
  | findObjects session limit =>
    let buffer ← Memory.allocateWords limit.toNat
    return .once [.word session, .word limit] fun reply =>
      return { response := .words (foundObjects buffer reply) }
  | start _ session mechanism key =>
    return .act [.word session, .mechanism (← mechanism.marshal .utf8), .word key]
  | startDigest session mechanism =>
    return .act [.word session, .mechanism (← mechanism.marshal .utf8)]
  | digestKey session key => return .act [.word session, .word key]
  | transform _ session input => return .bytes [.word session, ← Argument.ofInput input]
  | extract _ session => return .bytes [.word session]
  | feed _ session input => return .act [.word session, ← Argument.ofInput input]
  | command _ session => return .act [.word session]
  | sign session data =>
    return .guessed signatureGuess [.word session, ← Argument.ofInput data]
  | verify session data signature =>
    let data ← Argument.ofInput data
    let signature ← Argument.ofInput signature
    return .act [.word session, data, signature]
  | generateKey session mechanism template encoding =>
    let template ← Argument.ofTemplate template encoding
    let native ← mechanism.marshal encoding
    return .fetchKey [.word session, .mechanism native, template] native fun reply =>
      .word reply.handleValue
  | generateKeyPair session mechanism publicTemplate privateTemplate encoding =>
    let native ← mechanism.marshal encoding
    let publicTemplate ← Argument.ofTemplate publicTemplate encoding
    let privateTemplate ← Argument.ofTemplate privateTemplate encoding
    return .once [.word session, .mechanism native, publicTemplate, privateTemplate] fun reply =>
      return { response := .keyPair reply.handleValue (reply.secondHandle.getD 0) }
  | wrapKey session mechanism wrappingKey key =>
    return .bytes [.word session, .mechanism (← mechanism.marshal .utf8), .word wrappingKey,
      .word key]
  | unwrapKey session mechanism unwrappingKey wrapped template encoding =>
    let wrapped ← Argument.ofInput wrapped
    let template ← Argument.ofTemplate template encoding
    let native ← mechanism.marshal encoding
    return .fetchKey [.word session, .mechanism native, .word unwrappingKey, wrapped, template]
      native fun reply => .word reply.handleValue
  | deriveKey session mechanism baseKey template encoding =>
    let template ← Argument.ofTemplate template encoding
    let native ← mechanism.marshal encoding
    let wanted := !native.returnsKeyMaterial
    return .fetchKey [.word session, .mechanism native, .word baseKey, template, .pointer wanted]
      native fun reply => .derivedKey (if wanted then some reply.handleValue else none)
  | generateRandom session length =>
    let buffer ← Memory.allocateBytes length.toNat
    return .once [.word session, .word length] fun reply =>
      return { response := .bytes (overwrite buffer reply.bytes) }
  | waitForSlotEvent flags => return .fetchWord [.word flags, .pointer false]

def prepare (o : Operation) (library : Library) : Except Fault Plan := do
  if o.resolvesFirst then
    library.require o.entry
  let plan ← o.plan
  library.require o.entry
  return plan

end Operation

namespace Plan

variable {σ : Type}

abbrev Callee (σ : Type) := (arguments : List Argument) → StateM σ Reply

def callOnce (function : String) (call : Callee σ) (arguments : List Argument)
    (conclude : Reply → Except Fault Conclusion) : StateM σ (Except Fault Conclusion) := do
  let reply ← call arguments
  return (Negotiation.check function reply.status >>= fun _ => conclude reply : Except Fault _)

def respond {α : Type} (response : α → Response) (result : Except Error α) :
    Except Fault Response :=
  match result with
  | .ok a => .ok (response a)
  | .error e => .error (.error e)

def withOutput (call : Callee σ) (arguments : List Argument) : Negotiation.Callee σ :=
  fun present capacity => call (arguments ++ [.output present capacity])

/-- Carries out a plan for an operation that has lent `template` and `mechanism` for outputs. The
mechanism changes only when the operation succeeds. -/
def run (function : String) (call : Callee σ) (template : Template) (mechanism : Option Mechanism) :
    (plan : Plan) → StateM σ Answer
  | once arguments conclude => do
    match ← callOnce function call arguments conclude with
    | .error fault => return ⟨.error fault, template, mechanism⟩
    | .ok conclusion =>
      let mechanism := match conclusion.output with
        | some output => mechanism.map output.apply
        | none => mechanism
      return ⟨.ok conclusion.response, template, mechanism⟩
  | bytes arguments => do
    let result ← (Negotiation.read Negotiation.bytes function (withOutput call arguments)).run
    return ⟨respond .bytes result, template, mechanism⟩
  | words arguments => do
    let result ← (Negotiation.read Negotiation.words function (withOutput call arguments)).run
    return ⟨respond .words result, template, mechanism⟩
  | guessed guess arguments => do
    let result ← (Negotiation.readWithGuess function guess (withOutput call arguments)).run
    return ⟨respond .bytes result, template, mechanism⟩
  | attributes session object template encoding => do
    let (result, template) ← Reader.read encoding template fun query =>
      call [.word session, .word object, .query query]
    return ⟨result.map fun _ => .done, template, mechanism⟩

end Plan

namespace Operation

variable {σ : Type}

def refused (o : Operation) (fault : Fault) : Answer :=
  ⟨.error fault, o.outputTemplate, o.outputMechanism⟩

def run (o : Operation) (library : Library) (call : Call → StateM σ Reply) : StateM σ Answer :=
  match o.prepare library with
  | .error fault => return o.refused fault
  | .ok plan =>
    plan.run o.entry.name (fun arguments => call ⟨o.entry, arguments⟩) o.outputTemplate
      o.outputMechanism

end Operation

end Cryptoki
