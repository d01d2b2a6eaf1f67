import Cryptoki.Module.Plan
import Cryptoki.Proofs.Mechanism.Parts

/-! What an operation can fail with other than the status of a call: before its first call, in
putting its arguments into native memory (`Operation.plan_meets`), and after a call, in reading the
outputs. -/

namespace Cryptoki

namespace Error

def IsAllocation (e : Error) : Prop := ∃ fault, e = allocation fault

/-- Memory cannot be had, or what is in it stands for no value. -/
def OfMemory : Error → Prop
  | allocation _ | conversion _ | integerRange => True
  | _ => False

/-- Arguments cannot be put into native memory. -/
def OfArguments (e : Error) : Prop := e.OfMemory ∨ ∃ shape, e = unrecognizedValue shape

/-- Outputs cannot be read. -/
def OfOutputs (e : Error) : Prop :=
  e.OfMemory ∨ ∃ index type, e = attributeUnavailable index type

theorem IsAllocation.ofMemory {e : Error} (h : e.IsAllocation) : e.OfMemory := by
  obtain ⟨fault, rfl⟩ := h
  trivial

end Error

namespace Fault

/-- An error that satisfies `P`, or the end of the host for want of memory. -/
def Within (P : Error → Prop) : Fault → Prop
  | error e => P e
  | abort => True
  | overrun => False

/-- Arguments cannot be put into native memory. -/
abbrev OfArguments : Fault → Prop := Within Error.OfArguments

/-- Outputs cannot be read. -/
def OfOutputs : Fault → Prop
  | error e => e.OfOutputs
  | abort | overrun => True

theorem Within.mono {P Q : Error → Prop} {fault : Fault} (h : fault.Within P)
    (hPQ : ∀ e, P e → Q e) : fault.Within Q := by
  cases fault with
  | error e => exact hPQ e h
  | abort => exact trivial
  | overrun => exact h

theorem Within.ofOutputs {fault : Fault} (h : fault.Within Error.OfMemory) : fault.OfOutputs := by
  cases fault with
  | error e => exact .inl h
  | abort => exact trivial
  | overrun => exact h.elim

end Fault

open Error Fault

variable {allocator : Allocator}

theorem Meets.ofMemory {α : Type} {x : Except Error α} (h : FailsWith IsAllocation x) :
    FailsWith OfMemory x :=
  h.failsWith fun _ => IsAllocation.ofMemory

theorem Meets.ofArguments {α : Type} {x : Except Error α} (h : FailsWith OfMemory x) :
    FailsWith Error.OfArguments x :=
  h.failsWith fun _ => .inl

theorem Meets.within {α : Type} {P : Error → Prop} {x : Except Error α} (h : FailsWith P x) :
    FailsWith (Within P) (liftM x : Except Fault α) :=
  .lift h

theorem Meets.withinArguments {α : Type} {x : Except Fault α} (h : FailsWith (Within OfMemory) x) :
    FailsWith Fault.OfArguments x :=
  h.failsWith fun _ hf => hf.mono fun _ => .inl

theorem Meets.ofOutputs {α : Type} {x : Except Fault α} (h : FailsWith (Within OfMemory) x) :
    FailsWith Fault.OfOutputs x :=
  h.failsWith fun _ => Within.ofOutputs

namespace Memory

theorem reserveStorage_failsWith (d : Demand) : FailsWith IsAllocation (reserveStorage d) := by
  unfold reserveStorage
  cases reserve d with
  | ok _ => trivial
  | error why => exact ⟨_, rfl⟩

theorem allocateBytes_failsWith (count : Nat) : FailsWith IsAllocation (allocateBytes count) := by
  unfold allocateBytes
  cases reserve (.bytes count) with
  | ok _ => trivial
  | error why => exact ⟨_, rfl⟩

theorem allocateWords_failsWith (count : Nat) : FailsWith IsAllocation (allocateWords count) := by
  unfold allocateWords
  cases reserve (.words count) with
  | ok _ => trivial
  | error why => exact ⟨_, rfl⟩

theorem copyBytes_failsWith (bytes : List UInt8) : FailsWith IsAllocation (copyBytes bytes) :=
  (reserveStorage_failsWith _).map fun _ => trivial

theorem decodeWords_failsWith (bytes : List UInt8) : FailsWith OfMemory (decodeWords bytes) := by
  unfold decodeWords
  split
  · exact trivial
  · exact .map (reserveStorage_failsWith _).ofMemory fun _ => trivial

theorem insist_within (P : Error → Prop) (d : Demand) : FailsWith (Within P) (insist d) := by
  unfold insist
  split <;> exact trivial

theorem insistAll_within (P : Error → Prop) (demands : List Demand) :
    FailsWith (Within P) (insistAll demands) := by
  induction demands with
  | nil => exact trivial
  | cons d demands ih => exact .bind (insist_within P d) fun _ _ => ih

end Memory

theorem Word.ofLength_failsWith (n : Nat) : FailsWith OfMemory (Word.ofLength n) := by
  unfold Word.ofLength
  split <;> exact trivial

/-! ### Values -/

namespace Value

theorem encodeChars_failsWith (text : List Char) (encoding : Encoding) :
    FailsWith OfMemory (encodeChars text encoding) :=
  .map (Memory.reserveStorage_failsWith _).ofMemory fun _ => trivial

theorem encodeText_failsWith (text : String) (encoding : Encoding) :
    FailsWith (Within OfMemory) (encodeText text encoding) := by
  cases encoding with
  | utf8 => exact trivial
  | singleByte =>
    exact .bind (Memory.insistAll_within _ _) fun _ _ => (encodeChars_failsWith _ _).within

theorem decodeChars_failsWith (bytes : List UInt8) (encoding : Encoding) :
    FailsWith (Within OfMemory) (decodeChars bytes encoding) :=
  .bind (Memory.insistAll_within _ _) fun _ _ =>
    .map (Memory.reserveStorage_failsWith _).ofMemory.within fun _ => trivial

theorem keepBytes_failsWith (b : List UInt8) : FailsWith (Within OfMemory) (keepBytes b) :=
  .map (Memory.insist_within _ _) fun _ => trivial

theorem decode_failsWith (kind : Kind) (b : List UInt8) (encoding : Encoding) :
    FailsWith (Within OfMemory) (decode kind b encoding) := by
  unfold decode
  split
  · exact trivial
  cases kind with
  | bool => exact trivial
  | ulong =>
    dsimp only
    split
    · exact trivial
    · exact keepBytes_failsWith b
  | text => exact .map (decodeChars_failsWith b encoding) fun _ => trivial
  | date =>
    cases Date.ofBytes b with
    | ok d => exact trivial
    | error e => exact keepBytes_failsWith b
  | mechanismArray => exact .map (Memory.decodeWords_failsWith b).within fun _ => trivial
  | templateArray | bytes =>
    exact .map (Memory.copyBytes_failsWith b).ofMemory.within fun _ => trivial

end Value

theorem NativeValue.ofBytes_failsWith (bytes : List UInt8) :
    FailsWith OfMemory (NativeValue.ofBytes bytes) :=
  .map (Word.ofLength_failsWith _) fun _ => trivial

theorem Date.toBytes_failsWith (d : Date) : FailsWith OfMemory d.toBytes := by
  unfold Date.toBytes
  split <;> exact trivial

namespace Value

theorem marshalScalar_failsWith (v : Value) (encoding : Encoding) :
    FailsWith Error.OfArguments (v.marshalScalar encoding) := by
  have native (bytes : List UInt8) : FailsWith Error.OfArguments (NativeValue.ofBytes bytes) :=
    (NativeValue.ofBytes_failsWith bytes).ofArguments
  cases v with
  | absent => exact trivial
  | char | chars => exact .bind (encodeChars_failsWith _ _).ofArguments fun _ _ => native _
  | date d => exact .bind d.toBytes_failsWith.ofArguments fun _ _ => native _
  | template | float => exact .inr ⟨_, rfl⟩
  | _ => exact native _

mutual

theorem marshal_failsWith (v : Value) (encoding : Encoding) :
    FailsWith Error.OfArguments (v.marshal encoding) := by
  cases v with
  | template attributes =>
    rw [marshal]
    refine .bind (Memory.reserveStorage_failsWith _).ofMemory.ofArguments fun _ _ => ?_
    refine .bind (Memory.reserveStorage_failsWith _).ofMemory.ofArguments fun _ _ => ?_
    refine .bind (marshalEntries_failsWith attributes encoding) fun _ _ => ?_
    exact .map (Word.ofLength_failsWith _).ofArguments fun _ => trivial
  | _ =>
    simp only [marshal]
    exact marshalScalar_failsWith _ encoding

theorem marshalEntries_failsWith (attributes : List (Typed Value)) (encoding : Encoding) :
    FailsWith Error.OfArguments (marshalEntries attributes encoding) := by
  match attributes with
  | [] => exact trivial
  | ⟨type, v⟩ :: rest =>
    rw [marshalEntries]
    refine .bind (marshal_failsWith v encoding) fun _ _ => ?_
    exact .map (marshalEntries_failsWith rest encoding) fun _ => trivial

end

end Value

theorem Template.marshal_failsWith (template : Template) (encoding : Encoding) :
    FailsWith Error.OfArguments (template.marshal encoding) :=
  .bind (Memory.reserveStorage_failsWith _).ofMemory.ofArguments fun _ _ =>
    .bind (Memory.reserveStorage_failsWith _).ofMemory.ofArguments fun _ _ =>
      Value.marshalEntries_failsWith template encoding

/-! ### Mechanisms -/

namespace Span

theorem ofOption_failsWith (bytes : Option (List UInt8)) : FailsWith OfMemory (ofOption bytes) := by
  cases bytes with
  | none => exact trivial
  | some bytes => exact .map (Word.ofLength_failsWith _) fun _ => trivial

theorem lend_failsWith (bytes : List UInt8) : FailsWith OfMemory (lend bytes) := by
  unfold lend
  split
  · exact trivial
  · exact ofOption_failsWith _

end Span

theorem lendPassword_failsWith (password : List Char) (encoding : Encoding) :
    FailsWith OfMemory (lendPassword password encoding) :=
  .bind (Value.encodeChars_failsWith _ _) fun _ _ => Span.lend_failsWith _

theorem Mechanism.marshal_failsWith (m : Mechanism) (encoding : Encoding) :
    FailsWith Fault.OfArguments (m.marshal encoding) := by
  refine marshal_failsWith_of_parts fun p _ => ⟨?buffers, ?password, ?copies, ?value⟩
  case buffers => exact fun b _ => (Span.lend_failsWith b).ofArguments
  case password => exact fun text _ => (lendPassword_failsWith text encoding).ofArguments
  case copies => exact fun d _ => Memory.insist_within _ d
  case value => exact fun v _ => v.marshalScalar_failsWith encoding

/-! ### Outputs of mechanisms -/

theorem Pointer.read_failsWith (p : Pointer (List UInt8)) (length : Nat) :
    FailsWith Fault.OfOutputs (p.read length) := by
  have hcopy (bytes : List UInt8) : FailsWith Fault.OfOutputs
      (do return some (← (liftM (Memory.copyBytes bytes) : Except Fault (List UInt8)))) :=
    .map (Memory.copyBytes_failsWith _).ofMemory.within.ofOutputs fun _ => trivial
  unfold read
  split
  · exact trivial
  · split
    · exact trivial
    · exact hcopy _

namespace NativeMechanism

theorem readKeyMaterial_failsWith (out : KeyMaterialBlock) (ivLength : Nat) :
    FailsWith Fault.OfOutputs (readKeyMaterial out ivLength) :=
  .bind (Pointer.read_failsWith _ _) fun _ _ => .map (Pointer.read_failsWith _ _) fun _ => trivial

theorem output_failsWith (n : NativeMechanism) : FailsWith Fault.OfOutputs n.output := by
  refine .map ?_ fun _ => trivial
  unfold outputData
  split
  · split
    · exact .map (Pointer.read_failsWith _ _) fun _ => trivial
    · exact trivial
  split
  · split
    · exact .map (Pointer.read_failsWith _ _) fun _ => trivial
    · exact trivial
  split
  · split <;> exact trivial
  split
  · split
    · split
      · exact .map (readKeyMaterial_failsWith _ _) fun _ => trivial
      · exact trivial
    · exact trivial
  · exact trivial

end NativeMechanism

/-! ### Attribute values -/

namespace Reader

theorem Buffer.allocate_failsWith (length : Nat) :
    FailsWith IsAllocation (Buffer.allocate length) :=
  .map (Memory.allocateWords_failsWith _) fun _ => trivial

namespace Slot

theorem allocate_failsWith (e : QueryEntry) : FailsWith IsAllocation (allocate e) := by
  unfold allocate
  split
  · exact trivial
  split
  · exact .bind (Memory.reserveStorage_failsWith _) fun _ _ =>
      .map (Memory.reserveStorage_failsWith _) fun _ => trivial
  · exact .map (Buffer.allocate_failsWith _) fun _ => trivial

theorem allocateCell_failsWith (c : QueryCell) : FailsWith IsAllocation (allocateCell c) := by
  unfold allocateCell
  split
  · exact trivial
  · exact .map (Buffer.allocate_failsWith _) fun _ => trivial

theorem allocateCells_failsWith (probed : QueryEntry) (slot : Slot) :
    FailsWith IsAllocation (slot.allocateCells probed) := by
  unfold allocateCells
  split
  · split
    · exact .map (.mapM fun c _ => allocateCell_failsWith c) fun _ => trivial
    · exact trivial
  · exact trivial

end Slot

theorem allocateSlots_failsWith (entries : List QueryEntry) :
    FailsWith (Within IsAllocation) (allocateSlots entries) := by
  refine .bind (Memory.reserveStorage_failsWith _).within fun _ _ => ?_
  refine .bind (Meets.mapM fun e _ => Slot.allocate_failsWith e).within fun _ _ => ?_
  refine .bind (Memory.insistAll_within _ _) fun _ _ => ?_
  exact .map (Memory.reserveStorage_failsWith _).within fun _ => trivial

theorem allocateNested_failsWith (slots : List Slot) (probed : List QueryEntry) :
    FailsWith IsAllocation (allocateNested slots probed) := by
  induction slots generalizing probed with
  | nil => exact trivial
  | cons slot slots ih =>
    unfold allocateNested
    split
    · cases probed with
      | nil => exact trivial
      | cons e probed =>
        exact .bind (slot.allocateCells_failsWith e) fun _ _ => .map (ih probed) fun _ => trivial
    · exact .map (ih probed) fun _ => trivial

theorem decodeScalar_failsWith (type final : Word) (bytes : List UInt8) (probed : Nat)
    (encoding : Encoding) :
    FailsWith (Within OfMemory) (decodeScalar type final bytes probed encoding) := by
  unfold decodeScalar
  split
  · exact trivial
  · exact Value.decode_failsWith _ _ encoding

theorem decodeEntry_failsWith (slot : Slot) (e : QueryEntry) (encoding : Encoding) :
    FailsWith (Within OfMemory) (decodeEntry slot e encoding) := by
  unfold decodeEntry
  split
  · exact trivial
  cases slot with
  | unavailable => exact trivial
  | scalar => exact .map (decodeScalar_failsWith _ _ _ _ encoding) fun _ => trivial
  | nested =>
    refine .bind (Memory.reserveStorage_failsWith _).ofMemory.within fun _ _ => ?_
    refine .map (.mapM fun c _ => ?_) fun _ => trivial
    exact .map (decodeScalar_failsWith _ _ _ _ encoding) fun _ => trivial

theorem decodeAll_meets [Allocator] (encoding : Encoding) (index : Nat) (template : Template)
    (fetched : List (Slot × QueryEntry)) :
    Meets (Within OfMemory)
      (fun hidden => ∀ e ∈ hidden, ∃ index type, e = .attributeUnavailable index type)
      (decodeAll encoding index template fetched).1 := by
  induction template generalizing index fetched with
  | nil => exact nofun
  | cons a template ih =>
    cases fetched with
    | nil => exact nofun
    | cons entry fetched =>
      obtain ⟨slot, e⟩ := entry
      have hentry : FailsWith (Within OfMemory) (decodeEntry slot e encoding) :=
        decodeEntry_failsWith slot e encoding
      have hrest := ih (index + 1) fetched
      unfold decodeAll
      split
      next failure hfailure => exact hentry.of_error hfailure
      next value hvalue =>
        dsimp only
        split
        next result hresult =>
          rintro e' he
          cases he
          exact ⟨index, a.type, rfl⟩
        next => exact hrest

end Reader

/-! ### Operations -/

namespace Argument

theorem ofInput_failsWith (bytes : List UInt8) : FailsWith OfMemory (ofInput bytes) :=
  .map (Span.ofOption_failsWith _) fun _ => trivial

theorem ofPin_failsWith (pin : Option String) (encoding : Encoding) :
    FailsWith (Within OfMemory) (ofPin pin encoding) := by
  cases pin with
  | none => exact trivial
  | some pin =>
    refine .bind (Value.encodeText_failsWith _ _) fun _ _ => ?_
    split
    · exact .bind (Memory.insist_within _ _) fun _ _ => (ofInput_failsWith _).within
    · exact (ofInput_failsWith _).within

theorem ofLabel_failsWith (label : String) (encoding : Encoding) :
    FailsWith (Within OfMemory) (ofLabel label encoding) :=
  .map (Value.encodeText_failsWith _ _) fun _ => trivial

theorem ofTemplate_failsWith (template : Template) (encoding : Encoding) :
    FailsWith Error.OfArguments (ofTemplate template encoding) :=
  .bind (template.marshal_failsWith encoding) fun _ _ =>
    .map (Word.ofLength_failsWith _).ofArguments fun _ => trivial

end Argument

theorem Field.text_failsWith {width : Nat} (field : Field width) (encoding : Encoding) :
    FailsWith (Within OfMemory) (field.text encoding) :=
  .bind (Value.decodeChars_failsWith _ _) fun _ _ =>
    .map (Memory.insistAll_within _ _) fun _ => trivial

theorem LibraryInfo.ofRecord_failsWith (r : LibraryRecord) (encoding : Encoding) :
    FailsWith (Within OfMemory) (ofRecord r encoding) :=
  .bind (Field.text_failsWith _ _) fun _ _ => .map (Field.text_failsWith _ _) fun _ => trivial

theorem SlotInfo.ofRecord_failsWith (r : SlotRecord) (encoding : Encoding) :
    FailsWith (Within OfMemory) (ofRecord r encoding) :=
  .bind (Field.text_failsWith _ _) fun _ _ => .map (Field.text_failsWith _ _) fun _ => trivial

theorem TokenInfo.ofRecord_failsWith (r : TokenRecord) (encoding : Encoding) :
    FailsWith (Within OfMemory) (ofRecord r encoding) :=
  .bind (Field.text_failsWith _ _) fun _ _ => .bind (Field.text_failsWith _ _) fun _ _ =>
    .bind (Field.text_failsWith _ _) fun _ _ => .bind (Field.text_failsWith _ _) fun _ _ =>
      .map (Field.text_failsWith _ _) fun _ => trivial

namespace Operation

/-- The size of an element of the output whose length the module chooses. -/
def outputUnit : Operation → Option Nat
  | slotList _ | mechanismList _ => some wordSize
  | transform _ _ _ | extract _ _ | sign _ _ | wrapKey _ _ _ _ => some 1
  | _ => none

/-- A plan that the operation can have. -/
def Plans [Allocator] (o : Operation) : Plan → Prop
  | .once _ conclude => o.outputUnit = none ∧ ∀ reply, FailsWith Fault.OfOutputs (conclude reply)
  | .bytes _ | .guessed _ _ => o.outputUnit = some 1
  | .words _ => o.outputUnit = some wordSize
  | .attributes session object template encoding =>
    o = readAttributes session object template encoding

section Plans

variable {o : Operation} {arguments : List Argument}

theorem plans_act (h : o.outputUnit = none) : o.Plans (.act arguments) := ⟨h, fun _ => trivial⟩

theorem plans_fetchWord (h : o.outputUnit = none) : o.Plans (.fetchWord arguments) :=
  ⟨h, fun _ => trivial⟩

theorem plans_fetchInfo (h : o.outputUnit = none) {read : Option InfoRecord → Except Fault Response}
    (hread : ∀ r, FailsWith (Within OfMemory) (read r)) : o.Plans (.fetchInfo arguments read) :=
  ⟨h, fun reply => .map (hread reply.info).ofOutputs fun _ => trivial⟩

theorem plans_fetchKey (h : o.outputUnit = none) {n : NativeMechanism}
    {respond : Reply → Response} : o.Plans (.fetchKey arguments n respond) :=
  ⟨h, fun reply => .map (n.write reply.parameter).output_failsWith fun _ => trivial⟩

end Plans

/-- What can fail before the first call fails with an error of the arguments or ends the host. -/
theorem plan_meets (o : Operation) : Meets Fault.OfArguments o.Plans o.plan := by
  have input (bytes : List UInt8) : FailsWith Fault.OfArguments
      (liftM (Argument.ofInput bytes) : Except Fault Argument) :=
    (Argument.ofInput_failsWith bytes).ofArguments.within
  have pin (pin : Option String) (encoding : Encoding) :
      FailsWith Fault.OfArguments (Argument.ofPin pin encoding) :=
    (Argument.ofPin_failsWith pin encoding).withinArguments
  have template (t : Template) (encoding : Encoding) : FailsWith Fault.OfArguments
      (liftM (Argument.ofTemplate t encoding) : Except Fault Argument) :=
    (Argument.ofTemplate_failsWith t encoding).within
  cases o with
  | libraryInfo encoding =>
    refine .pure (plans_fetchInfo rfl fun r => ?_)
    exact .map (LibraryInfo.ofRecord_failsWith _ _) fun _ => trivial
  | slotInfo slot encoding =>
    refine .pure (plans_fetchInfo rfl fun r => ?_)
    exact .map (SlotInfo.ofRecord_failsWith _ _) fun _ => trivial
  | tokenInfo slot encoding =>
    refine .pure (plans_fetchInfo rfl fun r => ?_)
    exact .map (TokenInfo.ofRecord_failsWith _ _) fun _ => trivial
  | mechanismInfo slot code =>
    refine .pure (plans_fetchInfo rfl fun r => ?_)
    unfold InfoRecord.readMechanism
    split <;> exact trivial
  | sessionInfo session =>
    refine .pure (plans_fetchInfo rfl fun r => ?_)
    unfold InfoRecord.readSession
    split <;> exact trivial
  | slotList | mechanismList | extract | readAttributes => exact rfl
  | destroyObject | digestKey | command => exact .pure (plans_act rfl)
  | objectSize | waitForSlotEvent => exact .pure (plans_fetchWord rfl)
  | initToken slot p label encoding =>
    refine .bind (pin p encoding) fun _ _ => ?_
    exact .map (Argument.ofLabel_failsWith label encoding).withinArguments fun _ => plans_act rfl
  | initPin session p encoding | login session user p encoding =>
    exact .map (pin p encoding) fun _ => plans_act rfl
  | setPin session oldPin newPin encoding =>
    exact .bind (pin oldPin encoding) fun _ _ => .map (pin newPin encoding) fun _ => plans_act rfl
  | setOperationState session state | feed what session state =>
    exact .map (input state) fun _ => plans_act rfl
  | verify session data signature =>
    exact .bind (input data) fun _ _ => .map (input signature) fun _ => plans_act rfl
  | transform what session bytes | sign session bytes => exact .map (input bytes) fun _ => rfl
  | createObject session t encoding | copyObject session object t encoding =>
    exact .map (template t encoding) fun _ => plans_fetchWord rfl
  | writeAttributes session object t encoding | findObjectsInit session t encoding =>
    exact .map (template t encoding) fun _ => plans_act rfl
  | findObjects session limit =>
    exact .map (Memory.allocateWords_failsWith _).ofMemory.ofArguments.within fun _ =>
      ⟨rfl, fun _ => trivial⟩
  | generateRandom session length =>
    exact .map (Memory.allocateBytes_failsWith _).ofMemory.ofArguments.within fun _ =>
      ⟨rfl, fun _ => trivial⟩
  | start what session m key | startDigest session m =>
    exact .map (m.marshal_failsWith .utf8) fun _ => plans_act rfl
  | wrapKey session m wrappingKey key => exact .map (m.marshal_failsWith .utf8) fun _ => rfl
  | generateKeyPair session m publicTemplate privateTemplate encoding =>
    refine .bind (m.marshal_failsWith encoding) fun _ _ => ?_
    refine .bind (template publicTemplate encoding) fun _ _ => ?_
    exact .map (template privateTemplate encoding) fun _ => ⟨rfl, fun _ => trivial⟩
  | generateKey session m t encoding | deriveKey session m baseKey t encoding =>
    refine .bind (template t encoding) fun _ _ => ?_
    exact .map (m.marshal_failsWith encoding) fun _ => plans_fetchKey rfl
  | unwrapKey session m unwrappingKey wrapped t encoding =>
    refine .bind (input wrapped) fun _ _ => .bind (template t encoding) fun _ _ => ?_
    exact .map (m.marshal_failsWith encoding) fun _ => plans_fetchKey rfl

end Operation

/-! ### Missing functions -/

/-- The table of a library is there and has a function. -/
def Library.Provides (l : Library) (f : EntryPoint) : Prop :=
  ∃ table, l.table = some table ∧ f ∈ table

namespace Library

variable {l : Library} {f : EntryPoint}

theorem require_of_provides (h : l.Provides f) : l.require f = .ok () := by
  obtain ⟨table, htable, hf⟩ := h
  simp [require, functions, htable, hf, bind, Except.bind, pure, Except.pure]

theorem require_of_missing (h : ¬l.Provides f) :
    l.require f = .error (.functionNotSupported f.name) := by
  unfold require functions
  cases htable : l.table with
  | none => rfl
  | some table =>
    have hf : f ∉ table := fun hf => h ⟨table, htable, hf⟩
    simp [hf, bind, Except.bind, throw, throwThe, MonadExceptOf.throw]

end Library

namespace Operation

variable {o : Operation} {library : Library}

theorem prepare_of_provides (h : library.Provides o.entry) : o.prepare library = o.plan := by
  unfold prepare
  rw [Library.require_of_provides h]
  cases o.resolvesFirst <;> cases o.plan <;> rfl

/-- The function is looked up before the arguments are put into native memory or after. -/
theorem prepare_of_missing (h : ¬library.Provides o.entry) :
    o.prepare library =
      if o.resolvesFirst then .error (.error (.functionNotSupported o.entry.name))
      else o.plan >>= fun _ => .error (.error (.functionNotSupported o.entry.name)) := by
  unfold prepare
  rw [Library.require_of_missing h]
  cases o.resolvesFirst <;> cases o.plan <;> rfl

theorem plan_of_prepare {plan : Plan} (h : o.prepare library = .ok plan) :
    library.Provides o.entry ∧ o.plan = .ok plan := by
  by_cases hprovides : library.Provides o.entry
  · exact ⟨hprovides, prepare_of_provides hprovides ▸ h⟩
  · rw [prepare_of_missing hprovides] at h
    cases hfirst : o.resolvesFirst <;> cases hplan : o.plan <;>
      simp [hfirst, hplan, bind, Except.bind] at h

theorem prepare_failsWith (o : Operation) (library : Library) :
    FailsWith (fun fault => fault = .error (.functionNotSupported o.entry.name) ∨
      fault.OfArguments) (o.prepare library) := by
  have hplan : FailsWith Fault.OfArguments o.plan :=
    o.plan_meets.failsWith fun _ => id
  by_cases hprovides : library.Provides o.entry
  · rw [prepare_of_provides hprovides]
    exact hplan.failsWith fun _ => .inr
  · rw [prepare_of_missing hprovides]
    split
    · exact .inl rfl
    · exact .bind (hplan.failsWith fun _ => .inr) fun _ _ => .inl rfl

theorem prepare_ne_overrun : o.prepare library ≠ .error .overrun := by
  intro h
  rcases (o.prepare_failsWith library).of_error h with h | h
  · cases h
  · exact h

end Operation

end Cryptoki
