import Cryptoki.Proofs.Attribute.Decoding
import Cryptoki.Proofs.Failures
import Cryptoki.Proofs.Info

/-! Buffers that must be had. Where one of them cannot be had the host ends instead of reporting it:
copies of passwords and PINs, buffers that a module is to write to, repaired texts, and bytes that
are kept because they have no other form. For the arguments of an operation these are
`Operation.insisted`, for the record that it reads, `Operation.recordInsisted`. -/

namespace Cryptoki

open Memory

variable {allocator : Allocator}

/-! ### Values -/

namespace Value

theorem encodeText_insists (text : String) (encoding : Encoding) :
    Asks (collectBuffers text.toList encoding) (encodeText text encoding) := by
  cases encoding with
  | utf8 => exact .pure trivial
  | singleByte => exact .last (.insistAll _) fun _ _ => .lift _

theorem decodeChars_insists (bytes : List UInt8) (encoding : Encoding) :
    Asks (repairBuffers bytes encoding) (decodeChars bytes encoding) :=
  .last (.insistAll _) fun _ _ => .last (.lift _) fun _ _ => .pure trivial

theorem keepBytes_insists (b : List UInt8) : Asks [.bytes b.length] (keepBytes b) :=
  .map (.insist _) fun _ => trivial

/-- The value of native bytes insists on its copies. -/
theorem decode_insists (kind : Kind) (b : List UInt8) (encoding : Encoding) :
    Asks (decodeCopies kind b encoding) (decode kind b encoding) := by
  unfold decode
  split
  · next hempty =>
    -- no copy of empty bytes asks for memory
    obtain ⟨⟨hb, hbytes⟩, htext⟩ : (b = [] ∧ kind ≠ .bytes) ∧ kind ≠ .text := by simpa using hempty
    subst hb
    refine ⟨iff_of_false nofun (not_not.mpr ?_), fun _ _ => trivial⟩
    cases kind with
    | text => exact absurd rfl htext
    | ulong | date => exact affords_cons.mpr ⟨Demand.bytes_zero_met, affords_nil⟩
    | bool | mechanismArray | templateArray | bytes => exact affords_nil
  cases kind with
  | bool => exact .pure trivial
  | ulong =>
    dsimp only [decodeCopies]
    split
    · exact .pure trivial
    · exact keepBytes_insists b
  | date =>
    dsimp only [decodeCopies]
    cases Date.ofBytes b with
    | ok d => exact .pure trivial
    | error e => exact keepBytes_insists b
  | text => exact .map (decodeChars_insists b encoding) fun _ => trivial
  | mechanismArray | templateArray | bytes => exact .map (.lift _) fun _ => trivial

end Value

/-! ### Mechanisms -/

theorem Span.lendCopy_insists (bytes : List UInt8) : Asks [.bytes bytes.length] (lendCopy bytes) :=
  .last (.insist _) fun _ _ => .lift _

/-- The buffers that must be had for a parameter, each once what comes before it has been lent. -/
def Parameters.insisted [Allocator] : Parameters → List Demand
  | skipjackPrivateWrap p => [.bytes p.password.length]
  | skipjackRelayx p =>
    afterwards (Span.lend p.oldWrappedX) fun _ =>
      .bytes p.oldPassword.length :: afterwards (Span.lendCopy p.oldPassword) fun _ =>
        afterwards (Span.lend p.oldPublicData) fun _ =>
          afterwards (Span.lend p.oldRandomA) fun _ => [.bytes p.newPassword.length]
  | pbe p => [.bytes (max initVectorLength p.initVector.length)]
  | keyWrapSetOaep p => [.bytes p.x.length]
  | ssl3KeyMat p => [.bytes (p.ivSizeInBits / 8).toNat]
  | _ => []

theorem RelayParameters.marshal_insists (p : RelayParameters) :
    Asks (Parameters.skipjackRelayx p).insisted p.marshal :=
  .bindLift fun _ _ => .bind (Span.lendCopy_insists _) fun _ _ => .bindLift fun _ _ =>
    .bindLift fun _ _ => .last (Span.lendCopy_insists _) fun _ _ => .last (.lift _) fun _ _ =>
      .last (.lift _) fun _ _ => .pure trivial

theorem PrivateWrapParameters.marshal_insists (p : PrivateWrapParameters) :
    Asks [.bytes p.password.length] p.marshal :=
  .last (Span.lendCopy_insists _) fun _ _ => .last (.lift _) fun _ _ => .last (.lift _) fun _ _ =>
    .last (.lift _) fun _ _ => .last (.lift _) fun _ _ => .last (.lift _) fun _ _ => .pure trivial

theorem PbeParameters.marshal_insists (p : PbeParameters) (encoding : Encoding) :
    Asks [.bytes (max initVectorLength p.initVector.length)] (p.marshal encoding) :=
  .last (.insist _) fun _ _ => .last (.lift _) fun _ _ => .map (.lift _) fun _ => trivial

/-- Both vectors are of one size. -/
theorem KeyMaterialParameters.marshal_insists (p : KeyMaterialParameters) :
    Asks [.bytes (p.ivSizeInBits / 8).toNat] p.marshal := by
  have hzeroed (count : Nat) : Asks [.bytes count] (zeroed count) :=
    .map (.insist _) fun _ => trivial
  refine ((hzeroed _).bind fun _ _ => (hzeroed _).last fun _ _ => .map (.lift _) fun _ =>
    trivial).congr ?_
  cases zeroed (p.ivSizeInBits / 8).toNat <;> simp [afterwards]

theorem Parameters.marshal_insists (p : Parameters) (encoding : Encoding) :
    Asks p.insisted (p.marshal encoding) := by
  cases p with
  | long | objectHandle | rc2 | macGeneral | extract | version | rsaPkcsPss | rc2Cbc
  | rc2MacGeneral | rc5 | rc5MacGeneral => exact .pure trivial
  | skipjackPrivateWrap p => exact .map p.marshal_insists fun _ => trivial
  | skipjackRelayx p => exact .map p.marshal_insists fun _ => trivial
  | pbe p => exact .map (p.marshal_insists encoding) fun _ => trivial
  | keyWrapSetOaep p => exact .map (Span.lendCopy_insists _) fun _ => trivial
  | ssl3KeyMat p => exact .map p.marshal_insists fun _ => trivial
  | aesGcm p => exact .last (.lift _) fun _ _ => .map (.lift _) fun _ => trivial
  | _ => exact .map (.lift _) fun _ => trivial

def Mechanism.insisted [Allocator] (m : Mechanism) : List Demand :=
  match m.parameters with
  | none => []
  | some p => p.insisted

theorem Mechanism.marshal_insists (m : Mechanism) (encoding : Encoding) :
    Asks m.insisted (m.marshal encoding) := by
  obtain ⟨code, parameters⟩ := m
  cases parameters with
  | none => exact .pure trivial
  | some p => exact .map (p.marshal_insists encoding) fun _ => trivial

/-! ### Arguments -/

namespace Argument

/-- The buffers that must be had for a PIN: a copy of one in UTF-8, and the characters of one that
has to be encoded. -/
def pinBuffers (pin : Option String) (encoding : Encoding) : List Demand :=
  match pin, encoding with
  | none, _ => []
  | some pin, .utf8 => [.bytes pin.toByteArray.data.toList.length]
  | some pin, .singleByte => Value.collectBuffers pin.toList .singleByte

theorem ofPin_insists (pin : Option String) (encoding : Encoding) :
    Asks (pinBuffers pin encoding) (ofPin pin encoding) := by
  cases pin with
  | none => exact .pure trivial
  | some pin =>
    cases encoding with
    | utf8 =>
      show Asks _ (insist (.bytes pin.toByteArray.data.toList.length) >>= fun _ => _)
      exact .last (.insist _) fun _ _ => .lift _
    | singleByte => exact .last (Value.encodeText_insists pin .singleByte) fun _ _ => .lift _

theorem ofLabel_insists (label : String) (encoding : Encoding) :
    Asks (Value.collectBuffers label.toList encoding) (ofLabel label encoding) :=
  .map (Value.encodeText_insists label encoding) fun _ => trivial

end Argument

/-! ### Records -/

namespace Field

def insisted [Allocator] (encoding : Encoding) (field : List UInt8) : List Demand :=
  let kept := Padding.strip field
  Value.repairBuffers kept encoding ++ afterwards (Value.decodeChars kept encoding) stringBuffers

theorem text_insists {width : Nat} (field : Field width) (encoding : Encoding) :
    Asks (insisted encoding field.toList) (field.text encoding) :=
  .bind (Value.decodeChars_insists _ _) fun _ _ => .map (.insistAll _) fun _ => trivial

/-- The buffers that must be had for the texts of fields, read one after another. -/
def textsInsisted [Allocator] (encoding : Encoding) (fields : List (List UInt8)) : List Demand :=
  throughout (fun field => Value.decodeChars (Padding.strip field) encoding >>= collect)
    (insisted encoding) fields

end Field

theorem LibraryInfo.ofRecord_insists (r : LibraryRecord) (encoding : Encoding) :
    Asks (Field.textsInsisted encoding r.texts) (ofRecord r encoding) :=
  .bind (Field.text_insists _ _) fun _ _ => .bind (Field.text_insists _ _) fun _ _ => .pure trivial

theorem SlotInfo.ofRecord_insists (r : SlotRecord) (encoding : Encoding) :
    Asks (Field.textsInsisted encoding r.texts) (ofRecord r encoding) :=
  .bind (Field.text_insists _ _) fun _ _ => .bind (Field.text_insists _ _) fun _ _ => .pure trivial

theorem TokenInfo.ofRecord_insists (r : TokenRecord) (encoding : Encoding) :
    Asks (Field.textsInsisted encoding r.texts) (ofRecord r encoding) :=
  .bind (Field.text_insists _ _) fun _ _ => .bind (Field.text_insists _ _) fun _ _ =>
    .bind (Field.text_insists _ _) fun _ _ => .bind (Field.text_insists _ _) fun _ _ =>
      .bind (Field.text_insists _ _) fun _ _ => .pure trivial

namespace Operation

/-- The buffers that must be had to put the arguments of an operation into native memory, each once
the arguments before it are there. -/
def insisted [Allocator] : Operation → List Demand
  | initToken _ pin label encoding =>
    Argument.pinBuffers pin encoding ++ afterwards (Argument.ofPin pin encoding) fun _ =>
      Value.collectBuffers label.toList encoding
  | initPin _ pin encoding | login _ _ pin encoding => Argument.pinBuffers pin encoding
  | setPin _ oldPin newPin encoding =>
    Argument.pinBuffers oldPin encoding ++ afterwards (Argument.ofPin oldPin encoding) fun _ =>
      Argument.pinBuffers newPin encoding
  | start _ _ mechanism _ | startDigest _ mechanism | generateKeyPair _ mechanism _ _ _
  | wrapKey _ mechanism _ _ => mechanism.insisted
  | generateKey _ mechanism template encoding | deriveKey _ mechanism _ template encoding =>
    afterwards (Argument.ofTemplate template encoding) fun _ => mechanism.insisted
  | unwrapKey _ mechanism _ wrapped template encoding =>
    afterwards (Argument.ofInput wrapped) fun _ =>
      afterwards (Argument.ofTemplate template encoding) fun _ => mechanism.insisted
  | _ => []

/-- The buffers that must be had to read the record that a successful reply fills in. -/
def recordInsisted [Allocator] (reply : Reply) : Operation → List Demand
  | libraryInfo encoding => Field.textsInsisted encoding (InfoRecord.asLibrary reply.info).texts
  | slotInfo _ encoding => Field.textsInsisted encoding (InfoRecord.asSlot reply.info).texts
  | tokenInfo _ encoding => Field.textsInsisted encoding (InfoRecord.asToken reply.info).texts
  | _ => []

end Operation

/-! ### Outputs of mechanisms -/

theorem Memory.Insists.quiet {α : Type} {x : Except Fault α} (h : x ≠ .error .abort) : Asks [] x :=
  ⟨iff_of_false h fun hno => hno affords_nil, fun _ _ => trivial⟩

theorem Pointer.read_insists (p : Pointer (List UInt8)) (length : Nat) :
    Asks [] (p.read length) := by
  unfold read
  split
  · exact .pure trivial
  · split
    · exact .quiet nofun
    · exact .last (.lift _) fun _ _ => .pure trivial

theorem NativeMechanism.output_insists (n : NativeMechanism) : Asks [] n.output := by
  refine .map ?_ fun _ => trivial
  unfold outputData
  split
  · split
    · exact .map (Pointer.read_insists _ _) fun _ => trivial
    · exact .pure trivial
  split
  · split
    · exact .map (Pointer.read_insists _ _) fun _ => trivial
    · exact .pure trivial
  split
  · split <;> exact .pure trivial
  split
  · split
    · split
      · refine .map ?_ fun _ => trivial
        exact .last (Pointer.read_insists _ _) fun _ _ => .map (Pointer.read_insists _ _) fun _ =>
          trivial
      · exact .pure trivial
    · exact .pure trivial
  · exact .pure trivial

/-! ### Operations -/

namespace Operation

/-- What a plan of one call makes of a reply insists on the texts of the record that the operation
reads; an operation of any other plan reads none. -/
def Reads [Allocator] (o : Operation) : Plan → Prop
  | .once _ conclude => ∀ reply, Asks (o.recordInsisted reply) (conclude reply)
  | _ => ∀ reply, o.recordInsisted reply = []

section Plans

variable {o : Operation} {arguments : List Argument}

theorem reads_act (h : ∀ reply, o.recordInsisted reply = []) : o.Reads (.act arguments) := by
  intro reply
  rw [h]
  exact .pure trivial

theorem reads_fetchWord (h : ∀ reply, o.recordInsisted reply = []) :
    o.Reads (.fetchWord arguments) := by
  intro reply
  rw [h]
  exact .pure trivial

theorem reads_fetchInfo {read : Option InfoRecord → Except Fault Response}
    (h : ∀ reply, Asks (o.recordInsisted reply) (read reply.info)) :
    o.Reads (.fetchInfo arguments read) :=
  fun reply => .map (h reply) fun _ => trivial

theorem reads_fetchKey (h : ∀ reply, o.recordInsisted reply = []) {n : NativeMechanism}
    {respond : Reply → Response} : o.Reads (.fetchKey arguments n respond) := by
  intro reply
  rw [h]
  exact .map (n.write reply.parameter).output_insists fun _ => trivial

end Plans

/-- Putting the arguments of an operation into native memory ends the host exactly for want of the
buffers that it insists on. -/
theorem plan_insists (o : Operation) : Insists o.insisted o.Reads o.plan := by
  cases o with
  | libraryInfo encoding =>
    refine .pure (reads_fetchInfo fun reply => ?_)
    exact .map (LibraryInfo.ofRecord_insists _ _) fun _ => trivial
  | slotInfo slot encoding =>
    refine .pure (reads_fetchInfo fun reply => ?_)
    exact .map (SlotInfo.ofRecord_insists _ _) fun _ => trivial
  | tokenInfo slot encoding =>
    refine .pure (reads_fetchInfo fun reply => ?_)
    exact .map (TokenInfo.ofRecord_insists _ _) fun _ => trivial
  | mechanismInfo slot code =>
    refine .pure (reads_fetchInfo fun reply => ?_)
    unfold InfoRecord.readMechanism
    split <;> exact .pure trivial
  | sessionInfo session =>
    refine .pure (reads_fetchInfo fun reply => ?_)
    unfold InfoRecord.readSession
    split <;> exact .pure trivial
  | slotList | mechanismList | extract | readAttributes => exact .pure fun _ => rfl
  | destroyObject | digestKey | command => exact .pure (reads_act fun _ => rfl)
  | objectSize | waitForSlotEvent => exact .pure (reads_fetchWord fun _ => rfl)
  | initToken slot p label encoding =>
    refine .bind (Argument.ofPin_insists p encoding) fun _ _ => ?_
    exact .map (Argument.ofLabel_insists label encoding) fun _ => reads_act fun _ => rfl
  | initPin session p encoding | login session user p encoding =>
    exact .map (Argument.ofPin_insists p encoding) fun _ => reads_act fun _ => rfl
  | setPin session oldPin newPin encoding =>
    refine .bind (Argument.ofPin_insists oldPin encoding) fun _ _ => ?_
    exact .map (Argument.ofPin_insists newPin encoding) fun _ => reads_act fun _ => rfl
  | setOperationState session state | feed what session state =>
    exact .map (.lift _) fun _ => reads_act fun _ => rfl
  | verify session data signature =>
    exact .last (.lift _) fun _ _ => .map (.lift _) fun _ => reads_act fun _ => rfl
  | transform what session bytes | sign session bytes => exact .map (.lift _) fun _ _ => rfl
  | createObject session t encoding | copyObject session object t encoding =>
    exact .map (.lift _) fun _ => reads_fetchWord fun _ => rfl
  | writeAttributes session object t encoding | findObjectsInit session t encoding =>
    exact .map (.lift _) fun _ => reads_act fun _ => rfl
  | findObjects session limit => exact .map (.lift _) fun _ _ => .pure trivial
  | generateRandom session length => exact .map (.lift _) fun _ _ => .pure trivial
  | start what session m key | startDigest session m =>
    exact .map (m.marshal_insists .utf8) fun _ => reads_act fun _ => rfl
  | wrapKey session m wrappingKey key => exact .map (m.marshal_insists .utf8) fun _ _ => rfl
  | generateKeyPair session m publicTemplate privateTemplate encoding =>
    refine .last (m.marshal_insists encoding) fun _ _ => .last (.lift _) fun _ _ => ?_
    exact .map (.lift _) fun _ _ => .pure trivial
  | generateKey session m t encoding | deriveKey session m baseKey t encoding =>
    refine .bindLift fun _ _ => .map (m.marshal_insists encoding) fun n => ?_
    exact reads_fetchKey fun _ => rfl
  | unwrapKey session m unwrappingKey wrapped t encoding =>
    refine .bindLift fun _ _ => .bindLift fun _ _ => .map (m.marshal_insists encoding) fun n => ?_
    exact reads_fetchKey fun _ => rfl

end Operation

end Cryptoki
