import Cryptoki.Mechanism.Native
import Cryptoki.Proofs.Outcome

/-! The parts of a parameter that are put into native memory one by one: its buffers, the buffers
that must be had for copies and outputs, a password, a value of another shape. Putting a mechanism
into native memory fails only as one of these parts does (`Mechanism.marshal_failsWith_of_parts`).
-/

namespace Cryptoki

open Memory

variable {allocator : Allocator}

/-- Lending the buffers fails, if it does, with what satisfies `P`. -/
def LendsFailWith (P : Error → Prop) (buffers : List (List UInt8)) : Prop :=
  ∀ b ∈ buffers, FailsWith P (Span.lend b)

namespace Parameters

/-- The buffers that are lent with a parameter, in the order in which they are. -/
def buffers : Parameters → List (List UInt8)
  | bytes b | keyDerivationStringData b => [b]
  | rsaPkcsOaep p => [p.sourceData]
  | keaDerive p => [p.randomA, p.randomB, p.publicData]
  | rc5Cbc p => [p.iv]
  | skipjackPrivateWrap p =>
    [p.password, p.publicData, p.randomA, p.primeP, p.baseG, p.subprimeQ]
  | skipjackRelayx p =>
    [p.oldWrappedX, p.oldPassword, p.oldPublicData, p.oldRandomA, p.newPassword, p.newPublicData,
     p.newRandomA]
  | pbe p => [p.salt]
  | pkcs5Pbkd2 p => [p.saltSourceData, p.pseudoRandomData]
  | keyWrapSetOaep p => [p.x]
  | ssl3MasterKeyDerive p => [p.random.client, p.random.server]
  | ssl3KeyMat p => [p.random.client, p.random.server]
  | ecdh1Derive p | x942Dh1Derive p => [p.sharedInfo, p.publicData]
  | ecdh2Derive p | x942Dh2Derive p => [p.sharedInfo, p.publicData, p.publicData2]
  | ecmqvDerive p | x942MqvDerive p => [p.sharedInfo, p.publicData, p.publicData2]
  | desCbcEncryptData p => [p.data]
  | aesCbcEncryptData p => [p.data]
  | aesGcm p => [p.iv, p.additionalData]
  | long _ | objectHandle _ | version _ | rsaPkcsPss _ | rc2 _ | rc2Cbc _ | rc2MacGeneral _ | rc5 _
  | rc5MacGeneral _ | macGeneral _ | extract _ | other _ => []

/-- The password of a parameter, which is encoded before it is lent. -/
def password? : Parameters → Option (List Char)
  | pbe p => some p.password
  | pkcs5Pbkd2 p => some p.password
  | _ => none

/-- The buffers that must be had for a parameter: copies of what the module may write to, and the
vectors of a derivation. -/
def copies : Parameters → List Demand
  | skipjackPrivateWrap p => [.bytes p.password.length]
  | skipjackRelayx p => [.bytes p.oldPassword.length, .bytes p.newPassword.length]
  | pbe p => [.bytes (max initVectorLength p.initVector.length)]
  | keyWrapSetOaep p => [.bytes p.x.length]
  | ssl3KeyMat p => [.bytes (p.ivSizeInBits / 8).toNat]
  | _ => []

/-- The parts of a parameter fail, if they do, with what satisfies `P`. -/
structure PartsFailWith [Allocator] (P : Fault → Prop) (encoding : Encoding) (p : Parameters) :
    Prop where
  buffers : LendsFailWith (fun e => P (.error e)) p.buffers
  password : ∀ text ∈ p.password?, FailsWith (fun e => P (.error e)) (lendPassword text encoding)
  copies : ∀ d ∈ p.copies, FailsWith P (insist d)
  value : ∀ v, p = other v → FailsWith (fun e => P (.error e)) (v.marshalScalar encoding)

end Parameters

/-! ### Buffers lent one after another -/

section Blocks

variable {P : Error → Prop}

namespace LendsFailWith

variable {α : Type} {b : List UInt8} {rest : List (List UInt8)} {f : Span → Except Error α}

theorem bind (h : LendsFailWith P (b :: rest))
    (hf : ∀ span, LendsFailWith P rest → FailsWith P (f span)) :
    FailsWith P (Span.lend b >>= f) :=
  .bind (h b List.mem_cons_self) fun span _ =>
    hf span fun b' hb' => h b' (List.mem_cons_of_mem b hb')

theorem last (h : LendsFailWith P [b]) {f : Span → α} :
    FailsWith P (do return f (← Span.lend b)) :=
  h.bind fun _ _ => trivial

end LendsFailWith

theorem RandomData.marshal_failsWith (r : RandomData) (h : LendsFailWith P [r.client, r.server]) :
    FailsWith P r.marshal :=
  h.bind fun _ h => h.last

theorem AgreementParameters.marshal_failsWith (p : AgreementParameters)
    (h : LendsFailWith P [p.sharedInfo, p.publicData]) : FailsWith P p.marshal :=
  h.bind fun _ h => h.last

theorem HybridParameters.marshal_failsWith (p : HybridParameters)
    (h : LendsFailWith P [p.sharedInfo, p.publicData, p.publicData2]) : FailsWith P p.marshal :=
  h.bind fun _ h => h.bind fun _ h => h.last

theorem MqvParameters.marshal_failsWith (p : MqvParameters)
    (h : LendsFailWith P [p.sharedInfo, p.publicData, p.publicData2]) : FailsWith P p.marshal :=
  h.bind fun _ h => h.bind fun _ h => h.last

theorem CbcDataParameters.marshal_failsWith {n : Nat} (p : CbcDataParameters n)
    (h : LendsFailWith P [p.data]) : FailsWith P p.marshal :=
  h.last

theorem KeaParameters.marshal_failsWith (p : KeaParameters)
    (h : LendsFailWith P [p.randomA, p.randomB, p.publicData]) : FailsWith P p.marshal :=
  h.bind fun _ h => h.bind fun _ h => h.last

theorem Pbkd2Parameters.marshal_failsWith {encoding : Encoding} (p : Pbkd2Parameters)
    (hpassword : FailsWith P (lendPassword p.password encoding))
    (h : LendsFailWith P [p.saltSourceData, p.pseudoRandomData]) :
    FailsWith P (p.marshal encoding) :=
  h.bind fun _ h => h.bind fun _ _ => .map hpassword fun _ => trivial

end Blocks

/-! ### Mechanisms -/

section

variable {P : Fault → Prop} {encoding : Encoding}

namespace LendsFailWith

variable {α : Type} {b : List UInt8} {rest : List (List UInt8)} {f : Span → Except Fault α}

theorem bindLift (h : LendsFailWith (fun e => P (.error e)) (b :: rest))
    (hf : ∀ span, LendsFailWith (fun e => P (.error e)) rest → FailsWith P (f span)) :
    FailsWith P (liftM (Span.lend b) >>= f) :=
  .bind (.lift (h b List.mem_cons_self)) fun span _ =>
    hf span fun b' hb' => h b' (List.mem_cons_of_mem b hb')

theorem lastLift (h : LendsFailWith (fun e => P (.error e)) [b]) {f : Span → α} :
    FailsWith P (do return f (← (liftM (Span.lend b) : Except Fault Span))) :=
  h.bindLift fun _ _ => trivial

theorem bindCopy (h : LendsFailWith (fun e => P (.error e)) (b :: rest))
    (hcopy : FailsWith P (insist (.bytes b.length)))
    (hf : ∀ span, LendsFailWith (fun e => P (.error e)) rest → FailsWith P (f span)) :
    FailsWith P (Span.lendCopy b >>= f) := by
  refine .bind (.bind hcopy fun _ _ => .lift (h b List.mem_cons_self)) fun span _ => ?_
  exact hf span fun b' hb' => h b' (List.mem_cons_of_mem b hb')

end LendsFailWith

theorem PrivateWrapParameters.marshal_failsWith (p : PrivateWrapParameters)
    (hcopy : FailsWith P (insist (.bytes p.password.length)))
    (h : LendsFailWith (fun e => P (.error e))
      [p.password, p.publicData, p.randomA, p.primeP, p.baseG, p.subprimeQ]) :
    FailsWith P p.marshal :=
  h.bindCopy hcopy fun _ h => h.bindLift fun _ h => h.bindLift fun _ h => h.bindLift fun _ h =>
    h.bindLift fun _ h => h.lastLift

theorem RelayParameters.marshal_failsWith (p : RelayParameters)
    (hold : FailsWith P (insist (.bytes p.oldPassword.length)))
    (hnew : FailsWith P (insist (.bytes p.newPassword.length)))
    (h : LendsFailWith (fun e => P (.error e)) [p.oldWrappedX, p.oldPassword, p.oldPublicData,
      p.oldRandomA, p.newPassword, p.newPublicData, p.newRandomA]) : FailsWith P p.marshal :=
  h.bindLift fun _ h => h.bindCopy hold fun _ h => h.bindLift fun _ h => h.bindLift fun _ h =>
    h.bindCopy hnew fun _ h => h.bindLift fun _ h => h.lastLift

theorem PbeParameters.marshal_failsWith (p : PbeParameters)
    (hvector : FailsWith P (insist (.bytes (max initVectorLength p.initVector.length))))
    (hpassword : FailsWith (fun e => P (.error e)) (lendPassword p.password encoding))
    (h : LendsFailWith (fun e => P (.error e)) [p.salt]) : FailsWith P (p.marshal encoding) :=
  .bind hvector fun _ _ => .bind (.lift hpassword) fun _ _ => h.lastLift

theorem KeyMaterialParameters.marshal_failsWith (p : KeyMaterialParameters)
    (hvectors : FailsWith P (insist (.bytes (p.ivSizeInBits / 8).toNat)))
    (h : LendsFailWith (fun e => P (.error e)) [p.random.client, p.random.server]) :
    FailsWith P p.marshal := by
  have hzeroed : FailsWith P (zeroed (p.ivSizeInBits / 8).toNat) := .map hvectors fun _ => trivial
  refine .bind hzeroed fun _ _ => .bind hzeroed fun _ _ => ?_
  exact .map (.lift (p.random.marshal_failsWith h)) fun _ => trivial

theorem Parameters.PartsFailWith.marshal {p : Parameters} (h : p.PartsFailWith P encoding) :
    FailsWith P (p.marshal encoding) := by
  obtain ⟨hbuffers, hpassword, hcopies, hvalue⟩ := h
  have block {α : Type} {x : Except Error α} (h : FailsWith (fun e => P (.error e)) x)
      (f : α → NativeParameter) : FailsWith P (do return f (← (liftM x : Except Fault α))) :=
    .map (.lift h) fun _ => trivial
  have lend {b : List UInt8} (hb : b ∈ p.buffers) (f : Span → NativeParameter) :
      FailsWith P (do return f (← (liftM (Span.lend b) : Except Fault Span))) :=
    block (hbuffers b hb) f
  cases p with
  | long | objectHandle | rc2 | macGeneral | extract | version | rsaPkcsPss | rc2Cbc
  | rc2MacGeneral | rc5 | rc5MacGeneral => exact trivial
  | bytes | rsaPkcsOaep | rc5Cbc | keyDerivationStringData => exact lend List.mem_cons_self _
  | keyWrapSetOaep p => exact hbuffers.bindCopy (hcopies _ List.mem_cons_self) fun _ _ => trivial
  | keaDerive p => exact block (p.marshal_failsWith hbuffers) _
  | skipjackPrivateWrap p =>
    exact .map (p.marshal_failsWith (hcopies _ List.mem_cons_self) hbuffers) fun _ => trivial
  | skipjackRelayx p =>
    obtain ⟨hold, hnew, -⟩ := by simpa only [Parameters.copies, List.forall_mem_cons] using hcopies
    exact .map (p.marshal_failsWith hold hnew hbuffers) fun _ => trivial
  | pbe p =>
    refine .map (p.marshal_failsWith ?_ (hpassword _ rfl) hbuffers) fun _ => trivial
    exact hcopies _ List.mem_cons_self
  | pkcs5Pbkd2 p => exact block (p.marshal_failsWith (hpassword _ rfl) hbuffers) _
  | ssl3MasterKeyDerive p => exact block (p.random.marshal_failsWith hbuffers) _
  | ssl3KeyMat p =>
    exact .map (p.marshal_failsWith (hcopies _ List.mem_cons_self) hbuffers) fun _ => trivial
  | ecdh1Derive p => exact block (p.marshal_failsWith hbuffers) _
  | ecdh2Derive p => exact block (p.marshal_failsWith hbuffers) _
  | ecmqvDerive p => exact block (p.marshal_failsWith hbuffers) _
  | x942Dh1Derive p => exact block (p.marshal_failsWith hbuffers) _
  | x942Dh2Derive p => exact block (p.marshal_failsWith hbuffers) _
  | x942MqvDerive p => exact block (p.marshal_failsWith hbuffers) _
  | desCbcEncryptData p => exact block (p.marshal_failsWith hbuffers) _
  | aesCbcEncryptData p => exact block (p.marshal_failsWith hbuffers) _
  | aesGcm p =>
    refine .bind (.lift (hbuffers _ List.mem_cons_self)) fun _ _ => ?_
    exact lend (List.mem_cons_of_mem _ List.mem_cons_self) _
  | other v => exact block (hvalue v rfl) _

theorem Mechanism.marshal_failsWith_of_parts {m : Mechanism}
    (h : ∀ p ∈ m.parameters, p.PartsFailWith P encoding) : FailsWith P (m.marshal encoding) := by
  obtain ⟨code, parameters⟩ := m
  cases parameters with
  | none => exact trivial
  | some p => exact .map (h p rfl).marshal fun _ => trivial

end

end Cryptoki
