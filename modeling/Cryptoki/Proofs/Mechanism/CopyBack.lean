import Cryptoki.Proofs.Host.Performed
import Cryptoki.Proofs.Mechanism.Marshaling

/-! Mechanisms after a call that writes to their parameter. `Mechanism.returned` says what the
caller's mechanism is to become, given the native memory after the call. A key operation leaves the
mechanism as it was when it fails, and makes it so when it succeeds (`Host.perform_copiesBack`). -/

namespace Cryptoki

variable {allocator : Allocator}

namespace KeyMaterialBlock

/-- The keys and vectors of a record; a null pointer stands for no bytes. -/
def material (out : KeyMaterialBlock) (ivLength : Nat) : KeyMaterial where
  clientMacSecret := out.clientMacSecret
  serverMacSecret := out.serverMacSecret
  clientKey := out.clientKey
  serverKey := out.serverKey
  clientIv := (out.clientIv.getD []).take ivLength
  serverIv := (out.serverIv.getD []).take ivLength

end KeyMaterialBlock

/-- A parameter after a call with the mechanism of a code, when native memory is `after` the call.
Only four shapes have outputs, each for its own mechanisms, and a null pointer to an output leaves
the field as it was, save for the contents of a wrapped block. -/
def Parameters.returned (code : Word) : (p : Parameters) → (after : NativeParameter) → Parameters
  | .pbe p, .block (.pbe b) =>
    .pbe (if MechanismCode.generatesInitVector code then
      { p with
        initVector := (b.initVector.map (·.take initVectorLength)).getD p.initVector } else p)
  | .keyWrapSetOaep p, .block (.keyWrapSetOaep b) =>
    .keyWrapSetOaep (if code = MechanismCode.keyWrapSetOaep then
      { blockContents := b.blockContents
        x := (b.x.pointer.getD []).take (min b.x.length.toNat p.x.length) } else p)
  | .ssl3MasterKeyDerive p, .block (.ssl3MasterKeyDerive b) =>
    .ssl3MasterKeyDerive (if MechanismCode.derivesMasterKey code then
      { p with version := b.version.or p.version } else p)
  | .ssl3KeyMat p, .block (.ssl3KeyMat b) =>
    .ssl3KeyMat (if MechanismCode.derivesKeyMaterial code then
      { p with returned :=
          (b.returned.map (·.material (p.ivSizeInBits / 8).toNat)).getD p.returned } else p)
  | p, _ => p

/-- A mechanism after a call that has left its native form as `after`. -/
def Mechanism.returned (m : Mechanism) (after : NativeMechanism) : Mechanism :=
  { m with parameters := m.parameters.map fun p => p.returned m.code after.parameter }

/-! ### Reading outputs -/

/-- A computation comes to `a`, or fails with an error that the caller is given. -/
inductive Yields {α : Type} (x : Except Fault α) (a : α) : Prop
  | ok : x = .ok a → Yields x a
  | error (e : Error) : x = .error (.error e) → Yields x a

namespace Yields

variable {α β : Type} {x : Except Fault α} {a : α}

theorem pure : Yields (Pure.pure a) a := .ok rfl

theorem bind {f : α → Except Fault β} {b : β} (h : Yields x a) (hf : Yields (f a) b) :
    Yields (x >>= f) b := by
  cases h with
  | ok h =>
    subst h
    exact hf
  | error e h =>
    subst h
    exact .error e rfl

theorem ne_overrun (h : Yields x a) : x ≠ .error .overrun := by
  cases h with
  | ok h =>
    rw [h]
    exact nofun
  | error e h =>
    rw [h]
    exact nofun

end Yields

/-- A pointer is null or has at least `length` bytes behind it. -/
def Pointer.Room (p : Pointer (List UInt8)) (length : Nat) : Prop :=
  ∀ storage ∈ p, length ≤ storage.length

theorem Pointer.Room.mono {p : Pointer (List UInt8)} {length length' : Nat} (h : p.Room length)
    (hle : length' ≤ length) : p.Room length' :=
  fun storage hs => Nat.le_trans hle (h storage hs)

theorem Pointer.getD_map_take {p : Pointer (List UInt8)} {length : Nat} :
    (p.map (·.take length)).getD [] = (p.getD []).take length := by
  cases p <;> simp

theorem Pointer.read_yields {p : Pointer (List UInt8)} {length : Nat} (h : p.Room length) :
    Yields (p.read length) (p.map (·.take length)) := by
  cases p with
  | none => exact .pure
  | some storage =>
    have hroom : ¬storage.length < length := Nat.not_lt.mpr (h storage rfl)
    unfold read
    simp only [if_neg hroom, Memory.copyBytes]
    cases Memory.reserveStorage (.bytes (storage.take length).length) with
    | ok _ => exact .ok rfl
    | error e => exact .error e rfl

/-- Both vectors of a record for keys and vectors have their length. -/
structure KeyMaterialBlock.Room (out : KeyMaterialBlock) (ivLength : Nat) : Prop where
  client : out.clientIv.Room ivLength
  server : out.serverIv.Room ivLength

theorem Word.toNat_min (a b : Word) : (min a b).toNat = min a.toNat b.toNat := by
  have hmin : min a b = if a ≤ b then a else b := rfl
  rw [hmin]
  split <;> rename_i h <;> rw [UInt64.le_iff_toNat_le] at h <;> omega

namespace NativeMechanism

/-- The parameter has outputs, and the mechanism is one of those that return them. -/
def HasOutputs (n : NativeMechanism) : Prop :=
  match n.parameter with
  | .block (.pbe _) => MechanismCode.generatesInitVector n.code
  | .block (.keyWrapSetOaep _) => n.code = MechanismCode.keyWrapSetOaep
  | .block (.ssl3MasterKeyDerive _) => MechanismCode.derivesMasterKey n.code
  | .block (.ssl3KeyMat _) => MechanismCode.derivesKeyMaterial n.code
  | _ => False

/-- What a native mechanism yields as outputs makes of `m` the mechanism that is to be returned. -/
def CopiesBack [Allocator] (n : NativeMechanism) (m : Mechanism) : Prop :=
  ∃ data, Yields n.outputData data ∧
    data.elim m (fun d => Output.apply ⟨n.code, d⟩ m) = m.returned n

variable {code cap : Word}

theorem outputData_of_not_hasOutputs {n : NativeMechanism} (h : ¬n.HasOutputs) :
    n.outputData = .ok none := by
  obtain ⟨code, parameter, cap⟩ := n
  unfold outputData
  dsimp only
  split
  case isTrue hc =>
    split
    case h_1 => exact absurd hc h
    case h_2 => rfl
  split
  case isTrue hc =>
    split
    case h_1 => exact absurd hc h
    case h_2 => rfl
  split
  case isTrue hc =>
    split
    case h_1 => exact absurd hc h
    case h_2 => rfl
  split
  case isTrue hc =>
    split
    case h_1 => exact absurd hc h
    case h_2 => rfl
  rfl

theorem readKeyMaterial_yields {out : KeyMaterialBlock} {ivLength : Nat} (h : out.Room ivLength) :
    Yields (readKeyMaterial out ivLength) (out.material ivLength) := by
  unfold KeyMaterialBlock.material
  rw [← Pointer.getD_map_take, ← Pointer.getD_map_take]
  exact (Pointer.read_yields h.client).bind ((Pointer.read_yields h.server).bind .pure)

theorem output_yields {n : NativeMechanism} {data : Option OutputData}
    (h : Yields n.outputData data) : Yields n.output (data.map fun d => ⟨n.code, d⟩) :=
  h.bind .pure

theorem copiesBack_pbe {b : PbeBlock} (p : PbeParameters)
    (hc : MechanismCode.generatesInitVector code) (h : b.initVector.Room initVectorLength) :
    CopiesBack ⟨code, .block (.pbe b), cap⟩ ⟨code, some (.pbe p)⟩ := by
  refine ⟨(b.initVector.map (·.take initVectorLength)).map .initVector, ?_, ?_⟩
  · unfold outputData
    rw [if_pos hc]
    exact (Pointer.read_yields h).bind .pure
  · cases hv : b.initVector <;>
      simp [Mechanism.returned, Parameters.returned, Output.apply, Output.applied?, hc, hv]

theorem copiesBack_keyWrapSetOaep {b : SetOaepBlock} (p : SetOaepParameters)
    (hcap : cap.toNat = p.x.length) (h : b.x.pointer.Room p.x.length) :
    CopiesBack ⟨MechanismCode.keyWrapSetOaep, .block (.keyWrapSetOaep b), cap⟩
      ⟨MechanismCode.keyWrapSetOaep, some (.keyWrapSetOaep p)⟩ := by
  have hmin : (min b.x.length cap).toNat = min b.x.length.toNat p.x.length := by
    rw [Word.toNat_min, hcap]
  have hread : Yields (b.x.pointer.read (min b.x.length cap).toNat)
      (b.x.pointer.map (·.take (min b.x.length.toNat p.x.length))) := by
    rw [hmin]
    exact Pointer.read_yields (h.mono (Nat.min_le_right _ _))
  refine ⟨some (.keyWrapSetOaep b.blockContents
    ((b.x.pointer.getD []).take (min b.x.length.toNat p.x.length))), ?_, ?_⟩
  · rw [← Pointer.getD_map_take]
    exact hread.bind .pure
  · simp [Mechanism.returned, Parameters.returned, Output.apply, Output.applied?]

theorem copiesBack_masterKey {b : MasterKeyBlock} (p : MasterKeyParameters)
    (hc : MechanismCode.derivesMasterKey code) :
    CopiesBack ⟨code, .block (.ssl3MasterKeyDerive b), cap⟩
      ⟨code, some (.ssl3MasterKeyDerive p)⟩ := by
  refine ⟨b.version.map .version, ?_, ?_⟩
  · have : code = 0x371 ∨ code = 0x375 := by simpa [MechanismCode.derivesMasterKey] using hc
    rcases this with rfl | rfl <;> exact .pure
  · cases hv : b.version <;>
      simp [Mechanism.returned, Parameters.returned, Output.apply, Output.applied?, hc, hv]

theorem copiesBack_keyMaterial {b : KeyDerivationBlock} (p : KeyMaterialParameters)
    (hc : MechanismCode.derivesKeyMaterial code) (hiv : b.ivSizeInBits = p.ivSizeInBits)
    (h : ∀ out ∈ b.returned, out.Room (p.ivSizeInBits / 8).toNat) :
    CopiesBack ⟨code, .block (.ssl3KeyMat b), cap⟩ ⟨code, some (.ssl3KeyMat p)⟩ := by
  have hcodes : code = 0x372 ∨ code = 0x376 := by
    simpa [MechanismCode.derivesKeyMaterial] using hc
  obtain ⟨macSizeInBits, keySizeInBits, ivSizeInBits, isExport, random, returned⟩ := b
  obtain rfl : ivSizeInBits = p.ivSizeInBits := hiv
  cases returned with
  | none =>
    refine ⟨none, ?_, ?_⟩
    · rcases hcodes with rfl | rfl <;> exact .pure
    · simp [Mechanism.returned, Parameters.returned]
  | some out =>
    refine ⟨some (.keyMaterial (out.material (p.ivSizeInBits / 8).toNat)), ?_, ?_⟩
    · rcases hcodes with rfl | rfl <;> exact (readKeyMaterial_yields (h out rfl)).bind .pure
    · simp [Mechanism.returned, Parameters.returned, Output.apply, Output.applied?, hc]

theorem returned_of_not_hasOutputs {n : NativeMechanism} {m : Mechanism} (hcode : n.code = m.code)
    (h : ¬n.HasOutputs) : m.returned n = m := by
  obtain ⟨code, parameter, cap⟩ := n
  obtain ⟨code', parameters⟩ := m
  obtain rfl : code = code' := hcode
  cases parameters with
  | none => rfl
  | some p =>
    suffices hp : p.returned code parameter = p by
      simp only [Mechanism.returned, Option.map_some, hp]
    unfold Parameters.returned
    split
    case h_1 | h_2 | h_3 | h_4 => exact congrArg _ (if_neg h)
    case h_5 => rfl

theorem CopiesBack.of_not_hasOutputs {n : NativeMechanism} {m : Mechanism}
    (hcode : n.code = m.code) (h : ¬n.HasOutputs) : n.CopiesBack m :=
  ⟨none, .ok (outputData_of_not_hasOutputs h), (returned_of_not_hasOutputs hcode h).symm⟩

end NativeMechanism

/-! ### Writes -/

theorem ParameterWrites.pointer_eq_some {α : Type} (w : ParameterWrites) {name : OutputPointer}
    {p : Pointer α} {a : α} (h : w.pointer name p = some a) : p = some a := by
  unfold pointer at h
  split at h
  · cases h
  · exact h

theorem ParameterWrites.pointer_room (w : ParameterWrites) (name : OutputPointer)
    {p : Pointer (List UInt8)} {length : Nat} (bytes : List UInt8) (h : p.Room length) :
    (w.pointer name (p.map (overwrite · bytes))).Room length := by
  intro storage hs
  obtain ⟨old, hold, rfl⟩ := Option.map_eq_some_iff.mp (w.pointer_eq_some hs)
  rw [length_overwrite]
  exact h old hold

theorem PbeParameters.initVectorLength_le (p : PbeParameters) :
    initVectorLength ≤ p.extendedVector.length := by
  simp only [extendedVector, List.length_append, List.length_replicate]
  omega

theorem Pointer.room_ofStorage (storage : List UInt8) :
    (Pointer.ofStorage storage).Room storage.length := by
  intro s hs
  cases storage with
  | nil => cases hs
  | cons b bytes => exact Nat.le_of_eq (congrArg List.length (Option.some.inj hs))

theorem KeyMaterialBlock.room_blank (ivLength : Nat) : (blank ivLength).Room ivLength := by
  have h := Pointer.room_ofStorage (List.replicate ivLength (0 : UInt8))
  rw [List.length_replicate] at h
  exact ⟨h, h⟩

namespace Mechanism

variable {m : Mechanism} {encoding : Encoding} {n : NativeMechanism}

theorem xCapacity_of_marshal {b : SetOaepBlock} (h : m.marshal encoding = .ok n)
    (hb : n.parameter = .block (.keyWrapSetOaep b)) : n.xCapacity = b.x.length := by
  unfold marshal at h
  split at h
  · cases h
    cases hb
  · obtain ⟨parameter, -, hn⟩ := bind_eq_ok_iff.mp h
    cases hn
    obtain rfl : parameter = _ := hb
    rfl

/-- Whatever a module writes to the parameter of a lent mechanism, the outputs that are then read
make of the managed mechanism the one that is to be returned. -/
theorem copiesBack_write (h : m.marshal encoding = .ok n) (w : ParameterWrites) :
    (n.write w).CopiesBack m := by
  have hxcap {b : SetOaepBlock} := xCapacity_of_marshal h (b := b)
  obtain ⟨hcode, hp, -⟩ := represents_of_marshal h
  obtain ⟨code, parameter, cap⟩ := n
  obtain ⟨code', parameters⟩ := m
  obtain rfl : code = code' := hcode
  -- only four shapes have outputs, and each of them only with the mechanisms that return them
  cases hp
  case block hb =>
    cases hb
    case pbe b p hb =>
      by_cases hc : MechanismCode.generatesInitVector code
      · refine NativeMechanism.copiesBack_pbe p hc (w.pointer_room _ _ ?_)
        rw [hb.initVector]
        exact fun s hs => Option.some.inj hs ▸ p.initVectorLength_le
      · exact .of_not_hasOutputs rfl hc
    case keyWrapSetOaep b p hb =>
      by_cases hc : code = MechanismCode.keyWrapSetOaep
      · subst hc
        refine NativeMechanism.copiesBack_keyWrapSetOaep p ?_ (w.pointer_room _ _ ?_)
        · rw [← hb.x.length]
          exact congrArg UInt64.toNat (hxcap rfl)
        · rw [hb.x.pointer]
          exact Pointer.room_ofStorage p.x
      · exact .of_not_hasOutputs rfl hc
    case ssl3MasterKeyDerive b p hb =>
      by_cases hc : MechanismCode.derivesMasterKey code
      · exact NativeMechanism.copiesBack_masterKey p hc
      · exact .of_not_hasOutputs rfl hc
    case ssl3KeyMat b p hb =>
      by_cases hc : MechanismCode.derivesKeyMaterial code
      · refine NativeMechanism.copiesBack_keyMaterial p hc hb.ivSizeInBits fun out hout => ?_
        rw [hb.returned] at hout
        have hout := Option.some.inj (w.pointer_eq_some hout).symm
        have hblank := KeyMaterialBlock.room_blank (p.ivSizeInBits / 8).toNat
        rw [hout]
        exact ⟨w.pointer_room _ _ hblank.client, w.pointer_room _ _ hblank.server⟩
      · exact .of_not_hasOutputs rfl hc
    all_goals exact .of_not_hasOutputs rfl not_false
  all_goals exact .of_not_hasOutputs rfl not_false

end Mechanism

/-! ### Key operations -/

/-- An operation that gives a key and writes the outputs of its mechanism back. -/
inductive KeyOperation where
  | generate (session : Word) (template : Template)
  | unwrap (session unwrappingKey : Word) (wrapped : List UInt8) (template : Template)
  | derive (session baseKey : Word) (template : Template)
deriving Repr

namespace KeyOperation

/-- The operation with a mechanism. -/
def on (m : Mechanism) (encoding : Encoding) : KeyOperation → Operation
  | generate session template => .generateKey session m template encoding
  | unwrap session unwrappingKey wrapped template =>
    .unwrapKey session m unwrappingKey wrapped template encoding
  | derive session baseKey template => .deriveKey session m baseKey template encoding

variable {o : KeyOperation} {m : Mechanism} {encoding : Encoding}

theorem plan_eq_ok {plan : Plan} (h : (o.on m encoding).plan = .ok plan) :
    ∃ n arguments respond, m.marshal encoding = .ok n ∧ .mechanism n ∈ arguments ∧
      plan = .fetchKey arguments n respond := by
  cases o <;> simp only [on, Operation.plan, bind_eq_ok_iff, pure_eq_ok_iff] at h
  case generate =>
    obtain ⟨template, -, n, hn, rfl⟩ := h
    exact ⟨n, _, _, hn, by simp, rfl⟩
  case unwrap =>
    obtain ⟨wrapped, -, template, -, n, hn, rfl⟩ := h
    exact ⟨n, _, _, hn, by simp, rfl⟩
  case derive =>
    obtain ⟨template, -, n, hn, rfl⟩ := h
    exact ⟨n, _, _, hn, by simp, rfl⟩

end KeyOperation

/-! ### Runs of key operations -/

namespace KeyOperation

variable {σ : Type} {o : KeyOperation} {m : Mechanism} {encoding : Encoding}

/-- How a key operation ends when a module replies to its arguments. It fails, but not by reading
past the end of a buffer, and leaves the mechanism as it was; or the module has been called with the
mechanism among the arguments, has answered with success, and has left what is returned. -/
inductive Ends [Allocator] (o : KeyOperation) (m : Mechanism) (encoding : Encoding)
    (reply : List Argument → Reply) : Answer → Prop
  | failed {fault : Fault} {template : Template} : fault ≠ .overrun →
      Ends o m encoding reply ⟨.error fault, template, some m⟩
  | succeeded {n : NativeMechanism} {arguments : List Argument} {respond : Reply → Response}
      {r : Reply} {template : Template} {m' : Mechanism} : m.marshal encoding = .ok n →
      (o.on m encoding).plan = .ok (.fetchKey arguments n respond) → .mechanism n ∈ arguments →
      reply arguments = r → r.status = Status.ok → m' = m.returned (n.write r.parameter) →
      Ends o m encoding reply ⟨.ok (respond r), template, some m'⟩

theorem run_fetchKey {n : NativeMechanism} {arguments : List Argument} {respond : Reply → Response}
    (h : m.marshal encoding = .ok n)
    (hplan : (o.on m encoding).plan = .ok (.fetchKey arguments n respond))
    (hn : .mechanism n ∈ arguments) (function : String) (call : Plan.Callee σ)
    (template : Template) (s : σ) :
    Ends o m encoding (fun arguments => (call arguments s).1)
      ((Plan.fetchKey arguments n respond).run function call template (some m) s).1 := by
  rw [Plan.fetchKey, Plan.run_once]
  show Ends o m encoding _ (.ofConclusion template (some m)
    (Plan.conclusion function _ (call arguments s).1))
  generalize hreply : (call arguments s).1 = r
  by_cases hs : r.status = Status.ok
  case neg =>
    rw [Plan.conclusion_of_ne_ok hs]
    exact .failed nofun
  case pos =>
    obtain ⟨data, hdata, happly⟩ := m.copiesBack_write h r.parameter
    have hconclusion : Yields (do return ⟨respond r, ← (n.write r.parameter).output⟩)
        (Conclusion.mk (respond r) (data.map fun d => ⟨(n.write r.parameter).code, d⟩)) :=
      (NativeMechanism.output_yields hdata).bind .pure
    rw [Plan.conclusion_of_ok hs]
    cases hconclusion with
    | error e hc =>
      rw [hc]
      exact .failed nofun
    | ok hc =>
      rw [hc]
      cases data <;> exact .succeeded h hplan hn hreply hs happly

theorem run_ends (library : Library) (call : Call → StateM σ Reply) (s : σ) :
    Ends o m encoding (fun arguments => (call ⟨(o.on m encoding).entry, arguments⟩ s).1)
      ((o.on m encoding).run library call s).1 := by
  have houtput : (o.on m encoding).outputMechanism = some m := by cases o <;> rfl
  unfold Operation.run
  cases hprepare : (o.on m encoding).prepare library with
  | error fault =>
    have hfault : fault ≠ .overrun := fun h => Operation.prepare_ne_overrun (h ▸ hprepare)
    simp only [Operation.refused, houtput]
    exact .failed hfault
  | ok plan =>
    obtain ⟨-, hplan⟩ := Operation.plan_of_prepare hprepare
    obtain ⟨n, arguments, respond, hn, hmem, rfl⟩ := plan_eq_ok hplan
    rw [houtput]
    exact run_fetchKey hn hplan hmem _ _ _ s

end KeyOperation

namespace Host

variable {κ η ρ μ : Type}

/-- A key operation that fails leaves the mechanism of the caller as it was. One that succeeds has
called the function with the mechanism among its arguments, and makes of the mechanism what is
returned in the memory that the module has left. Memory past the end of a buffer is never read. -/
theorem perform_copiesBack (replies : Replies η ρ μ) (handle : Nat) (o : KeyOperation)
    (m : Mechanism) (encoding : Encoding) (host : Host κ η ρ μ) :
    let answer := ((perform replies handle (.operate (o.on m encoding))).run host).1
    answer.result ≠ .error .overrun ∧
    (∀ fault, answer.result = .error fault → answer.mechanism = some m) ∧
    ∀ response, answer.result = .ok response →
      ∃ library n arguments respond, host.library handle = .ok library ∧
        m.marshal encoding = .ok n ∧
        (o.on m encoding).plan = .ok (.fetchKey arguments n respond) ∧ .mechanism n ∈ arguments ∧
        let call := ⟨(o.on m encoding).entry, arguments⟩
        let reply := ((replies host.activeHandler library call).run host.modules).1
        reply.status = Status.ok ∧ response = respond reply ∧
          answer.mechanism = some (m.returned (n.write reply.parameter)) := by
  intro answer
  have hanswer : answer = _ := congrArg Prod.fst
    (run_perform_operate replies handle (o.on m encoding) host)
  cases hlibrary : host.library handle with
  | error e =>
    have hrefused : answer = ⟨.error (.error e), [], some m⟩ := by
      rw [hanswer, hlibrary]
      cases o <;> rfl
    rw [hrefused]
    exact ⟨nofun, fun _ _ => rfl, nofun⟩
  | ok library =>
    have hends : o.Ends m encoding
        (fun arguments => (call replies library ⟨(o.on m encoding).entry, arguments⟩ host).1)
        answer := by
      rw [hanswer, hlibrary]
      exact KeyOperation.run_ends library (call replies library) host
    generalize answer = a at hends
    cases hends with
    | failed hfault =>
      exact ⟨fun h => hfault (Except.error.inj h), fun _ _ => rfl, nofun⟩
    | @succeeded n arguments respond _ _ _ hn hplan hmem hr hs hm =>
      subst hr
      refine ⟨nofun, nofun, fun response hresponse => ?_⟩
      exact ⟨library, n, arguments, respond, rfl, hn, hplan, hmem, hs,
        (Except.ok.inj hresponse).symm, congrArg some hm⟩

end Host

end Cryptoki
