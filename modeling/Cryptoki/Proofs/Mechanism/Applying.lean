import Cryptoki.Mechanism.Output
import Cryptoki.Proofs.CodeNames

/-! Outputs that are applied to mechanisms. An output belongs to a mechanism with its code, if
mechanisms of that name return such outputs and the parameter has the fields for them. It then takes
the place of these fields and of nothing else. A mechanism that it does not belong to stays as it is
(`Output.apply_effect`). -/

namespace Cryptoki

namespace MechanismCode

theorem name?_eq_some_iff {code : Word} {name : String} :
    name? code = some name ↔ (code, name) ∈ names :=
  CodeNames.lookup_eq_some_iff CodeNames.distinct_mechanism.codes

/-- A code has one of the names. -/
def Named (family : List String) (code : Word) : Prop := ∃ name ∈ family, name? code = some name

end MechanismCode

namespace OutputData

/-- The names of the mechanisms that return an output of this shape. -/
def family : OutputData → List String
  | initVector _ =>
    ["CKM_PBE_MD2_DES_CBC", "CKM_PBE_MD5_DES_CBC", "CKM_PBE_MD5_CAST_CBC", "CKM_PBE_MD5_CAST3_CBC",
     "CKM_PBE_MD5_CAST128_CBC", "CKM_PBE_SHA1_CAST128_CBC"]
  | keyWrapSetOaep _ _ => ["CKM_KEY_WRAP_SET_OAEP"]
  | version _ => ["CKM_SSL3_MASTER_KEY_DERIVE", "CKM_TLS_MASTER_KEY_DERIVE"]
  | keyMaterial _ => ["CKM_SSL3_KEY_AND_MAC_DERIVE", "CKM_TLS_KEY_AND_MAC_DERIVE"]

/-- A parameter has the fields of an output. -/
inductive Suits : OutputData → Parameters → Prop
  | initVector (iv : List UInt8) (p : PbeParameters) : Suits (.initVector iv) (.pbe p)
  | keyWrapSetOaep (blockContents : UInt8) (x : List UInt8) (p : SetOaepParameters) :
      Suits (.keyWrapSetOaep blockContents x) (.keyWrapSetOaep p)
  | version (v : Version) (p : MasterKeyParameters) : Suits (.version v) (.ssl3MasterKeyDerive p)
  | keyMaterial (material : KeyMaterial) (p : KeyMaterialParameters) :
      Suits (.keyMaterial material) (.ssl3KeyMat p)

/-- The test that a code has to pass for an output of this shape. -/
def ReturnedBy : OutputData → Word → Prop
  | initVector _, code => MechanismCode.generatesInitVector code
  | keyWrapSetOaep _ _, code => code = MechanismCode.keyWrapSetOaep
  | version _, code => MechanismCode.derivesMasterKey code
  | keyMaterial _, code => MechanismCode.derivesKeyMaterial code

theorem named_family_iff {data : OutputData} {code : Word} :
    MechanismCode.Named data.family code ↔ data.ReturnedBy code := by
  unfold MechanismCode.Named
  simp only [MechanismCode.name?_eq_some_iff]
  cases data <;>
    simp [family, ReturnedBy, MechanismCode.names, MechanismCode.generatesInitVector,
      MechanismCode.keyWrapSetOaep, MechanismCode.derivesMasterKey,
      MechanismCode.derivesKeyMaterial, or_assoc]

end OutputData

/-! ### Output fields and the rest of a mechanism -/

namespace Parameters

/-- The output fields of a parameter, if they are there and set. -/
def outputs : Parameters → Option OutputData
  | pbe p => some (.initVector p.initVector)
  | keyWrapSetOaep p => some (.keyWrapSetOaep p.blockContents p.x)
  | ssl3MasterKeyDerive p => p.version.map .version
  | ssl3KeyMat p => some (.keyMaterial p.returned)
  | _ => none

/-- A parameter with its output fields cleared. -/
def inputs : Parameters → Parameters
  | pbe p => pbe { p with initVector := [] }
  | keyWrapSetOaep _ => keyWrapSetOaep ⟨0, []⟩
  | ssl3MasterKeyDerive p => ssl3MasterKeyDerive { p with version := none }
  | ssl3KeyMat p => ssl3KeyMat { p with returned := ⟨0, 0, 0, 0, [], []⟩ }
  | p => p

/-- A parameter with its output fields set, as far as there are such fields. -/
def withOutputs : Parameters → Option OutputData → Parameters
  | pbe p, some (.initVector iv) => pbe { p with initVector := iv }
  | keyWrapSetOaep _, some (.keyWrapSetOaep blockContents x) => keyWrapSetOaep ⟨blockContents, x⟩
  | ssl3MasterKeyDerive p, some (.version v) => ssl3MasterKeyDerive { p with version := some v }
  | ssl3KeyMat p, some (.keyMaterial material) => ssl3KeyMat { p with returned := material }
  | p, _ => p

theorem withOutputs_inputs (p : Parameters) : p.inputs.withOutputs p.outputs = p := by
  cases p with
  | ssl3MasterKeyDerive p =>
    obtain ⟨random, version⟩ := p
    cases version <;> rfl
  | _ => rfl

/-- The output fields and the other fields are all there is to a parameter. -/
theorem eq_of_outputs_of_inputs {p q : Parameters} (houtputs : p.outputs = q.outputs)
    (hinputs : p.inputs = q.inputs) : p = q := by
  rw [← p.withOutputs_inputs, ← q.withOutputs_inputs, houtputs, hinputs]

end Parameters

theorem OutputData.suits_of_outputs {data : OutputData} {p : Parameters}
    (h : p.outputs = some data) : data.Suits p := by
  cases p <;> simp only [Parameters.outputs, Option.some.injEq, Option.map_eq_some_iff,
    reduceCtorEq] at h
  case pbe p => exact h ▸ .initVector _ p
  case keyWrapSetOaep p => exact h ▸ .keyWrapSetOaep _ _ p
  case ssl3MasterKeyDerive p =>
    obtain ⟨v, -, rfl⟩ := h
    exact .version v p
  case ssl3KeyMat p => exact h ▸ .keyMaterial _ p

namespace Mechanism

def outputs (m : Mechanism) : Option OutputData := m.parameters.bind Parameters.outputs

/-- A mechanism with the output fields of its parameter cleared. -/
def inputs (m : Mechanism) : Mechanism :=
  { m with parameters := m.parameters.map Parameters.inputs }

@[simp] theorem inputs_code (m : Mechanism) : m.inputs.code = m.code := rfl

theorem eq_of_outputs_of_inputs {m m' : Mechanism} (houtputs : m.outputs = m'.outputs)
    (hinputs : m.inputs = m'.inputs) : m = m' := by
  obtain ⟨code, parameters⟩ := m
  obtain ⟨code', parameters'⟩ := m'
  simp only [inputs, Mechanism.mk.injEq] at hinputs
  obtain ⟨rfl, hparameters⟩ := hinputs
  cases parameters with
  | none =>
    rw [Option.map_none, eq_comm, Option.map_eq_none_iff] at hparameters
    rw [hparameters]
  | some p =>
    rw [Option.map_some, eq_comm, Option.map_eq_some_iff] at hparameters
    obtain ⟨p', rfl, hp⟩ := hparameters
    rw [Parameters.eq_of_outputs_of_inputs houtputs hp.symm]

end Mechanism

/-! ### Applying an output -/

namespace Output

/-- An output is one of a call with this mechanism: the codes are equal, mechanisms of that name
return such outputs, and the parameter has the fields for them. -/
structure Belongs (o : Output) (m : Mechanism) : Prop where
  code : o.code = m.code
  family : MechanismCode.Named o.data.family m.code
  parameters : ∃ p, m.parameters = some p ∧ o.data.Suits p

variable {o : Output} {m m' : Mechanism}

theorem applied?_of_belongs (h : o.Belongs m) :
    ∃ m', o.applied? m = some m' ∧ m'.outputs = some o.data ∧ m'.inputs = m.inputs := by
  obtain ⟨code, data⟩ := o
  obtain ⟨code', parameters⟩ := m
  obtain ⟨hcode, hfamily, p, hp, hsuits⟩ := h
  obtain rfl : code = code' := hcode
  obtain rfl : parameters = some p := hp
  have hreturned := OutputData.named_family_iff.mp hfamily
  unfold applied?
  rw [if_neg (not_not.mpr rfl)]
  cases hsuits <;> exact ⟨_, if_pos hreturned, rfl, rfl⟩

theorem belongs_of_applied? (h : o.applied? m = some m') : o.Belongs m := by
  unfold applied? at h
  split at h
  case isTrue => cases h
  case isFalse hcode =>
    have belongs {data : OutputData} {p : Parameters} (hdata : o.data = data)
        (hp : m.parameters = some p) (hsuits : data.Suits p) (hreturned : data.ReturnedBy m.code) :
        o.Belongs m := by
      subst hdata
      exact ⟨not_not.mp hcode, OutputData.named_family_iff.mpr hreturned, p, hp, hsuits⟩
    split at h
    case h_1 hdata hp =>
      split at h
      case isTrue hreturned => exact belongs hdata hp (.initVector _ _) hreturned
      case isFalse => cases h
    case h_2 hdata hp =>
      split at h
      case isTrue hreturned => exact belongs hdata hp (.keyWrapSetOaep _ _ _) hreturned
      case isFalse => cases h
    case h_3 hdata hp =>
      split at h
      case isTrue hreturned => exact belongs hdata hp (.version _ _) hreturned
      case isFalse => cases h
    case h_4 hdata hp =>
      split at h
      case isTrue hreturned => exact belongs hdata hp (.keyMaterial _ _) hreturned
      case isFalse => cases h
    case h_5 => cases h

theorem isSome_applied?_iff : (o.applied? m).isSome ↔ o.Belongs m := by
  constructor
  · intro h
    obtain ⟨m', hm'⟩ := Option.isSome_iff_exists.mp h
    exact belongs_of_applied? hm'
  · intro h
    obtain ⟨m', hm', -⟩ := applied?_of_belongs h
    rw [hm', Option.isSome_some]

theorem apply_of_belongs (h : o.Belongs m) :
    (o.apply m).outputs = some o.data ∧ (o.apply m).inputs = m.inputs := by
  obtain ⟨m', hm', hm'outputs⟩ := applied?_of_belongs h
  rw [apply, hm']
  exact hm'outputs

theorem apply_of_not_belongs (h : ¬o.Belongs m) : o.apply m = m := by
  have hnone : o.applied? m = none := by
    rwa [← isSome_applied?_iff, Bool.not_eq_true, Option.isSome_eq_false_iff,
      Option.isNone_iff_eq_none] at h
  rw [apply, hnone, Option.getD_none]

theorem belongs_apply_iff : o.Belongs (o.apply m) ↔ o.Belongs m := by
  constructor
  · intro h
    by_contra hm
    exact hm (apply_of_not_belongs hm ▸ h)
  · intro h
    obtain ⟨houtputs, hinputs⟩ := apply_of_belongs h
    have hcode : (o.apply m).code = m.code := by simpa using congrArg Mechanism.code hinputs
    obtain ⟨p, hp, hdata⟩ := Option.bind_eq_some_iff.mp houtputs
    exact ⟨h.code.trans hcode.symm, hcode ▸ h.family, p, hp, OutputData.suits_of_outputs hdata⟩

theorem apply_apply (o : Output) (m : Mechanism) : o.apply (o.apply m) = o.apply m := by
  by_cases h : o.Belongs m
  · obtain ⟨houtputs, -⟩ := apply_of_belongs h
    obtain ⟨hagain, hinputs⟩ := apply_of_belongs (belongs_apply_iff.mpr h)
    exact Mechanism.eq_of_outputs_of_inputs (hagain.trans houtputs.symm) hinputs
  · rw [apply_of_not_belongs h, apply_of_not_belongs h]

/-- An output is applied exactly when it belongs to the mechanism. It then is what the output fields
hold, and all other fields and the code are as they were. Otherwise nothing changes. Applying the
same output again does so with the same success, and changes nothing. -/
theorem apply_effect (o : Output) (m : Mechanism) :
    ((o.applied? m).isSome ↔ o.Belongs m) ∧
    (o.Belongs m → (o.apply m).outputs = some o.data ∧ (o.apply m).inputs = m.inputs) ∧
    (¬o.Belongs m → o.apply m = m) ∧
    ((o.applied? (o.apply m)).isSome ↔ (o.applied? m).isSome) ∧
    o.apply (o.apply m) = o.apply m := by
  have hagain : (o.applied? (o.apply m)).isSome ↔ (o.applied? m).isSome := by
    rw [isSome_applied?_iff, isSome_applied?_iff, belongs_apply_iff]
  exact ⟨isSome_applied?_iff, apply_of_belongs, apply_of_not_belongs, hagain, apply_apply o m⟩

/-- A vector is returned to the first password-based mechanism. -/
theorem apply_effect_initVector :
    let o : Output := ⟨0x3A0, .initVector [1, 2, 3, 4, 5, 6, 7, 8]⟩
    let m : Mechanism := ⟨0x3A0, some (.pbe ⟨[], ['p'], [0], 1⟩)⟩
    o.Belongs m ∧ (o.apply m).outputs = some o.data ∧ (o.apply m).inputs = m.inputs := by
  intro o m
  obtain ⟨happlied, heffect, -⟩ := apply_effect o m
  have hbelongs : o.Belongs m := happlied.mp (by rfl)
  exact ⟨hbelongs, heffect hbelongs⟩

/-- Password-based key generation for a stream cipher returns no vector. -/
example :
    Output.applied? ⟨0x3A6, .initVector [7]⟩ ⟨0x3A6, some (.pbe ⟨[], ['p'], [0], 1⟩)⟩ = none := rfl

end Output

end Cryptoki
