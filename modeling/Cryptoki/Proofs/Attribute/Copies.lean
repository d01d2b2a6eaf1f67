import Cryptoki.Proofs.Aborts
import Cryptoki.Proofs.Attribute.Stopping

/-! The memory that it takes to decode what a module answers about attributes. Bytes that are kept
because they do not have the form of their kind, and texts that are repaired, are copied into
buffers that must be had, as is the list of the arrays among the attributes (`Reader.InsistsOn`);
the want of any other copy is reported (`Reader.Answers.Wants`). -/

namespace Cryptoki

open Memory

variable {allocator : Allocator}

theorem Value.decode_outOfMemory {kind : Kind} {b : List UInt8} {encoding : Encoding} {d : Demand}
    (hcopies : Affords (decodeCopies kind b encoding)) (hmem : d ∈ decodeReserves kind b encoding)
    (hd : ¬d.Met) : OutOfMemory (decode kind b encoding) := by
  have hne (hbytes : kind ≠ .bytes) (htext : kind ≠ .text) : b ≠ [] := by
    rintro rfl
    cases kind with
    | text => exact absurd rfl htext
    | bytes => exact absurd rfl hbytes
    | ulong | bool | date => cases hmem
    | mechanismArray | templateArray =>
      obtain rfl := List.mem_singleton.mp hmem
      exact hd (Demand.met_of_total_eq_zero rfl)
  have copied (hcopy : ¬(Demand.bytes b.length).Met) :
      OutOfMemory (do return bytes (← (liftM (copyBytes b) : Except Fault (List UInt8)))) := by
    obtain ⟨fault, hfault⟩ := exists_reserveStorage_eq_error hcopy
    rw [copyBytes, hfault]
    exact ⟨fault, rfl⟩
  cases kind with
  | ulong | bool | date => cases hmem
  | text =>
    obtain rfl := List.mem_singleton.mp hmem
    have hrepair : Affords (repairBuffers b encoding) := hcopies
    rw [decode_text_eq, decodeChars, insistAll_of_affords hrepair]
    exact (outOfMemory_reserve hd).bind
  | mechanismArray =>
    by_cases hwords : wordSize ∣ b.length
    · rw [decodeReserves, if_pos hwords] at hmem
      obtain rfl := List.mem_singleton.mp hmem
      obtain ⟨fault, hfault⟩ := exists_reserveStorage_eq_error hd
      rw [decode_mechanismArray_eq encoding (hne (by simp) (by simp)), decodeWords_of_dvd hwords,
        hfault]
      exact ⟨fault, rfl⟩
    · rw [decodeReserves, if_neg hwords] at hmem
      cases hmem
  | templateArray =>
    obtain rfl := List.mem_singleton.mp hmem
    rw [decode_templateArray_eq encoding (hne (by simp) (by simp))]
    exact copied hd
  | bytes =>
    obtain rfl := List.mem_singleton.mp hmem
    rw [decode_bytes_eq]
    exact copied hd

namespace Reader

/-- The bytes of a nested attribute that its lengths after the second probe and after the fill both
cover. -/
def cellBytes (c : QueryCell × QueryCell) : List UInt8 :=
  c.2.bytes.take (min c.1.length.toNat c.2.length.toNat)

def cellInsisted (encoding : Encoding) (c : QueryCell × QueryCell) : List Demand :=
  if c.2.length = unavailable then []
  else Value.decodeCopies (nestedKind c.2.type) (cellBytes c) encoding

theorem nestedAttribute_insists (encoding : Encoding) (c : QueryCell × QueryCell) :
    Asks (cellInsisted encoding c) (nestedAttribute encoding c) := by
  refine .map ?_ fun _ => trivial
  unfold cellInsisted cellValue
  split
  · exact .pure trivial
  · exact Value.decode_insists _ _ encoding

namespace Answers

/-- The bytes of an attribute that its lengths after the first probe and after the fill both
cover. -/
def bytes (x : Answers) : List UInt8 :=
  x.filled.bytes.take (min x.probed.length.toNat x.filled.length.toNat)

/-- The buffers that must be had for the value of an attribute, or for those of its nested
attributes one after another. -/
def insisted [Allocator] (encoding : Encoding) (x : Answers) : List Demand :=
  if x.hidden then []
  else if Kind.of x.probed.type = .templateArray then
    afterwards (reserveStorage (.attributes x.nestedCount)) fun _ =>
      throughout (nestedAttribute encoding) (cellInsisted encoding) x.nested
  else Value.decodeCopies (Kind.of x.probed.type) x.bytes encoding

theorem value_insists (encoding : Encoding) (x : Answers) :
    Asks (x.insisted encoding) (x.value encoding) := by
  unfold insisted value
  split
  · exact .pure trivial
  split
  · refine .bindLift fun _ _ => .map ?_ fun _ => trivial
    exact .mapM fun c _ => nestedAttribute_insists encoding c
  · exact Value.decode_insists _ _ encoding

end Answers

def cellReserves (encoding : Encoding) (c : QueryCell × QueryCell) : List Demand :=
  if c.2.length = unavailable then []
  else Value.decodeReserves (nestedKind c.2.type) (cellBytes c) encoding

theorem nestedAttribute_outOfMemory {encoding : Encoding} {c : QueryCell × QueryCell} {d : Demand}
    (hcopies : Affords (cellInsisted encoding c)) (hmem : d ∈ cellReserves encoding c)
    (hd : ¬d.Met) : OutOfMemory (nestedAttribute encoding c) := by
  unfold cellReserves at hmem
  unfold cellInsisted at hcopies
  split at hmem
  · cases hmem
  · next hshown =>
    rw [if_neg hshown] at hcopies
    refine .bind ?_
    rw [cellValue, if_neg hshown]
    exact Value.decode_outOfMemory hcopies hmem hd

namespace Answers

/-- For the value of an attribute that is not hidden a buffer is set aside whose want is reported:
for the list of the nested attributes, for the value of one of them when those before it have
theirs, or for the one value. -/
inductive Wants [Allocator] (encoding : Encoding) (x : Answers) : Demand → Prop
  | attributes : x.hidden = false → Kind.of x.probed.type = .templateArray →
      Wants encoding x (.attributes x.nestedCount)
  | nested {before rest : List (QueryCell × QueryCell)} {c : QueryCell × QueryCell}
      {values : Template} {d : Demand} : x.hidden = false →
      Kind.of x.probed.type = .templateArray → x.nested = before ++ c :: rest →
      before.mapM (nestedAttribute encoding) = .ok values → Affords (cellInsisted encoding c) →
      d ∈ cellReserves encoding c → Wants encoding x d
  | value {d : Demand} : x.hidden = false → Kind.of x.probed.type ≠ .templateArray →
      Affords (Value.decodeCopies (Kind.of x.probed.type) x.bytes encoding) →
      d ∈ Value.decodeReserves (Kind.of x.probed.type) x.bytes encoding → Wants encoding x d

theorem outOfMemory_of_wants {encoding : Encoding} {x : Answers} {d : Demand}
    (h : x.Wants encoding d) (hd : ¬d.Met) : OutOfMemory (x.value encoding) := by
  unfold value
  cases h with
  | attributes hshown hk =>
    rw [hshown, if_neg Bool.false_ne_true, if_pos hk]
    exact outOfMemory_reserve hd
  | nested hshown hk hnested hbefore hcopies hmem =>
    rw [hshown, if_neg Bool.false_ne_true, if_pos hk]
    by_cases hroom : (Demand.attributes x.nestedCount).Met
    · rw [reserveStorage_eq_ok_iff.mpr hroom, hnested]
      exact (OutOfMemory.mapM hbefore (nestedAttribute_outOfMemory hcopies hmem hd)).bind
    · exact outOfMemory_reserve hroom
  | value hshown hk hcopies hmem =>
    rw [hshown, if_neg Bool.false_ne_true, if_neg hk]
    exact Value.decode_outOfMemory hcopies hmem hd

end Answers

theorem decodeAll_cons_fst {encoding : Encoding} {e : Slot × QueryEntry} {x : Answers}
    (hx : Decodes encoding e x) (index : Nat) (a : Attribute) (template : Template)
    (rest : List (Slot × QueryEntry)) :
    (decodeAll encoding index (a :: template) (e :: rest)).1 = (do
      let _ ← x.value encoding
      let found ← (decodeAll encoding (index + 1) template rest).1
      return if x.hidden then some (.attributeUnavailable index a.type) else found) := by
  cases hv : x.value encoding with
  | ok v =>
    rw [decodeAll_cons hx hv]
    obtain ⟨result, decoded⟩ := decodeAll encoding (index + 1) template rest
    cases result <;> rfl
  | error fault =>
    rw [Decodes, hv] at hx
    rw [decodeAll, hx]
    rfl

theorem decodeAll_insists {encoding : Encoding} {template : Template}
    {fetched : List (Slot × QueryEntry)} {xs : List Answers}
    (hdecodes : List.Forall₂ (Decodes encoding) fetched xs)
    (hlength : template.length = xs.length) (index : Nat) :
    Asks (throughout (Answers.value encoding) (Answers.insisted encoding) xs)
      (decodeAll encoding index template fetched).1 := by
  induction hdecodes generalizing template index with
  | nil =>
    rw [List.length_eq_zero_iff.mp hlength]
    exact .pure trivial
  | @cons e x _ _ hx _ ih =>
    cases template with
    | nil => cases hlength
    | cons a template =>
      rw [decodeAll_cons_fst hx]
      refine .bind (x.value_insists encoding) fun _ _ => ?_
      exact .map (ih (Nat.succ.inj hlength) (index + 1)) fun _ => trivial

/-- The storage for attributes insists on the list of the arrays among them, once there is memory
for the values. -/
theorem allocateSlots_insists (entries : List QueryEntry) :
    Asks (if Affords (slotDemands entries) then Demand.arrayIndices (arrayCount entries) else [])
      (allocateSlots entries) := by
  split
  · next hslots =>
    obtain ⟨slots, heq⟩ := exists_allocateSlots_eq hslots
    rw [heq]
    exact .last (.insistAll _) fun _ _ => .last (.lift _) fun _ _ => .pure trivial
  · next hslots =>
    obtain ⟨fault, hfault⟩ := allocateSlots_of_slots hslots
    rw [hfault]
    exact .quiet nofun

/-! ### A whole read -/

/-- A read with these exchanges insists on these buffers: for the list of the arrays among the
attributes, when the first probe has told the lengths and there is memory for the values, and for
the values, when all queries have been answered. -/
inductive InsistsOn [Allocator] (encoding : Encoding) : List QueryExchange → List Demand → Prop
  | arrays {probe : QueryExchange} {rest : List QueryExchange} : Tolerated probe →
      Affords (slotDemands (after probe)) →
      InsistsOn encoding (probe :: rest) (Demand.arrayIndices (arrayCount (after probe)))
  | values {made second : List QueryExchange} {probe fill : QueryExchange} :
      Completes made probe second fill →
      InsistsOn encoding made (throughout (Answers.value encoding) (Answers.insisted encoding)
        (answers (after probe) (second.flatMap after) (after fill)))

theorem InsistsOn.ne_nil {encoding : Encoding} {made : List QueryExchange} {demands : List Demand}
    (h : InsistsOn encoding made demands) : made ≠ [] := by
  rintro rfl
  cases h with
  | values hcompletes => cases hcompletes.made_eq

section

variable {template : Template} {made : List QueryExchange}
  {outcome : Except Fault (Word × List (Slot × QueryEntry))}

theorem conclude_eq_abort_iff {encoding : Encoding} {status : Word}
    {fetched : List (Slot × QueryEntry)} :
    (conclude encoding template (.ok (status, fetched))).1 = .error .abort ↔
      (decodeAll encoding 0 template fetched).1 = .error .abort := by
  rw [conclude]
  obtain ⟨result, decoded⟩ := decodeAll encoding 0 template fetched
  obtain fault | _ | e := result
  · simp
  · unfold Negotiation.check
    dsimp only
    split <;> simp [liftM_eq_error_iff]
  · simp

theorem Readied.conclude_abort_iff {probe fill : QueryExchange} {second : List QueryExchange}
    {ready : List Slot} (hready : Readied template probe second ready)
    (hfill : fill.request = lentQuery ((after probe).zip ready)) (encoding : Encoding) :
    (conclude encoding template (.ok (fill.reply.status, ready.zip (after fill)))).1 =
        .error .abort ↔
      ¬Affords (throughout (Answers.value encoding) (Answers.insisted encoding)
        (answers (after probe) (second.flatMap after) (after fill))) :=
  conclude_eq_abort_iff.trans (decodeAll_insists (hready.decodes encoding hfill)
    (hready.answers_length hfill) 0).abort_iff

/-- A read ends the host exactly when it insists on a buffer that cannot be had. -/
theorem Fetched.abort_iff (h : Fetched template made outcome) (encoding : Encoding) :
    (conclude encoding template outcome).1 = .error .abort ↔
      ∃ demands, InsistsOn encoding made demands ∧ ¬Affords demands := by
  constructor
  · intro habort
    cases h with
    | cramped | unprobed | unfilled => cases habort
    | @unallocated probe fault hprobed he =>
      obtain rfl : fault = .abort := Except.error.inj habort
      have hneeds := (allocateSlots_insists (after probe)).abort_iff.mp he
      split at hneeds
      · next hslots => exact ⟨_, .arrays hprobed.tolerated hslots, hneeds⟩
      · exact absurd affords_nil hneeds
    | unprovided _ _ hprovided =>
      obtain rfl := Except.error.inj habort
      generalize hout : Except.error _ = provided at hprovided
      cases hprovided with
      | plain | refused => cases hout
      | answered =>
        obtain ⟨e, -, he⟩ := liftM_eq_error_iff.mp hout.symm
        cases he
    | filled hready hfill ht =>
      exact ⟨_, .values (hready.completes ht),
        (hready.conclude_abort_iff hfill encoding).mp habort⟩
  · rintro ⟨demands, hinsists, hneeds⟩
    cases hinsists with
    | @arrays probe rest ht hslots =>
      have habort := (allocateSlots_insists (after probe)).abort_iff.mpr (by rwa [if_pos hslots])
      obtain ⟨-, rfl⟩ := h.unallocated_of_error ht habort
      rfl
    | values hcompletes =>
      obtain ⟨ready, hready, hfill, rfl⟩ := h.ends.filled_of_completes hcompletes
      exact (hready.conclude_abort_iff hfill encoding).mpr hneeds

/-- After these queries, which have all been answered, a buffer is set aside whose want is reported,
for the value of an attribute when those before it have theirs. -/
inductive WantsValue [Allocator] (encoding : Encoding) : List QueryExchange → Demand → Prop
  | intro {made second : List QueryExchange} {probe fill : QueryExchange} {k : Nat} {x : Answers}
      {values : List Value} {d : Demand} : Completes made probe second fill →
      (answers (after probe) (second.flatMap after) (after fill))[k]? = some x →
      ((answers (after probe) (second.flatMap after) (after fill)).take k).mapM
        (Answers.value encoding) = .ok values →
      x.Wants encoding d → WantsValue encoding made d

theorem Fetched.length_le {probe : QueryExchange} {rest : List QueryExchange}
    (h : Fetched template (probe :: rest) outcome) :
    rest.length ≤ (if ∃ p ∈ after probe, p.HasCells then 1 else 0) + 1 := by
  cases h with
  | unprobed | unallocated => exact Nat.zero_le _
  | unprovided _ _ hprovided =>
    generalize hout : Except.error _ = provided at hprovided
    cases hprovided with
    | plain => exact Nat.zero_le _
    | refused | answered => exact Nat.le_add_left 1 _
  | unfilled hready | filled hready =>
    rw [List.length_append, hready.second_length]
    exact Nat.le_refl _

theorem Fetched.cramped_of_wantsValue {rest : List QueryExchange}
    (h : Fetched template (made ++ rest) outcome) {encoding : Encoding} {d : Demand}
    (hwants : WantsValue encoding made d) (hd : ¬d.Met) :
    rest = [] ∧ OutOfMemory (conclude encoding template outcome).1 := by
  obtain ⟨hcompletes, hk, hvalues, hvalue⟩ := hwants
  have hrest : rest = [] := by
    rw [hcompletes.made_eq, List.cons_append] at h
    have hlength := h.length_le
    rw [List.length_append, List.length_append, hcompletes.second_length,
      List.length_singleton] at hlength
    exact List.length_eq_zero_iff.mp (by omega)
  subst hrest
  rw [List.append_nil] at h
  obtain ⟨fault, hx⟩ := Answers.outOfMemory_of_wants hvalue hd
  obtain ⟨-, hstops⟩ := h.ends.updates hcompletes encoding
  exact ⟨rfl, fault, congrArg Prod.fst (hstops _ _ _ _ hk hvalues hx)⟩

end

end Reader

end Cryptoki
