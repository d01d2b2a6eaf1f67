import Cryptoki.Proofs.Attribute.Copies
import Cryptoki.Proofs.Host.Connecting
import Cryptoki.Proofs.Host.Statuses
import Cryptoki.Proofs.Mechanism.Reading
import Cryptoki.Proofs.Negotiation.Shortage

/-! Buffers of a size that the application or the module chooses. Most are asked for in a way that
reports the want of memory, after which the module is not called any more; the others must be had,
and without them the host ends (`Host.perform_sizes`). -/

namespace Cryptoki

open Memory

variable {allocator : Allocator} {α β γ κ η ρ μ : Type}

/-! ### Outputs of mechanisms -/

theorem Pointer.read_outOfMemory {p : Pointer (List UInt8)} {length : Nat} (hp : p ≠ none)
    (hno : p.read length ≠ .error .overrun) (hd : ¬(Demand.bytes length).Met) :
    OutOfMemory (p.read length) := by
  obtain _ | storage := p
  · exact absurd rfl hp
  have hlong : ¬storage.length < length := fun hshort => hno (read_eq_overrun hshort)
  have hcopy : ¬(Demand.bytes (storage.take length).length).Met := by
    rwa [List.length_take, Nat.min_eq_left (Nat.not_lt.mp hlong)]
  obtain ⟨fault, hfault⟩ := exists_reserveStorage_eq_error hcopy
  rw [read, if_neg hlong, copyBytes, hfault]
  exact ⟨fault, rfl⟩

namespace NativeMechanism

/-- Of the outputs that a module has left, one of a length that the native structure says is
copied. -/
inductive Copies : NativeMechanism → Demand → Prop
  | wrapped {b : SetOaepBlock} {cap : Word} : b.x.pointer ≠ none →
      Copies ⟨MechanismCode.keyWrapSetOaep, .block (.keyWrapSetOaep b), cap⟩
        (.bytes (min b.x.length cap).toNat)
  | vectors {code cap : Word} {b : KeyDerivationBlock} {out : KeyMaterialBlock} :
      MechanismCode.derivesKeyMaterial code → b.returned = some out →
      out.clientIv ≠ none ∨ out.serverIv ≠ none →
      Copies ⟨code, .block (.ssl3KeyMat b), cap⟩ (.bytes (b.ivSizeInBits / 8).toNat)

theorem readKeyMaterial_outOfMemory {out : KeyMaterialBlock} {ivLength : Nat}
    (hvector : out.clientIv ≠ none ∨ out.serverIv ≠ none)
    (hno : readKeyMaterial out ivLength ≠ .error .overrun) (hd : ¬(Demand.bytes ivLength).Met) :
    OutOfMemory (readKeyMaterial out ivLength) := by
  unfold readKeyMaterial at hno ⊢
  by_cases hclient : out.clientIv = none
  · have hserver := hvector.resolve_left (not_not.mpr hclient)
    rw [hclient] at hno ⊢
    change Pointer.read out.serverIv ivLength >>= _ ≠ _ at hno
    show OutOfMemory (Pointer.read out.serverIv ivLength >>= _)
    exact .bind (Pointer.read_outOfMemory hserver (ne_error_of_bind hno) hd)
  · exact .bind (Pointer.read_outOfMemory hclient (ne_error_of_bind hno) hd)

theorem Copies.outOfMemory {n : NativeMechanism} {d : Demand} (h : n.Copies d) (hd : ¬d.Met)
    (hno : n.outputData ≠ .error .overrun) : OutOfMemory n.output := by
  refine .bind ?_
  cases h with
  | @wrapped b cap hx =>
    have hdata : outputData ⟨MechanismCode.keyWrapSetOaep, .block (.keyWrapSetOaep b), cap⟩ = (do
        let x ← Pointer.read b.x.pointer (min b.x.length cap).toNat
        return some (.keyWrapSetOaep b.blockContents (x.getD []))) := rfl
    rw [hdata] at hno ⊢
    exact .bind (Pointer.read_outOfMemory hx (ne_error_of_bind hno) hd)
  | @vectors code cap b out hc hout hvector =>
    rw [outputData_keyMaterial hc, hout] at hno ⊢
    exact .bind (readKeyMaterial_outOfMemory hvector (ne_error_of_bind hno) hd)

end NativeMechanism

/-! ### Plans -/

/-- The first of the mapped exchanges are the map of the first exchanges, if the requests are kept
apart. -/
theorem Exchange.split_of_map {f f' : α → γ} (hf : ∀ a b, f a = f' b → a = b)
    {made before : List (Exchange α)} {rest : List (Exchange γ)}
    (h : made.map (Exchange.map f) = before.map (Exchange.map f') ++ rest) :
    ∃ rest', made = before ++ rest' ∧ rest = rest'.map (Exchange.map f) := by
  have apart (x y : Exchange α) (hxy : x.map f = y.map f') : x = y := by
    obtain ⟨hrequest, hreply⟩ := Exchange.mk.inj hxy
    exact congrArg₂ Exchange.mk (hf _ _ hrequest) hreply
  obtain ⟨first, rest', rfl, hfirst, rfl⟩ := List.map_eq_append_iff.mp h
  refine ⟨rest', congrArg (· ++ rest') ?_, rfl⟩
  rw [← List.forall₂_eq_eq_eq, List.forall₂_map_left_iff, List.forall₂_map_right_iff] at hfirst
  exact List.forall₂_eq_eq_eq ▸ hfirst.imp apart

theorem Answer.ofConclusion_eq_error_iff {template : Template} {mechanism : Option Mechanism}
    {conclusion : Except Fault Conclusion} {fault : Fault} :
    (Answer.ofConclusion template mechanism conclusion).result = .error fault ↔
      conclusion = .error fault := by
  cases conclusion <;> simp [ofConclusion]

theorem map_result_eq_error_iff {x : Except Fault α} {f : α → β} {fault : Fault} :
    x.map f = .error fault ↔ x = .error fault := by
  cases x <;> simp [Except.map]

theorem OutOfMemory.map {x : Except Fault α} (h : OutOfMemory x) (f : α → β) :
    OutOfMemory (x.map f) := by
  obtain ⟨fault, rfl⟩ := h
  exact ⟨fault, rfl⟩

namespace Plan

theorem outputCall_injective {entry : EntryPoint} {arguments arguments' : List Argument}
    (x y : Negotiation.OutputRequest)
    (h : outputCall entry arguments x = outputCall entry arguments' y) : x = y := by
  have hlast := (List.append_inj' (Call.mk.inj h).2 rfl).2
  obtain ⟨hpresent, hcapacity⟩ := Argument.output.inj (List.singleton_inj.mp hlast)
  cases x
  cases y
  cases hpresent
  cases hcapacity
  rfl

theorem queryCall_injective {entry : EntryPoint} {session object : Word} (x y : List QueryEntry)
    (h : queryCall entry session object x = queryCall entry session object y) : x = y := by
  cases h
  rfl

theorem respond_ne_abort {result : Except Error α} {response : α → Response} :
    respond response result ≠ .error .abort := by
  cases result <;> exact nofun

theorem outOfMemory_of_cramped {arguments arguments' : List Argument} {entry : EntryPoint}
    {made before : List Negotiation.OutputExchange} {rest : List (Exchange Call)}
    (hmade : made.map (Exchange.map (outputCall entry arguments)) =
      before.map (Exchange.map (outputCall entry arguments')) ++ rest)
    {result : Except Error (List α)}
    (h : ∀ rest', made = before ++ rest' → Negotiation.Cramped rest' result)
    (response : List α → Response) : rest = [] ∧ OutOfMemory (respond response result) := by
  obtain ⟨rest', hsplit, rfl⟩ := Exchange.split_of_map outputCall_injective hmade
  obtain ⟨rfl, fault, rfl⟩ := h rest' hsplit
  exact ⟨rfl, fault, rfl⟩

variable {o : Operation} {plan : Plan} {template : Template} {mechanism : Option Mechanism}
  {made : List (Exchange Call)} {answer : Answer}

theorem Carried.cramped_of_output (h : plan.Carried o.entry template mechanism made answer)
    (hplan : o.Plans plan) {unit : Nat} (hunit : o.outputUnit = some unit)
    {exchanges : List Negotiation.OutputExchange} {arguments : List Argument}
    {rest : List (Exchange Call)} {length : Word}
    (hmade : made = exchanges.map (Exchange.map (outputCall o.entry arguments)) ++ rest)
    (hwants : Negotiation.Wants exchanges length)
    (hd : ¬Demand.Met ⟨length.toNat, unit, unit⟩) : rest = [] ∧ OutOfMemory answer.result := by
  cases h with
  | once => cases hplan.1.symm.trans hunit
  | nothing | attributes =>
    obtain rfl : o = _ := hplan
    cases hunit
  | bytes hn =>
    obtain rfl : 1 = unit := Option.some.inj (hplan.symm.trans hunit)
    exact outOfMemory_of_cramped hmade (fun _ hsplit =>
      hn.cramped_of_wants Negotiation.bytes_sized hsplit hwants hd) _
  | words hn =>
    obtain rfl : wordSize = unit := Option.some.inj (hplan.symm.trans hunit)
    exact outOfMemory_of_cramped hmade (fun _ hsplit =>
      hn.cramped_of_wants Negotiation.words_sized hsplit hwants hd) _
  | guessed hg =>
    obtain rfl : 1 = unit := Option.some.inj (hplan.symm.trans hunit)
    exact outOfMemory_of_cramped hmade (fun _ hsplit =>
      hg.cramped_of_wants hsplit hwants hd) _

section Attributes

variable {session object : Word} {attributes : Template} {encoding : Encoding}
  {exchanges : List Reader.QueryExchange} {rest : List (Exchange Call)}

/-- The queries of a read are the queries of a fetch. -/
theorem Carried.fetched (h : Plan.Carried .getAttributeValue template mechanism
      (.attributes session object attributes encoding) made answer)
    (hmade : made =
      exchanges.map (Exchange.map (queryCall .getAttributeValue session object)) ++ rest)
    (hne : exchanges ≠ [] ∨ attributes ≠ []) :
    ∃ rest' outcome, rest = rest'.map (Exchange.map (queryCall .getAttributeValue session object)) ∧
      Reader.Fetched attributes (exchanges ++ rest') outcome ∧
      answer.result = (Reader.conclude encoding attributes outcome).1.map fun _ => .done := by
  cases h with
  | nothing =>
    obtain ⟨hnil, -⟩ := List.append_eq_nil_iff.mp hmade.symm
    rcases hne with hne | hne
    · exact absurd (List.map_eq_nil_iff.mp hnil) hne
    · exact absurd rfl hne
  | attributes _ hf =>
    obtain ⟨rest', rfl, rfl⟩ := Exchange.split_of_map queryCall_injective hmade
    exact ⟨rest', _, rfl, hf, rfl⟩

theorem Carried.cramped_of_query (h : Plan.Carried .getAttributeValue template mechanism
      (.attributes session object attributes encoding) made answer)
    (hmade : made =
      exchanges.map (Exchange.map (queryCall .getAttributeValue session object)) ++ rest)
    {d : Demand} (hwants : Reader.Wants attributes exchanges d) (hd : ¬d.Met) :
    rest = [] ∧ OutOfMemory answer.result := by
  have hne : exchanges ≠ [] ∨ attributes ≠ [] := by
    cases hwants with
    | entries =>
      refine .inr ?_
      rintro rfl
      exact hd (Demand.met_of_total_eq_zero rfl)
    | values | arrays | nested => exact .inl nofun
  obtain ⟨rest', outcome, rfl, hf, hresult⟩ := h.fetched hmade hne
  obtain ⟨rfl, fault, rfl⟩ := hf.cramped_of_wants rfl hwants hd
  exact ⟨rfl, fault, hresult⟩

theorem Carried.cramped_of_value (h : Plan.Carried .getAttributeValue template mechanism
      (.attributes session object attributes encoding) made answer)
    (hmade : made =
      exchanges.map (Exchange.map (queryCall .getAttributeValue session object)) ++ rest)
    {d : Demand} (hwants : Reader.WantsValue encoding exchanges d) (hd : ¬d.Met) :
    rest = [] ∧ OutOfMemory answer.result := by
  have hne : exchanges ≠ [] := by
    rintro rfl
    obtain ⟨hcompletes, -⟩ := hwants
    cases hcompletes.made_eq
  obtain ⟨rest', outcome, rfl, hf, hresult⟩ := h.fetched hmade (.inl hne)
  obtain ⟨rfl, hshort⟩ := hf.cramped_of_wantsValue hwants hd
  exact ⟨rfl, hresult ▸ hshort.map _⟩

/-- A read ends the host exactly when a buffer that it insists on cannot be had. -/
theorem Carried.abort_of_query (h : Plan.Carried .getAttributeValue template mechanism
      (.attributes session object attributes encoding) made answer)
    (hmade : made = exchanges.map (Exchange.map (queryCall .getAttributeValue session object)))
    {demands : List Demand} (hinsists : Reader.InsistsOn encoding exchanges demands)
    (hneeds : ¬Affords demands) : answer.result = .error .abort := by
  rw [← List.append_nil (exchanges.map _)] at hmade
  obtain ⟨rest', outcome, hrest, hf, hresult⟩ := h.fetched hmade (.inl hinsists.ne_nil)
  rw [List.map_eq_nil_iff.mp hrest.symm, List.append_nil] at hf
  exact hresult ▸ map_result_eq_error_iff.mpr ((hf.abort_iff encoding).mpr ⟨_, hinsists, hneeds⟩)

end Attributes

end Plan

/-! ### Requests -/

namespace Request

/-- After these calls of the request a buffer is asked for whose want is reported: the caller asks
for so much, or the module has told that there is so much. -/
inductive Wants [Allocator] (library : Library) :
    Request κ η → List (Exchange Call) → Demand → Prop
  | found (session limit : Word) :
      Wants library (.operate (.findObjects session limit)) [] (.words limit.toNat)
  | random (session length : Word) :
      Wants library (.operate (.generateRandom session length)) [] (.bytes length.toNat)
  | output {o : Operation} {unit : Nat} {arguments : List Argument}
      {exchanges : List Negotiation.OutputExchange} {length : Word} :
      o.outputUnit = some unit → Negotiation.Wants exchanges length →
      Wants library (.operate o) (exchanges.map (Exchange.map (Plan.outputCall o.entry arguments)))
        ⟨length.toNat, unit, unit⟩
  | query {session object : Word} {template : Template} {encoding : Encoding}
      {exchanges : List Reader.QueryExchange} {d : Demand} :
      library.Provides .getAttributeValue → Reader.Wants template exchanges d →
      Wants library (.operate (.readAttributes session object template encoding))
        (exchanges.map (Exchange.map (Plan.queryCall .getAttributeValue session object))) d
  | value {session object : Word} {template : Template} {encoding : Encoding}
      {exchanges : List Reader.QueryExchange} {d : Demand} :
      Reader.WantsValue encoding exchanges d →
      Wants library (.operate (.readAttributes session object template encoding))
        (exchanges.map (Exchange.map (Plan.queryCall .getAttributeValue session object))) d
  | parameter {o : KeyOperation} {m : Mechanism} {encoding : Encoding} {n : NativeMechanism}
      {arguments : List Argument} {reply : Reply} {d : Demand} : m.marshal encoding = .ok n →
      reply.status = Status.ok → (n.write reply.parameter).Copies d →
      Wants library (.operate (o.on m encoding)) [⟨⟨(o.on m encoding).entry, arguments⟩, reply⟩] d

/-- A request with these calls insists on these buffers: for its arguments, unless the function is
looked up first and missing, for the texts of the record that it reads, or for the attributes that
it reads. -/
inductive InsistsOn [Allocator] (library : Library) :
    Request κ η → List (Exchange Call) → List Demand → Prop
  | arguments {o : Operation} {made : List (Exchange Call)} :
      (o.resolvesFirst = true → library.Provides o.entry) →
      InsistsOn library (.operate o) made o.insisted
  | record {o : Operation} {x : Exchange Call} : x.reply.status = Status.ok →
      InsistsOn library (.operate o) [x] (o.recordInsisted x.reply)
  | attributes {session object : Word} {template : Template} {encoding : Encoding}
      {exchanges : List Reader.QueryExchange} {demands : List Demand} :
      Reader.InsistsOn encoding exchanges demands →
      InsistsOn library (.operate (.readAttributes session object template encoding))
        (exchanges.map (Exchange.map (Plan.queryCall .getAttributeValue session object))) demands

theorem not_insistsOn {request : Request κ η} {library : Library} {made : List (Exchange Call)}
    {demands : List Demand} (h : request.ConcernsSessions) :
    ¬request.InsistsOn library made demands := by
  intro hinsists
  cases hinsists <;> exact h.elim

end Request

namespace Operation

variable {o : Operation} {library : Library}

theorem prepare_of_plan_eq_error {fault : Fault}
    (hfirst : o.resolvesFirst = true → library.Provides o.entry) (h : o.plan = .error fault) :
    o.prepare library = .error fault := by
  by_cases hprovides : library.Provides o.entry
  · rw [prepare_of_provides hprovides, h]
  · rw [prepare_of_missing hprovides, if_neg fun hf => hprovides (hfirst hf), h]
    rfl

theorem prepare_eq_abort_iff : o.prepare library = .error .abort ↔
    (o.resolvesFirst = true → library.Provides o.entry) ∧ ¬Affords o.insisted := by
  rw [← o.plan_insists.abort_iff]
  constructor
  · intro h
    by_cases hprovides : library.Provides o.entry
    · exact ⟨fun _ => hprovides, prepare_of_provides hprovides ▸ h⟩
    · rw [prepare_of_missing hprovides] at h
      split at h
      · cases h
      · next hfirst =>
        refine ⟨fun hf => absurd hf hfirst, ?_⟩
        cases hplan : o.plan with
        | error fault =>
          rw [hplan] at h
          exact h
        | ok plan =>
          rw [hplan] at h
          cases h
  · rintro ⟨hfirst, hplan⟩
    exact prepare_of_plan_eq_error hfirst hplan

/-- What is asked for before the function is looked up is reported also when it is missing. -/
theorem refused_outOfMemory {fault : Fault} (hprepare : o.prepare library = .error fault)
    (hfirst : ¬o.resolvesFirst = true) (hplan : OutOfMemory o.plan) :
    OutOfMemory (o.refused fault).result := by
  obtain ⟨shortage, hshortage⟩ := hplan
  have hfault := hprepare.symm.trans (prepare_of_plan_eq_error (absurd · hfirst) hshortage)
  exact ⟨shortage, congrArg Except.error (Except.error.inj hfault)⟩

theorem refused_abort_iff {fault : Fault} (hprepare : o.prepare library = .error fault) :
    (o.refused fault).result = .error .abort ↔ ∃ demands,
      (Request.operate o : Request κ η).InsistsOn library [] demands ∧ ¬Affords demands := by
  constructor
  · intro habort
    rw [Except.error.inj habort, prepare_eq_abort_iff] at hprepare
    exact ⟨_, .arguments hprepare.1, hprepare.2⟩
  · rintro ⟨demands, hinsists, hneeds⟩
    generalize hrequest : (Request.operate o : Request κ η) = request at hinsists
    generalize hmade : ([] : List (Exchange Call)) = made at hinsists
    cases hinsists with
    | arguments hfirst =>
      obtain rfl := Request.operate.inj hrequest
      have habort := prepare_eq_abort_iff.mpr ⟨hfirst, hneeds⟩
      exact congrArg Except.error (Except.error.inj (hprepare.symm.trans habort))
    | record => cases hmade
    | attributes hreader => exact absurd (List.map_eq_nil_iff.mp hmade.symm) hreader.ne_nil

theorem plan_findObjects {session limit : Word} (h : ¬(Demand.words limit.toNat).Met) :
    OutOfMemory (findObjects session limit).plan := by
  refine outOfMemory_bind (allocateWords_failsWith limit.toNat) ?_
  rintro ⟨buffer, hbuffer⟩
  exact h (allocateWords_eq_ok_iff.mp hbuffer).1

theorem plan_generateRandom {session length : Word} (h : ¬(Demand.bytes length.toNat).Met) :
    OutOfMemory (generateRandom session length).plan := by
  refine outOfMemory_bind (allocateBytes_failsWith length.toNat) ?_
  rintro ⟨buffer, hbuffer⟩
  exact h (allocateBytes_eq_ok_iff.mp hbuffer).1

end Operation

/-- Of the buffers whose want is reported, those that the caller asks for are set aside before any
call. -/
theorem Request.Wants.refused_outOfMemory {o : Operation} {library : Library} {fault : Fault}
    {d : Demand} (h : (Request.operate o : Request κ η).Wants library [] d)
    (hprepare : o.prepare library = .error fault) (hd : ¬d.Met) :
    OutOfMemory (o.refused fault).result := by
  generalize hrequest : (Request.operate o : Request κ η) = request at h
  generalize hmade : ([] : List (Exchange Call)) = made at h
  cases h with
  | found =>
    obtain rfl := Request.operate.inj hrequest
    exact Operation.refused_outOfMemory hprepare nofun (Operation.plan_findObjects hd)
  | random =>
    obtain rfl := Request.operate.inj hrequest
    exact Operation.refused_outOfMemory hprepare nofun (Operation.plan_generateRandom hd)
  | output _ hwants =>
    rw [List.map_eq_nil_iff.mp hmade.symm] at hwants
    obtain ⟨x, hx, -⟩ := hwants
    cases hx
  | query hprovides =>
    obtain rfl := Request.operate.inj hrequest
    cases (Operation.prepare_of_provides hprovides).symm.trans hprepare
  | value hwants =>
    obtain ⟨hcompletes, -⟩ := hwants
    rw [List.map_eq_nil_iff.mp hmade.symm] at hcompletes
    cases hcompletes.made_eq
  | parameter => cases hmade

namespace Plan

variable {o : Operation} {plan : Plan} {template : Template} {mechanism : Option Mechanism}
  {made : List (Exchange Call)} {answer : Answer}

theorem Carried.insistsOn_of_abort (h : plan.Carried o.entry template mechanism made answer)
    (hplan : o.plan = .ok plan) (habort : answer.result = .error .abort) (library : Library) :
    ∃ demands, (Request.operate o : Request κ η).InsistsOn library made demands ∧
      ¬Affords demands := by
  have hreads := o.plan_insists.of_ok plan hplan
  have hplans := o.plan_meets.of_ok hplan
  cases h with
  | @once arguments conclude reply =>
    have hconclusion := Answer.ofConclusion_eq_error_iff.mp habort
    by_cases hok : reply.status = Status.ok
    · rw [conclusion_of_ok hok] at hconclusion
      exact ⟨_, .record hok, (hreads reply).abort_iff.mp hconclusion⟩
    · rw [conclusion_of_ne_ok hok] at hconclusion
      cases hconclusion
  | bytes | words | guessed => exact absurd habort respond_ne_abort
  | nothing => cases habort
  | @attributes session object attributes encoding exchanges outcome _ hf =>
    obtain rfl : o = .readAttributes session object attributes encoding := hplans
    obtain ⟨demands, hinsists, hneeds⟩ :=
      (hf.abort_iff encoding).mp (map_result_eq_error_iff.mp habort)
    exact ⟨demands, .attributes hinsists, hneeds⟩

theorem Carried.abort_of_record {x : Exchange Call}
    (h : plan.Carried o.entry template mechanism [x] answer) (hplan : o.plan = .ok plan)
    (hok : x.reply.status = Status.ok) (hneeds : ¬Affords (o.recordInsisted x.reply)) :
    answer.result = .error .abort := by
  have hreads := o.plan_insists.of_ok plan hplan
  generalize hmade : [x] = made at h
  cases h with
  | once reply =>
    cases hmade
    rw [Answer.ofConclusion_eq_error_iff, conclusion_of_ok hok]
    exact (hreads reply).abort_iff.mpr hneeds
  | bytes | words | guessed | nothing | attributes =>
    rw [hreads x.reply] at hneeds
    exact absurd affords_nil hneeds

theorem Carried.cramped_of_parameter {o : KeyOperation} {m : Mechanism} {encoding : Encoding}
    {n : NativeMechanism} {x : Exchange Call} {rest : List (Exchange Call)} {d : Demand}
    (h : plan.Carried (o.on m encoding).entry template mechanism (x :: rest) answer)
    (hplan : (o.on m encoding).plan = .ok plan) (hn : m.marshal encoding = .ok n)
    (hok : x.reply.status = Status.ok) (hcopies : (n.write x.reply.parameter).Copies d)
    (hd : ¬d.Met) : rest = [] ∧ OutOfMemory answer.result := by
  obtain ⟨n', arguments, respond, hn', -, rfl⟩ := KeyOperation.plan_eq_ok hplan
  obtain rfl := Except.ok.inj (hn.symm.trans hn')
  generalize hmade : x :: rest = made at h
  generalize hkey : Plan.fetchKey arguments n respond = plan at h
  cases h with
  | once reply =>
    cases hkey
    cases hmade
    obtain ⟨data, hdata, -⟩ := m.copiesBack_write hn reply.parameter
    obtain ⟨fault, hfault⟩ := hcopies.outOfMemory hd hdata.ne_overrun
    refine ⟨rfl, fault, ?_⟩
    rw [Answer.ofConclusion_eq_error_iff, conclusion_of_ok hok, hfault]
    rfl
  | bytes | words | guessed | nothing | attributes => cases hkey

theorem Carried.abort_iff (h : plan.Carried o.entry template mechanism made answer)
    {library : Library} (hprepare : o.prepare library = .ok plan) :
    answer.result = .error .abort ↔ ∃ demands,
      (Request.operate o : Request κ η).InsistsOn library made demands ∧ ¬Affords demands := by
  have hplan := (Operation.plan_of_prepare hprepare).2
  constructor
  · intro habort
    exact h.insistsOn_of_abort hplan habort library
  · rintro ⟨demands, hinsists, hneeds⟩
    generalize hrequest : (Request.operate o : Request κ η) = request at hinsists
    cases hinsists with
    | arguments hfirst =>
      obtain rfl := Request.operate.inj hrequest
      cases hprepare.symm.trans (Operation.prepare_eq_abort_iff.mpr ⟨hfirst, hneeds⟩)
    | record hok =>
      obtain rfl := Request.operate.inj hrequest
      exact h.abort_of_record hplan hok hneeds
    | attributes hreader =>
      obtain rfl := Request.operate.inj hrequest
      obtain rfl := Except.ok.inj hplan
      exact h.abort_of_query rfl hreader hneeds

theorem Carried.cramped_of_wants (h : plan.Carried o.entry template mechanism made answer)
    (hplan : o.plan = .ok plan) {library : Library} {before rest : List (Exchange Call)}
    {d : Demand} (hmade : made = before ++ rest)
    (hwants : (Request.operate o : Request κ η).Wants library before d) (hd : ¬d.Met) :
    rest = [] ∧ OutOfMemory answer.result := by
  generalize hrequest : (Request.operate o : Request κ η) = request at hwants
  cases hwants with
  | found =>
    obtain rfl := Request.operate.inj hrequest
    obtain ⟨fault, hfault⟩ := Operation.plan_findObjects hd
    cases hfault.symm.trans hplan
  | random =>
    obtain rfl := Request.operate.inj hrequest
    obtain ⟨fault, hfault⟩ := Operation.plan_generateRandom hd
    cases hfault.symm.trans hplan
  | output hunit hwants =>
    obtain rfl := Request.operate.inj hrequest
    exact h.cramped_of_output (o.plan_meets.of_ok hplan) hunit hmade hwants hd
  | query _ hwants =>
    obtain rfl := Request.operate.inj hrequest
    obtain rfl := Except.ok.inj hplan
    exact h.cramped_of_query hmade hwants hd
  | value hwants =>
    obtain rfl := Request.operate.inj hrequest
    obtain rfl := Except.ok.inj hplan
    exact h.cramped_of_value hmade hwants hd
  | parameter hn hok hcopies =>
    obtain rfl := Request.operate.inj hrequest
    obtain rfl := hmade
    exact h.cramped_of_parameter hplan hn hok hcopies hd

end Plan

namespace Host

variable {replies : Replies η ρ μ} {handle : Nat} {request : Request κ η}
  {host after : Host κ η ρ μ} {library : Library} {made : List (Exchange Call)} {answer : Answer}

theorem Performed.abort_iff (h : Performed replies handle host request made answer after)
    (hlibrary : host.library handle = .ok library) :
    answer.result = .error .abort ↔
      ∃ demands, request.InsistsOn library made demands ∧ ¬Affords demands := by
  cases h with
  | unreached h => cases h.symm.trans hlibrary
  | unprovided hrequest =>
    rw [Request.refused_result]
    exact iff_of_false nofun fun ⟨_, hinsists, _⟩ => Request.not_insistsOn hrequest hinsists
  | called hrequest =>
    refine iff_of_false ?_ fun ⟨_, hinsists, _⟩ => Request.not_insistsOn hrequest hinsists
    unfold Negotiation.check
    split <;> nofun
  | unprepared h hprepare =>
    cases h.symm.trans hlibrary
    exact Operation.refused_abort_iff hprepare
  | carried h hprepare _ hcarried =>
    cases h.symm.trans hlibrary
    exact hcarried.abort_iff hprepare

theorem Performed.cramped_of_wants (h : Performed replies handle host request made answer after)
    (hlibrary : host.library handle = .ok library) {before rest : List (Exchange Call)} {d : Demand}
    (hmade : made = before ++ rest) (hwants : request.Wants library before d) (hd : ¬d.Met) :
    rest = [] ∧ OutOfMemory answer.result := by
  cases h with
  | unreached h => cases h.symm.trans hlibrary
  | unprovided hrequest | called hrequest => cases hwants <;> exact hrequest.elim
  | unprepared h hprepare =>
    obtain ⟨rfl, rfl⟩ := List.append_eq_nil_iff.mp hmade.symm
    cases h.symm.trans hlibrary
    exact ⟨rfl, hwants.refused_outOfMemory hprepare hd⟩
  | carried h hprepare _ hcarried =>
    exact hcarried.cramped_of_wants (Operation.plan_of_prepare hprepare).2 hmade hwants hd

end Host

end Cryptoki

namespace Cryptoki.Host

open Simulation

end Cryptoki.Host
