import Cryptoki.Proofs.Host.Connecting
import Cryptoki.Proofs.Info
import Cryptoki.Proofs.Text.Truncation
import Cryptoki.Simulation.Memory

/-! The label of a token, from the text that it is set to to the text that is read back. What fits
into the field is kept; a character that the end of the field cuts off comes back as a replacement
(`Host.label_readBack`). -/

namespace Cryptoki

/-- The one exchange of a plan of one call. -/
theorem Plan.Carried.of_mem_once {allocator : Allocator} {entry : EntryPoint} {template : Template}
    {mechanism : Option Mechanism} {arguments : List Argument}
    {conclude : Reply → Except Fault Conclusion} {made : List (Exchange Call)} {answer : Answer}
    {x : Exchange Call}
    (h : (Plan.once arguments conclude).Carried entry template mechanism made answer)
    (hx : x ∈ made) : x.request = ⟨entry, arguments⟩ ∧
      answer = .ofConclusion template mechanism (conclusion entry.name conclude x.reply) := by
  cases h with
  | once reply =>
    obtain rfl := List.mem_singleton.mp hx
    exact ⟨rfl, rfl⟩

namespace Host

open Memory

section Labels

variable {allocator : Allocator} {κ η ρ μ : Type} {replies : Replies η ρ μ} {handle : Nat}
  {host host' after : Host κ η ρ μ} {slot : Word} {pin : Option String} {label : String}
  {encoding : Encoding} {record : TokenRecord} {secret : Argument} {field : List UInt8}
  {reply : Reply}

/-- An operation that makes a call has a plan. -/
theorem Performed.carried_of_mem {o : Operation} {made : List (Exchange Call)} {answer : Answer}
    {x : Exchange Call} (h : Performed replies handle host (.operate o) made answer after)
    (hx : x ∈ made) : ∃ plan, o.plan = .ok plan ∧
      plan.Carried o.entry o.outputTemplate o.outputMechanism made answer := by
  cases h with
  | unreached | unprepared => cases hx
  | unprovided hrequest | called hrequest => exact hrequest.elim
  | carried _ hprepare _ hcarried =>
    exact ⟨_, (Operation.plan_of_prepare hprepare).2, hcarried⟩

/-- The field that the module is given is the encoded label, cut or padded to the width. -/
theorem field_of_initToken {entry : EntryPoint}
    (h : ⟨⟨entry, [.word slot, secret, .field field]⟩, reply⟩ ∈
      calls replies handle (.operate (.initToken slot pin label encoding)) host) :
    ∃ bytes, Value.encodeText label encoding = .ok bytes ∧
      field = Padding.fill labelWidth bytes := by
  obtain ⟨plan, hplan, hcarried⟩ := (perform_performed replies handle host _).carried_of_mem h
  obtain ⟨given, -, hplan⟩ := bind_eq_ok_iff.mp hplan
  obtain ⟨padded, hpadded, hplan⟩ := bind_eq_ok_iff.mp hplan
  obtain ⟨bytes, hbytes, hpadded⟩ := bind_eq_ok_iff.mp hpadded
  cases hplan
  cases hpadded
  obtain ⟨hrequest, -⟩ := hcarried.of_mem_once h
  cases hrequest
  exact ⟨bytes, hbytes, rfl⟩

/-- The record that the module returns is what the answer is read from. -/
theorem result_of_tokenInfo {x : Exchange Call}
    (h : x ∈ calls replies handle (.operate (.tokenInfo slot encoding)) host)
    (hok : x.reply.status = Status.ok) (hinfo : x.reply.info = some (.token record)) :
    ((perform replies handle (.operate (.tokenInfo slot encoding))).run host).1.result =
      (TokenInfo.ofRecord record encoding).map .token := by
  obtain ⟨plan, hplan, hcarried⟩ := (perform_performed replies handle host _).carried_of_mem h
  cases hplan
  obtain ⟨-, hanswer⟩ := hcarried.of_mem_once h
  rw [hanswer, Plan.conclusion_of_ok hok, hinfo, InfoRecord.readToken, InfoRecord.asToken]
  cases TokenInfo.ofRecord record encoding <;> rfl

/-- An operation of one call that has a plan makes this call. -/
theorem calls_of_prepare [Allocator] (replies : Replies η ρ μ) {handle : Nat} {host : Host κ η ρ μ}
    {o : Operation} {library : Library} {arguments : List Argument}
    {conclude : Reply → Except Fault Conclusion} (hlibrary : host.library handle = .ok library)
    (hprepare : o.prepare library = .ok (.once arguments conclude)) :
    calls replies handle (.operate o) host =
        [⟨⟨o.entry, arguments⟩, (call replies library ⟨o.entry, arguments⟩ host).1⟩] ∧
      ((perform replies handle (.operate o)).run host).2 =
        (call replies library ⟨o.entry, arguments⟩ host).2 := by
  obtain ⟨hcalls, hcarried⟩ :=
    (perform_performed replies handle host (.operate o)).of_prepare hlibrary hprepare
  generalize calls replies handle _ host = made at hcalls hcarried
  generalize (perform replies handle _).run host = ran at hcalls hcarried
  obtain ⟨answer, after⟩ := ran
  cases hcarried with
  | once reply =>
    cases hcalls with
    | cons hcall hrest =>
      cases hrest
      rw [hcall]
      exact ⟨rfl, rfl⟩

/-- What comes back of a label from a module that returns the field it was given. -/
theorem label_of_stored (record : TokenRecord) {entry : EntryPoint} {x : Exchange Call}
    (hset : ⟨⟨entry, [.word slot, secret, .field record.label.toList]⟩, reply⟩ ∈
      calls replies handle (.operate (.initToken slot pin label .utf8)) host)
    (hread : x ∈ calls replies handle (.operate (.tokenInfo slot .utf8)) host')
    (hok : x.reply.status = Status.ok) (hinfo : x.reply.info = some (.token record)) :
    let result := ((perform replies handle (.operate (.tokenInfo slot .utf8))).run host').1.result
    record.label.toList = Padding.fill labelWidth (Utf8.encode label.toList) ∧
      ((∃ i, result = .ok (.token i)) ↔ Affords (Field.textsDemands .utf8 record.texts)) ∧
      ∀ i, result = .ok (.token i) →
        i.label.toList = (Utf8.decodeLossy record.label.toList).rdropWhile Padding.isBlank := by
  intro result
  obtain ⟨bytes, hbytes, hfield⟩ := field_of_initToken hset
  have hresult (i : TokenInfo) :
      result = .ok (.token i) ↔ TokenInfo.ofRecord record .utf8 = .ok i := by
    rw [show result = _ from result_of_tokenInfo hread hok hinfo]
    cases TokenInfo.ofRecord record .utf8 <;> simp [Except.map]
  refine ⟨?_, (exists_congr hresult).trans TokenInfo.exists_ofRecord_iff, fun i hi => ?_⟩
  · rw [hfield, ← (Value.encodeText_eq_ok_iff.mp hbytes).1]
    rfl
  · have htext := TokenInfo.text_label_of_ofRecord ((hresult i).mp hi)
    exact (Field.text_eq_ok_iff.mp htext).1

/-- A label comes back from a module that stores the field it is given and returns it, where there
is memory for the texts of the token: the characters that fit into the field, without blanks at the
end. When the field ends within a character, it is no valid text, and a replacement comes back after
the characters before this one. A label that fits and does not end in a blank comes back whole. -/
theorem label_readBack (replies : Replies η ρ μ) (handle : Nat) (host host' : Host κ η ρ μ)
    (slot : Word) (pin : Option String) (label : String) (record : TokenRecord) {secret : Argument}
    {reply : Reply} {x : Exchange Call}
    (hset : ⟨⟨.initToken, [.word slot, secret, .field record.label.toList]⟩, reply⟩ ∈
      calls replies handle (.operate (.initToken slot pin label .utf8)) host)
    (hread : x ∈ calls replies handle (.operate (.tokenInfo slot .utf8)) host')
    (hok : x.reply.status = Status.ok) (hinfo : x.reply.info = some (.token record)) :
    let result := ((perform replies handle (.operate (.tokenInfo slot .utf8))).run host').1.result
    ((∃ i, result = .ok (.token i)) ↔ Affords (Field.textsDemands .utf8 record.texts)) ∧
    ∃ kept, Utf8.Fitting labelWidth label.toList kept ∧
      (Utf8.WellFormed record.label.toList ↔ Utf8.Whole labelWidth label.toList kept) ∧
      ∀ i, result = .ok (.token i) →
        (Utf8.Whole labelWidth label.toList kept →
          i.label.toList = kept.rdropWhile Padding.isBlank) ∧
        (¬Utf8.Whole labelWidth label.toList kept →
          i.label.toList = kept ++ [Utf8.replacement]) ∧
        ((Utf8.encode label.toList).length ≤ labelWidth →
          (∀ c ∈ label.toList.getLast?, ¬Padding.isBlank c) → i.label = label) := by
  intro result
  obtain ⟨hfield, hread, htext⟩ := label_of_stored record hset hread hok hinfo
  obtain ⟨kept, hfit, hwhole, hcut⟩ := Utf8.decodeLossy_fill labelWidth label.toList
  rw [← hfield] at hwhole hcut
  refine ⟨hread, kept, hfit, ⟨fun hvalid => ?_, fun h => (hwhole h).1⟩, fun i hi => ?_⟩
  · by_contra h
    exact (hcut h).1 hvalid
  have hlabel := htext i hi
  refine ⟨fun h => hlabel.trans (hwhole h).2, fun h => hlabel.trans (hcut h).2,
    fun hshort hends => ?_⟩
  have hkept : kept = label.toList := hfit.eq_of_length_le hshort
  rw [← String.toList_inj, hlabel, (hwhole (.inl hkept)).2, hkept, Padding.rdropWhile_eq_self hends]

end Labels

/-! ### A module that keeps labels -/

open Simulation

/-- A library that initialises tokens and tells of them. -/
def tokenLibrary : Library := ⟨"token", some [.initToken, .getTokenInfo], false⟩

/-- A module that stores the label that a token is given, and returns it in the record. -/
def keepingLabel : Replies Unit Unit (Field labelWidth) := fun _ _ c label =>
  match c.arguments with
  | [_, _, .field bytes] =>
    if h : bytes.length = labelWidth then ({}, ⟨bytes.toArray, h⟩) else ({}, label)
  | _ => ({ info := some (.token { label := label }) }, label)

/-- An application that has connected this module. -/
def tokenHost (stored : Field labelWidth) : Host Unit Unit Unit (Field labelWidth) :=
  ((connect tokenLibrary).run (fresh () none stored)).2

theorem keepingLabel_field (activeHandler : Option (Unit × Unit)) (library : Library)
    (entry : EntryPoint) (slot secret : Argument) (field stored : Field labelWidth) :
    keepingLabel activeHandler library ⟨entry, [slot, secret, .field field.toList]⟩ stored =
      ({}, field) :=
  dif_pos (c := field.toList.length = labelWidth) Vector.length_toList

theorem keepingLabel_initToken (label : String) (stored : Field labelWidth) :
    let request : Request Unit Unit := .operate (.initToken 0 none label .utf8)
    let field : Field labelWidth := .ofText .utf8 label
    calls keepingLabel 0 request (tokenHost stored) =
        [⟨⟨.initToken, [.word 0, .input .null, .field field.toList]⟩, {}⟩] ∧
      ((perform keepingLabel 0 request).run (tokenHost stored)).2 = tokenHost field := by
  intro request field
  have hfield : Padding.fill labelWidth label.toByteArray.data.toList = field.toList := by
    rw [Field.toList_ofText, ← Encoding.encode_toList]
    rfl
  have hprepare : (Operation.initToken 0 none label .utf8).prepare tokenLibrary =
      .ok (.act [.word 0, .input .null, .field field.toList]) := by
    rw [← hfield]
    rfl
  have hcall : call keepingLabel tokenLibrary
      ⟨.initToken, [.word 0, .input .null, .field field.toList]⟩ (tokenHost stored) =
        ({}, tokenHost field) := by
    have hreply :=
      keepingLabel_field none tokenLibrary .initToken (.word 0) (.input .null) field stored
    exact congrArg (fun x : Reply × Field labelWidth => (x.1, tokenHost x.2)) hreply
  have hlibrary : (tokenHost stored).library 0 = .ok tokenLibrary := rfl
  have h := calls_of_prepare keepingLabel hlibrary hprepare
  dsimp only [Operation.entry] at h
  rw [hcall] at h
  exact h

theorem keepingLabel_tokenInfo (stored : Field labelWidth) :
    let request : Request Unit Unit := .operate (.tokenInfo 0 .utf8)
    calls keepingLabel 0 request (tokenHost stored) =
      [⟨⟨.getTokenInfo, [.word 0]⟩, { info := some (.token { label := stored }) }⟩] := by
  have hlibrary : (tokenHost stored).library 0 = .ok tokenLibrary := rfl
  have hprepare : (Operation.tokenInfo 0 .utf8).prepare tokenLibrary =
      .ok (.fetchInfo [.word 0] (InfoRecord.readToken .utf8)) := rfl
  exact (calls_of_prepare keepingLabel hlibrary hprepare).1

/-- A label with a character of two bytes, and padding after it. -/
theorem label_readBack_padded : ∃ i,
    ((perform keepingLabel 0 (.operate (.tokenInfo 0 .utf8))).run
      (tokenHost (.ofText .utf8 "Clés"))).1.result = .ok (.token i) ∧ i.label = "Clés" := by
  obtain ⟨hset, -⟩ := keepingLabel_initToken "Clés" .zero
  have hread := keepingLabel_tokenInfo (.ofText .utf8 "Clés")
  obtain ⟨hroom, kept, -, -, hlabel⟩ :=
    label_readBack keepingLabel 0 _ _ 0 none "Clés" { label := .ofText .utf8 "Clés" }
      (List.mem_of_mem_head? (congrArg List.head? hset))
      (List.mem_of_mem_head? (congrArg List.head? hread)) rfl rfl
  obtain ⟨i, hresult⟩ := hroom.mpr (by decide +kernel)
  exact ⟨i, hresult, (hlabel i hresult).2.2 (by decide) (by simp [Padding.isBlank])⟩

/-- A label of which one byte too many is given: the second byte of its last character. -/
theorem label_cut_within_character :
    let label := String.ofList (List.replicate 31 'a' ++ ['é'])
    let field : Field labelWidth := .ofText .utf8 label
    let host := ((perform keepingLabel 0 (.operate (.initToken 0 none label .utf8))).run
      (tokenHost .zero)).2
    ⟨⟨.initToken, [.word 0, .input .null, .field field.toList]⟩, {}⟩ ∈
        calls keepingLabel 0 (.operate (.initToken 0 none label .utf8)) (tokenHost .zero) ∧
      ⟨⟨.getTokenInfo, [.word 0]⟩, { info := some (.token { label := field }) }⟩ ∈
        calls keepingLabel 0 (.operate (.tokenInfo 0 .utf8)) host ∧
      ¬Utf8.WellFormed field.toList ∧
      ∃ i, ((perform keepingLabel 0 (.operate (.tokenInfo 0 .utf8))).run host).1.result =
          .ok (.token i) ∧
        ¬i.label.toList <+: label.toList := by
  intro label field host
  obtain ⟨hset, hhost⟩ := keepingLabel_initToken label .zero
  have hread := keepingLabel_tokenInfo field
  rw [← hhost] at hread
  have hset := List.mem_of_mem_head? (congrArg List.head? hset)
  have hread := List.mem_of_mem_head? (congrArg List.head? hread)
  obtain ⟨hfield, hroom, htext⟩ := label_of_stored { label := field } hset hread rfl rfl
  obtain ⟨i, hresult⟩ := hroom.mpr (by decide +kernel)
  have hfield : field.toList = Padding.fill labelWidth (Utf8.encode label.toList) := hfield
  have hbytes : field.toList = Utf8.encode (List.replicate 31 'a') ++
      (String.utf8EncodeChar 'é').take 1 := by
    rw [hfield, String.toList_ofList]
    decide
  have hdecoded : Utf8.decodeLossy field.toList = List.replicate 31 'a' ++ [Utf8.replacement] := by
    rw [hbytes, Utf8.decodeLossy_encode_append,
      Utf8.decodeLossy_take_encodeChar (by decide) (by decide)]
  have hreplaced : i.label.toList = List.replicate 31 'a' ++ [Utf8.replacement] :=
    (htext i hresult).trans (congrArg (List.rdropWhile Padding.isBlank) hdecoded)
  refine ⟨hset, hread, ?_, i, hresult, ?_⟩
  · rw [hbytes]
    exact Utf8.not_wellFormed_of_cut (by decide) (by decide)
  · rw [hreplaced, String.toList_ofList]
    decide

end Host

end Cryptoki
