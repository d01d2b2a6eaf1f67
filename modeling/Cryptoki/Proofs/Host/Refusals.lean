import Cryptoki.Proofs.Host.Connecting
import Cryptoki.Proofs.Host.Statuses
import Cryptoki.Simulation.Memory

/-! Requests that fail before their first call: on a handle that is not connected, for a function
that the library does not provide, and with arguments that have no native form. They have no effect
(`Host.perform_refused`), and which of the failures is reported depends on the operation
(`Host.perform_missing_iff`). -/

namespace Cryptoki

variable {κ η ρ μ : Type}

/-- The errors that a request meets only before its first call. -/
def Error.IsRefusal : Error → Prop
  | disconnected | functionNotSupported _ | unrecognizedValue _ => True
  | _ => False

theorem Fault.OfOutputs.not_isRefusal {e : Error} (h : Fault.OfOutputs (.error e)) :
    ¬e.IsRefusal := by
  rcases h with h | ⟨_, _, rfl⟩
  · cases e <;> simp_all [Error.OfMemory, Error.IsRefusal]
  · exact id

/-- Once a plan is carried out, what can fail is a call or the reading of its outputs. -/
theorem Plan.Carried.not_isRefusal {allocator : Allocator} {o : Operation} {plan : Plan}
    {template : Template} {mechanism : Option Mechanism} {made : List (Exchange Call)}
    {answer : Answer} {e : Error}
    (h : plan.Carried o.entry template mechanism made answer) (hplan : o.Plans plan)
    (hresult : answer.result = .error (.error e)) : ¬e.IsRefusal := by
  rcases h.heeds hplan with hheeds | ⟨-, hok, -⟩
  · generalize answer.result = result at hheeds hresult
    cases hheeds with
    | succeeded => cases hresult
    | refused =>
      cases hresult
      exact id
    | failed _ hfault =>
      cases hresult
      exact hfault.not_isRefusal
  · cases hok.symm.trans hresult

namespace Request

/-- The template that the caller lends to be filled in. -/
def template : Request κ η → Template
  | operate o => o.outputTemplate
  | _ => []

/-- The mechanism that the caller lends for outputs. -/
def mechanism : Request κ η → Option Mechanism
  | operate o => o.outputMechanism
  | _ => none

/-- Nothing fails before the function of the request is looked up. -/
def LooksUp [Allocator] : Request κ η → Prop
  | operate o => o.resolvesFirst = true ∨ ∃ plan, o.plan = .ok plan
  | _ => True

end Request

namespace Host

/-- A request has made no call, and has left the application and what the caller has lent as they
were. -/
structure Ineffective (request : Request κ η) (host : Host κ η ρ μ) (made : List (Exchange Call))
    (answer : Answer) (after : Host κ η ρ μ) : Prop where
  calls : made = []
  application : after = host
  template : answer.template = request.template
  mechanism : answer.mechanism = request.mechanism

section Refused

variable {allocator : Allocator} {replies : Replies η ρ μ} {handle : Nat} {request : Request κ η}
  {host after : Host κ η ρ μ} {made : List (Exchange Call)} {answer : Answer}

theorem ineffective_refused (request : Request κ η) (host : Host κ η ρ μ) (e : Error) :
    Ineffective request host [] (request.refused e) host := by
  cases request <;> exact ⟨rfl, rfl, rfl, rfl⟩

theorem Performed.ineffective (h : Performed replies handle host request made answer after)
    {e : Error} (hresult : answer.result = .error (.error e)) (he : e.IsRefusal) :
    Ineffective request host made answer after := by
  cases h with
  | unreached | unprovided => exact ineffective_refused request host _
  | unprepared => exact ⟨rfl, rfl, rfl, rfl⟩
  | @called _ _ reply =>
    unfold Negotiation.check at hresult
    split at hresult <;> cases hresult
    exact he.elim
  | @carried o library plan _ _ _ _ hprepare _ hcarried =>
    have hplan := o.plan_meets.of_ok (Operation.plan_of_prepare hprepare).2
    exact absurd he (hcarried.not_isRefusal hplan hresult)

theorem Performed.disconnected_iff
    (h : Performed replies handle host request made answer after) :
    answer.result = .error (.error .disconnected) ↔ host.library handle = .error .disconnected := by
  constructor
  · intro hresult
    cases h with
    | unreached hlibrary => rw [hlibrary, library_eq_error hlibrary]
    | unprovided =>
      rw [Request.refused_result] at hresult
      cases hresult
    | called =>
      unfold Negotiation.check at hresult
      split at hresult <;> cases hresult
    | @unprepared o library fault _ hprepare =>
      obtain rfl : fault = .error .disconnected := Except.error.inj hresult
      rcases (o.prepare_failsWith library).of_error hprepare with h | h | ⟨_, h⟩
      · cases h
      · exact h.elim
      · cases h
    | @carried o library plan _ _ _ _ hprepare _ hcarried =>
      have hplan := o.plan_meets.of_ok (Operation.plan_of_prepare hprepare).2
      exact absurd trivial (hcarried.not_isRefusal hplan hresult)
  · intro hlibrary
    cases h with
    | unreached h => rw [Request.refused_result, library_eq_error h]
    | unprovided _ h | called _ h | unprepared h | carried h => cases hlibrary.symm.trans h

/-- Failures that are detected before the call have no effect. A request fails for want of a
connection exactly on a handle that has not been given out or has been dropped since, in every run
and whatever is asked for. Whatever the state of the application, a request that fails so, or for
want of the function, or because a value has no native form, has made no call and changed
nothing. -/
theorem perform_refused (replies : Replies η ρ μ) (handle : Nat) (request : Request κ η) :
    (∀ runtime activeHandler modules acts,
      let host := run replies (fresh runtime activeHandler modules) acts
      ((perform replies handle request).run host).1.result = .error (.error .disconnected) ↔
        Act.Absent handle acts) ∧
    ∀ host e, let answered := (perform replies handle request).run host
      answered.1.result = .error (.error e) → e.IsRefusal →
        Ineffective request host (calls replies handle request host) answered.1 answered.2 := by
  constructor
  · intro runtime activeHandler modules acts host
    rw [(perform_performed replies handle host request).disconnected_iff]
    exact library_run_iff replies runtime activeHandler modules acts handle
  · intro host e answered hresult he
    exact (perform_performed replies handle host request).ineffective hresult he

end Refused

/-- A library without a table. -/
def emptyLibrary : Library := ⟨"empty", none, false⟩

open Simulation in
theorem closeSession_disconnected :
    let acts : List (Act Unit Unit) := [.connect emptyLibrary] ++ .disconnect 0 :: []
    let host := run succeeding (fresh () none ()) acts
    let answered := (perform succeeding 0 (.closeSession 1)).run host
    answered.1.result = .error (.error .disconnected) ∧
      Ineffective (.closeSession 1) host (calls succeeding 0 (.closeSession 1) host) answered.1
        answered.2 := by
  intro acts host answered
  obtain ⟨hdisconnected, hineffective⟩ :=
    perform_refused succeeding 0 (.closeSession 1 : Request Unit Unit)
  have habsent : Act.Absent 0 acts := .dropped (by decide) .one
  have hresult : answered.1.result = .error (.error .disconnected) :=
    (hdisconnected () none () acts).mpr habsent
  exact ⟨hresult, hineffective host .disconnected hresult trivial⟩

/-! ### Missing functions -/

section Missing

variable {allocator : Allocator} {replies : Replies η ρ μ} {handle : Nat} {request : Request κ η}
  {host after : Host κ η ρ μ} {made : List (Exchange Call)} {answer : Answer}

/-- What a request to a library without its function fails with. -/
def missingFault [Allocator] (request : Request κ η) : Fault :=
  match request with
  | .operate o =>
    if o.resolvesFirst then .error (.functionNotSupported o.entry.name)
    else match o.plan with
      | .ok _ => .error (.functionNotSupported o.entry.name)
      | .error fault => fault
  | request => .error (.functionNotSupported request.entry.name)

theorem Performed.missing {library : Library}
    (h : Performed replies handle host request made answer after)
    (hlibrary : host.library handle = .ok library) (hmissing : ¬library.Provides request.entry) :
    answer.result = .error (missingFault request) := by
  cases h with
  | unreached h => cases h.symm.trans hlibrary
  | unprovided hrequest =>
    rw [Request.refused_result]
    cases request with
    | operate o => exact hrequest.elim
    | _ => rfl
  | called _ h hprovides =>
    cases h.symm.trans hlibrary
    exact absurd hprovides hmissing
  | @unprepared o _ fault h hprepare =>
    cases h.symm.trans hlibrary
    rw [Operation.prepare_of_missing hmissing] at hprepare
    -- an operation that looks its function up last fails with its arguments, if they fail
    refine congrArg Except.error ?_
    revert hprepare
    simp only [missingFault]
    cases o.resolvesFirst <;> cases o.plan <;> rintro ⟨⟩ <;> rfl
  | carried h hprepare =>
    cases h.symm.trans hlibrary
    exact absurd (Operation.plan_of_prepare hprepare).1 hmissing

theorem missingFault_eq_iff (request : Request κ η) :
    missingFault request = .error (.functionNotSupported request.entry.name) ↔
      request.LooksUp := by
  cases request with
  | operate o =>
    simp only [missingFault, Request.LooksUp, Request.entry]
    cases hfirst : o.resolvesFirst
    · cases hplan : o.plan with
      | ok plan => simp
      | error fault =>
        have hfault := o.plan_meets.of_error hplan
        simp
        rintro rfl
        rcases hfault with h | ⟨_, h⟩
        · exact h
        · cases h
    · simp
  | _ => simp [missingFault, Request.LooksUp]

/-- A missing function is reported if the operation looks it up first, or has arguments that can be
put into native memory. Otherwise the failure of the arguments is reported. -/
theorem perform_missing_iff {library : Library} (hlibrary : host.library handle = .ok library)
    (hmissing : ¬library.Provides request.entry) :
    let result := ((perform replies handle request).run host).1.result
    (result = .error (.error (.functionNotSupported request.entry.name)) ↔ request.LooksUp) ∧
    ∀ o fault, request = .operate o → o.resolvesFirst = false → o.plan = .error fault →
      result = .error fault := by
  intro result
  have hresult : result = .error (missingFault request) :=
    (perform_performed replies handle host request).missing hlibrary hmissing
  rw [hresult]
  constructor
  · rw [Except.error.injEq]
    exact missingFault_eq_iff request
  · rintro o fault rfl hfirst hplan
    simp [missingFault, hfirst, hplan]

theorem emptyLibrary_missing (f : EntryPoint) : ¬emptyLibrary.Provides f := by
  rintro ⟨table, htable, -⟩
  cases htable

end Missing

section

open Simulation

/-- No attributes are read from a library without a table. -/
theorem readAttributes_missing :
    ((perform succeeding 0 (.operate (.readAttributes 1 2 [] .utf8))).run
      (connected emptyLibrary)).1.result =
        .error (.error (.functionNotSupported "C_GetAttributeValue")) := by
  exact (perform_missing_iff rfl (emptyLibrary_missing _)).1.mpr (.inl rfl)

/-- A number has no native form, and this is reported though the function is missing. -/
theorem createObject_missing_unrecognized :
    let host := connected emptyLibrary
    let request : Request Unit Unit :=
      .operate (.createObject 1 [⟨0x0, .float ⟨0x3FF8000000000000⟩⟩] .utf8)
    host.library 0 = .ok emptyLibrary ∧ ¬emptyLibrary.Provides request.entry ∧
      ((perform succeeding 0 request).run host).1.result =
        .error (.error (.unrecognizedValue "Float")) ∧
      ((perform succeeding 0 request).run host).1.result ≠
        .error (.error (.functionNotSupported request.entry.name)) := by
  exact ⟨rfl, emptyLibrary_missing _, rfl, nofun⟩

end

end Host

end Cryptoki
