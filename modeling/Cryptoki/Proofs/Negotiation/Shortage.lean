import Cryptoki.Proofs.Negotiation

/-! Outputs for which the module tells of more than the host can allocate. A fetch that comes to
need a buffer that cannot be had makes no further call and says so (`Negotiated.cramped_of_wants`,
`Guessed.cramped_of_wants`). -/

namespace Cryptoki.Negotiation

open Memory

variable {allocator : Allocator} {α : Type}

/-- After these exchanges a buffer for `length` elements is needed: in the last one the module has
told the length when asked for it, or has asked for more than it was lent. A buffer of a guessed
length is replaced once; only a module that has been asked for the length can ask for more again. -/
def Wants (made : List OutputExchange) (length : Word) : Prop :=
  ∃ x ∈ made.getLast?, reported x = length ∧
    (x.request.present = false ∧ x.reply.status = Status.ok ∨
      x.request.present = true ∧ Grew x ∧
        (made.length = 1 ∨ ∃ y ∈ made, y.request.present = false))

theorem eq_of_singleton {x y : α} {before rest : List α} (h : [y] = before ++ x :: rest) :
    before = [] ∧ y = x ∧ rest = [] := by
  obtain ⟨hbefore, hrest⟩ | ⟨-, hrest⟩ := List.append_eq_singleton_iff.mp h.symm
  · cases hrest
    exact ⟨hbefore, rfl, rfl⟩
  · cases hrest

/-- No call is made any more, and the result says that memory could not be had. -/
def Cramped (rest : List OutputExchange) (result : Except Error (List α)) : Prop :=
  rest = [] ∧ ∃ fault, result = .error (.allocation fault)

variable {kind : OutputKind α} {demand : Nat → Demand} {function : String}
  {made : List OutputExchange} {result : Except Error (List α)}

theorem Filled.cramped_of_not_met (hkind : kind.Sized demand) {capacity : Word}
    (h : Filled kind function capacity made result) (hroom : ¬(demand capacity.toNat).Met) :
    Cramped made result := by
  have beyond {buffer : List α} (hbuffer : kind.allocate capacity.toNat = .ok buffer) : False :=
    hroom (hkind.room _ _ hbuffer)
  cases h with
  | cramped he =>
    obtain ⟨fault, rfl⟩ := (hkind.shortage _).of_error he
    exact ⟨rfl, fault, rfl⟩
  | done hroom | grown hroom | failed hroom => exact (beyond hroom).elim

theorem Filled.cramped_of_grew (hkind : kind.Sized demand) {capacity : Word}
    (h : Filled kind function capacity made result) {before rest : List OutputExchange}
    {x : OutputExchange} (hmade : made = before ++ x :: rest) (hgrew : Grew x)
    (hroom : ¬(demand (reported x).toNat).Met) : Cramped rest result := by
  induction h generalizing before with
  | cramped => simp at hmade
  | done _ _ hok =>
    obtain ⟨-, rfl, -⟩ := eq_of_singleton hmade
    exact absurd hgrew (not_grew_of_ok hok)
  | grown _ _ _ hfilled ih =>
    cases before with
    | nil =>
      cases hmade
      exact hfilled.cramped_of_not_met hkind hroom
    | cons y before =>
      cases hmade
      exact ih rfl
  | failed _ _ _ hno =>
    obtain ⟨-, rfl, -⟩ := eq_of_singleton hmade
    exact absurd hgrew hno

theorem Negotiated.cramped_of_wants (hkind : kind.Sized demand)
    (h : Negotiated kind function made result) {before rest : List OutputExchange} {length : Word}
    (hmade : made = before ++ rest) (hwants : Wants before length)
    (hroom : ¬(demand length.toNat).Met) : Cramped rest result := by
  obtain ⟨x, hlast, rfl, hx⟩ := hwants
  obtain ⟨before, rfl⟩ := List.getLast?_eq_some_iff.mp hlast
  rw [List.append_assoc, List.singleton_append] at hmade
  cases h with
  | refused hrequest hne =>
    obtain ⟨-, rfl, -⟩ := eq_of_singleton hmade
    rcases hx with ⟨-, hok⟩ | ⟨hpresent, -⟩
    · exact absurd hok hne
    · rw [hrequest] at hpresent
      cases hpresent
  | told hrequest _ hfilled =>
    -- the first call asks for the length, and all after it lend a buffer
    cases before with
    | nil =>
      cases hmade
      exact hfilled.cramped_of_not_met hkind hroom
    | cons y before =>
      cases hmade
      rcases hx with ⟨hpresent, -⟩ | ⟨-, hgrew, -⟩
      · rw [hfilled.present x (by simp)] at hpresent
        cases hpresent
      · exact hfilled.cramped_of_grew hkind rfl hgrew hroom

section Guesses

variable {x y : OutputExchange} {length : Word}

/-- The call with a buffer of a guessed length wants another only when the module asks for it. -/
theorem grew_of_wants (hx : x.request.present = true) (h : Wants [x] length) :
    reported x = length ∧ Grew x := by
  simpa [Wants, hx] using h

theorem not_wants_pair (hx : x.request.present = true) (hy : y.request.present = true) :
    ¬Wants [x, y] length := by
  simp [Wants, hx, hy]

theorem Wants.tail {before : List OutputExchange} (hx : x.request.present = true)
    (h : Wants (x :: y :: before) length) : Wants (y :: before) length := by
  obtain ⟨z, hlast, hlength, hz⟩ := h
  rw [List.getLast?_cons_cons] at hlast
  refine ⟨z, hlast, hlength, hz.imp_right ?_⟩
  rintro ⟨hpresent, hgrew, hcount | ⟨w, hw, hnull⟩⟩
  · simp at hcount
  · rcases List.mem_cons.mp hw with rfl | hw
    · rw [hx] at hnull
      cases hnull
    · exact ⟨hpresent, hgrew, .inr ⟨w, hw, hnull⟩⟩

end Guesses

theorem Guessed.cramped_of_wants {guess : Nat} {result : Except Error (List UInt8)}
    (h : Guessed function guess made result) {before rest : List OutputExchange} {length : Word}
    (hmade : made = before ++ rest) (hwants : Wants before length)
    (hroom : ¬(Demand.bytes length.toNat).Met) : Cramped rest result := by
  obtain ⟨x, before, rfl⟩ : ∃ x before', before = x :: before' := by
    cases before with
    | nil => simp [Wants] at hwants
    | cons x before => exact ⟨x, before, rfl⟩
  cases h with
  | cramped | overlong => cases hmade
  | done hx hok =>
    cases before with
    | cons => cases hmade
    | nil =>
      cases hmade
      exact absurd (grew_of_wants hx.present hwants).2 (not_grew_of_ok hok)
  | failed hx _ hs =>
    cases before with
    | cons => cases hmade
    | nil =>
      cases hmade
      exact absurd (grew_of_wants hx.present hwants).2.1 hs
  | outgrown hx _ he =>
    cases before with
    | cons => cases hmade
    | nil =>
      cases hmade
      obtain ⟨fault, rfl⟩ := (bytes_sized.shortage _).of_error he
      exact ⟨rfl, fault, rfl⟩
  -- the larger buffer is there once the call is repeated
  | @retried _ larger _ _ hx _ hlarger hy _ | @refused _ larger _ _ hx _ hlarger hy _ =>
    obtain _ | ⟨z, _ | _⟩ := before
    · cases hmade
      obtain ⟨rfl, -⟩ := grew_of_wants hx.present hwants
      exact absurd (bytes_sized.room _ _ hlarger) hroom
    · cases hmade
      exact absurd hwants (not_wants_pair hx.present (by rw [hy]))
    · cases hmade
  | unsized hx _ hno hnegotiated =>
    cases before with
    | nil =>
      cases hmade
      exact absurd (grew_of_wants hx.present hwants).2 hno
    | cons z before =>
      cases hmade
      exact hnegotiated.cramped_of_wants bytes_sized rfl (hwants.tail hx.present) hroom

end Cryptoki.Negotiation
