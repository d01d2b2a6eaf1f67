import Cryptoki.Proofs.Exchanges
import Cryptoki.Proofs.Failures
import Cryptoki.Proofs.Memory

/-! The ways in which an output can be fetched. `Filled`, `Negotiated` and `Guessed` relate the
exchanges of a negotiation to what it comes to, with a constructor for each point at which it can
end, and every negotiation is one of these. -/

namespace Cryptoki.Negotiation

variable {allocator : Allocator} {α σ τ : Type}

theorem check_of_ok {function : String} {status : Word} (h : status = Status.ok) :
    check function status = .ok () := if_pos h

theorem check_of_ne_ok {function : String} {status : Word} (h : status ≠ Status.ok) :
    check function status = .error (.status function status) := if_neg h

/-- An output pointer, null or not, and the length announced for it. -/
structure OutputRequest where
  present : Bool
  capacity : Word
deriving DecidableEq, Repr

abbrev OutputExchange := Exchange OutputRequest

/-- The length that the module has left. -/
def reported (x : OutputExchange) : Word := reportedLength x.request.capacity x.reply

/-- The module has asked for a larger buffer. -/
def Grew (x : OutputExchange) : Prop :=
  x.reply.status = Status.bufferTooSmall ∧ x.request.capacity < reported x

theorem not_grew_of_ok {x : OutputExchange} (hok : x.reply.status = Status.ok) : ¬Grew x := by
  rintro ⟨hs, -⟩
  rw [hok] at hs
  cases hs

/-- The buffers of a kind take this memory. -/
structure OutputKind.Sized [Allocator] (kind : OutputKind α) (demand : Nat → Memory.Demand) :
    Prop where
  shortage : ∀ count, FailsWith Error.IsAllocation (kind.allocate count)
  room : ∀ count buffer, kind.allocate count = .ok buffer → (demand count).Met

theorem bytes_sized : bytes.Sized .bytes where
  shortage := Memory.allocateBytes_failsWith
  room _ _ h := (Memory.allocateBytes_eq_ok_iff.mp h).1

theorem words_sized : words.Sized .words where
  shortage := Memory.allocateWords_failsWith
  room _ _ h := (Memory.allocateWords_eq_ok_iff.mp h).1

/-- Buffers have the length that they are asked for with. -/
def OutputKind.Exact (kind : OutputKind α) : Prop :=
  ∀ count buffer, kind.allocate count = .ok buffer → buffer.length = count

theorem bytes_exact : bytes.Exact := by
  intro count buffer h
  rw [(Memory.allocateBytes_eq_ok_iff.mp h).2, List.length_replicate]

theorem words_exact : words.Exact := by
  intro count buffer h
  rw [(Memory.allocateWords_eq_ok_iff.mp h).2, List.length_replicate]

/-- How a fetch goes that starts with a buffer for `capacity` elements. -/
inductive Filled (kind : OutputKind α) (function : String) :
    (capacity : Word) → List OutputExchange → Except Error (List α) → Prop
  | cramped {capacity : Word} {e : Error} : kind.allocate capacity.toNat = .error e →
      Filled kind function capacity [] (.error e)
  | done {capacity : Word} {buffer : List α} {x : OutputExchange} :
      kind.allocate capacity.toNat = .ok buffer → x.request = ⟨true, capacity⟩ →
      x.reply.status = Status.ok →
      Filled kind function capacity [x] (.ok (outcome kind buffer capacity x.reply))
  | grown {capacity : Word} {buffer : List α} {x : OutputExchange} {rest : List OutputExchange}
      {result : Except Error (List α)} :
      kind.allocate capacity.toNat = .ok buffer → x.request = ⟨true, capacity⟩ → Grew x →
      Filled kind function (reported x) rest result →
      Filled kind function capacity (x :: rest) result
  | failed {capacity : Word} {buffer : List α} {x : OutputExchange} :
      kind.allocate capacity.toNat = .ok buffer → x.request = ⟨true, capacity⟩ →
      x.reply.status ≠ Status.ok → ¬Grew x →
      Filled kind function capacity [x] (.error (.status function x.reply.status))

theorem Filled.present {kind : OutputKind α} {function : String} {capacity : Word}
    {made : List OutputExchange} {result : Except Error (List α)}
    (h : Filled kind function capacity made result) : ∀ x ∈ made, x.request.present = true := by
  induction h with
  | cramped => exact List.forall_mem_nil _
  | done _ hx | failed _ hx => exact List.forall_mem_singleton.mpr (by rw [hx])
  | grown _ hx _ _ ih => exact List.forall_mem_cons.mpr ⟨by rw [hx], ih⟩

/-- How a fetch goes that starts with the question for the length. -/
inductive Negotiated (kind : OutputKind α) (function : String) :
    List OutputExchange → Except Error (List α) → Prop
  | refused {x : OutputExchange} : x.request = ⟨false, 0⟩ → x.reply.status ≠ Status.ok →
      Negotiated kind function [x] (.error (.status function x.reply.status))
  | told {x : OutputExchange} {rest : List OutputExchange} {result : Except Error (List α)} :
      x.request = ⟨false, 0⟩ → x.reply.status = Status.ok →
      Filled kind function (reported x) rest result → Negotiated kind function (x :: rest) result

/-- The first call of a fetch that starts with a guess. -/
structure Tried [Allocator] (guess : Nat) (buffer : List UInt8) (x : OutputExchange) : Prop where
  room : Memory.allocateBytes guess = .ok buffer
  present : x.request.present = true
  capacity : Word.ofLength guess = .ok x.request.capacity

/-- How a fetch goes that starts with a guess. -/
inductive Guessed [Allocator] (function : String) (guess : Nat) :
    List OutputExchange → Except Error (List UInt8) → Prop
  | cramped {e : Error} : Memory.allocateBytes guess = .error e →
      Guessed function guess [] (.error e)
  | overlong {e : Error} : Word.ofLength guess = .error e → Guessed function guess [] (.error e)
  | done {buffer : List UInt8} {x : OutputExchange} : Tried guess buffer x →
      x.reply.status = Status.ok →
      Guessed function guess [x] (.ok (outcome bytes buffer x.request.capacity x.reply))
  | outgrown {buffer : List UInt8} {x : OutputExchange} {e : Error} : Tried guess buffer x →
      Grew x → Memory.allocateBytes (reported x).toNat = .error e →
      Guessed function guess [x] (.error e)
  | retried {buffer larger : List UInt8} {x y : OutputExchange} : Tried guess buffer x → Grew x →
      Memory.allocateBytes (reported x).toNat = .ok larger → y.request = ⟨true, reported x⟩ →
      y.reply.status = Status.ok →
      Guessed function guess [x, y] (.ok (outcome bytes larger (reported x) y.reply))
  | refused {buffer larger : List UInt8} {x y : OutputExchange} : Tried guess buffer x → Grew x →
      Memory.allocateBytes (reported x).toNat = .ok larger → y.request = ⟨true, reported x⟩ →
      y.reply.status ≠ Status.ok →
      Guessed function guess [x, y] (.error (.status function y.reply.status))
  | unsized {buffer : List UInt8} {x : OutputExchange} {rest : List OutputExchange}
      {result : Except Error (List UInt8)} : Tried guess buffer x →
      x.reply.status = Status.bufferTooSmall → ¬Grew x → Negotiated bytes function rest result →
      Guessed function guess (x :: rest) result
  | failed {buffer : List UInt8} {x : OutputExchange} : Tried guess buffer x →
      x.reply.status ≠ Status.ok → x.reply.status ≠ Status.bufferTooSmall →
      Guessed function guess [x] (.error (.status function x.reply.status))

section Reports

variable {S : Tally OutputRequest τ σ} {noted : OutputRequest → StateM τ Reply}
  {call : OutputRequest → StateM σ Reply}

theorem fill_reports (h : Notes S noted call) (kind : OutputKind α) (function : String)
    (capacity : Word) :
    Reports S (fill kind function (fun present capacity => noted ⟨present, capacity⟩) capacity)
      (fill kind function (fun present capacity => call ⟨present, capacity⟩) capacity)
      (Filled kind function capacity) := by
  -- every call but the last one raises the capacity
  induction hm : UInt64.size - capacity.toNat using Nat.strongRecOn generalizing capacity
  case ind m ih =>
    rw [fill, fill]
    refine (Reports.bind (.lift _) fun buffer => Reports.bind (.call_once h ⟨true, capacity⟩)
      fun reply => (?_ : Reports S _ _ fun made result =>
        (reply.status = Status.ok ∧ made = [] ∧ result = .ok (outcome kind buffer capacity reply)) ∨
        (Grew ⟨⟨true, capacity⟩, reply⟩ ∧
          Filled kind function (reportedLength capacity reply) made result) ∨
        (reply.status ≠ Status.ok ∧ ¬Grew ⟨⟨true, capacity⟩, reply⟩ ∧ made = [] ∧
          result = .error (.status function reply.status)))).mono ?_
    · by_cases hok : reply.status = Status.ok
      · simp only [if_pos hok]
        exact (Reports.lift (.ok _)).mono fun _ _ hr => .inl ⟨hok, hr⟩
      simp only [if_neg hok]
      by_cases hgrew : reply.status = Status.bufferTooSmall ∧
          capacity < reportedLength capacity reply
      · simp only [dif_pos hgrew]
        have hlt := UInt64.lt_iff_toNat_lt.mp hgrew.2
        have hmax := (reportedLength capacity reply).toNat_lt_size
        exact (ih _ (by omega) _ rfl).mono fun _ _ hr => .inr (.inl ⟨hgrew, hr⟩)
      · simp only [dif_neg hgrew]
        exact (Reports.lift (.error _)).mono fun _ _ hr => .inr (.inr ⟨hok, hgrew, hr⟩)
    · rintro made result (⟨e, ⟨rfl, he⟩, rfl⟩ | ⟨buffer, _, _, rfl, ⟨rfl, hroom⟩, hcall⟩)
      · exact .cramped he.symm
      rcases hcall with ⟨e, ⟨_, _, h⟩, _⟩ | ⟨_, _, rest, rfl, ⟨reply, rfl, hreply⟩, hrest⟩
      · cases h
      cases hreply
      rcases hrest with ⟨hok, rfl, rfl⟩ | ⟨hgrew, hfilled⟩ | ⟨hok, hgrew, rfl, rfl⟩
      · exact .done hroom.symm rfl hok
      · exact .grown hroom.symm rfl hgrew hfilled
      · exact .failed hroom.symm rfl hok hgrew

/-- A call whose status must be success. -/
theorem checked_reports (h : Notes S noted call) (function : String) (request : OutputRequest)
    {nextNoted : Reply → ExceptT Error (StateM τ) (List α)}
    {nextPlain : Reply → ExceptT Error (StateM σ) (List α)}
    {R : Reply → List OutputExchange → Except Error (List α) → Prop}
    (hnext : ∀ reply, Reports S (nextNoted reply) (nextPlain reply) (R reply)) :
    Reports S
      (do
        let reply ← noted request
        check function reply.status
        nextNoted reply : ExceptT Error (StateM τ) (List α))
      (do
        let reply ← call request
        check function reply.status
        nextPlain reply : ExceptT Error (StateM σ) (List α))
      fun made result => ∃ reply rest, made = ⟨request, reply⟩ :: rest ∧
        ((reply.status ≠ Status.ok ∧ rest = [] ∧ result = .error (.status function reply.status)) ∨
          (reply.status = Status.ok ∧ R reply rest result)) := by
  refine (Reports.bind (.call_once h request) fun reply => Reports.bind (.lift _) fun _ =>
    hnext reply).mono ?_
  rintro made result (⟨e, ⟨_, _, h⟩, _⟩ | ⟨b, _, rest, rfl, ⟨reply, rfl, hreply⟩, hrest⟩)
  · cases h
  obtain rfl : b = reply := Except.ok.inj hreply
  refine ⟨b, rest, rfl, ?_⟩
  by_cases hok : b.status = Status.ok
  · have hcheck : check function b.status = .ok () := if_pos hok
    rw [hcheck] at hrest
    rcases hrest with ⟨_, ⟨_, h⟩, _⟩ | ⟨_, _, rest, rfl, ⟨rfl, _⟩, hrest⟩
    · cases h
    · exact .inr ⟨hok, hrest⟩
  · have hcheck : check function b.status = .error (.status function b.status) := if_neg hok
    rw [hcheck] at hrest
    rcases hrest with ⟨_, ⟨rfl, h⟩, rfl⟩ | ⟨_, _, _, _, ⟨_, h⟩, _⟩
    · cases h
      exact .inl ⟨hok, rfl, rfl⟩
    · cases h

theorem read_reports (h : Notes S noted call) (kind : OutputKind α) (function : String) :
    Reports S (read kind function fun present capacity => noted ⟨present, capacity⟩)
      (read kind function fun present capacity => call ⟨present, capacity⟩)
      (Negotiated kind function) := by
  refine (checked_reports h function ⟨false, 0⟩ fun reply =>
    fill_reports h kind function (reportedLength 0 reply)).mono ?_
  rintro made result ⟨reply, rest, rfl, ⟨hok, rfl, rfl⟩ | ⟨hok, hfilled⟩⟩
  · exact .refused rfl hok
  · exact .told rfl hok hfilled

theorem readWithGuess_reports (h : Notes S noted call) (function : String) (guess : Nat) :
    Reports S (readWithGuess function guess fun present capacity => noted ⟨present, capacity⟩)
      (readWithGuess function guess fun present capacity => call ⟨present, capacity⟩)
      (Guessed function guess) := by
  unfold readWithGuess
  refine (Reports.bind (.lift _) fun buffer => Reports.bind (.lift _) fun requested =>
    Reports.bind (.call_once h ⟨true, requested⟩) fun reply =>
    (?_ : Reports S _ _ fun made result =>
      ∀ x : OutputExchange, x = ⟨⟨true, requested⟩, reply⟩ → Tried guess buffer x →
        Guessed function guess (x :: made) result)).mono ?_
  · dsimp only
    by_cases hok : reply.status = Status.ok
    · rw [if_pos hok, if_pos hok]
      refine (Reports.lift (.ok _)).mono ?_
      rintro made result ⟨rfl, rfl⟩ x rfl hx
      exact .done hx hok
    rw [if_neg hok, if_neg hok]
    by_cases hsmall : reply.status = Status.bufferTooSmall
    case neg =>
      rw [if_neg hsmall, if_neg hsmall]
      refine (Reports.lift (.error _)).mono ?_
      rintro made result ⟨rfl, rfl⟩ x rfl hx
      exact .failed hx hok hsmall
    rw [if_pos hsmall, if_pos hsmall]
    by_cases hgrew : requested < reportedLength requested reply
    case neg =>
      rw [if_neg hgrew, if_neg hgrew]
      refine (read_reports h bytes function).mono ?_
      rintro made result hnegotiated x rfl hx
      exact .unsized hx hsmall (fun hgrew' => hgrew hgrew'.2) hnegotiated
    rw [if_pos hgrew, if_pos hgrew]
    refine (Reports.bind (.lift _) fun larger =>
      checked_reports h function ⟨true, reportedLength requested reply⟩ fun again =>
        .lift (.ok (outcome bytes larger (reportedLength requested reply) again))).mono ?_
    rintro made result hretry x rfl hx
    have hgrew : Grew ⟨⟨true, requested⟩, reply⟩ := ⟨hsmall, hgrew⟩
    rcases hretry with
      ⟨e, ⟨rfl, he⟩, rfl⟩ | ⟨larger, _, _, rfl, ⟨rfl, hroom⟩, again, rest, rfl, hrest⟩
    · exact .outgrown hx hgrew he.symm
    rcases hrest with ⟨hok, rfl, rfl⟩ | ⟨hok, rfl, rfl⟩
    · exact .refused hx hgrew hroom.symm rfl hok
    · exact .retried hx hgrew hroom.symm rfl hok
  · rintro made result (⟨e, ⟨rfl, he⟩, rfl⟩ | ⟨buffer, _, _, rfl, ⟨rfl, hroom⟩, hlength⟩)
    · exact .cramped he.symm
    rcases hlength with ⟨e, ⟨rfl, he⟩, rfl⟩ | ⟨requested, _, _, rfl, ⟨rfl, hrequested⟩, hcall⟩
    · exact .overlong he.symm
    rcases hcall with ⟨e, ⟨_, _, h⟩, _⟩ | ⟨_, _, rest, rfl, ⟨reply, rfl, hreply⟩, hrest⟩
    · cases h
    cases hreply
    exact hrest _ rfl ⟨hroom.symm, rfl, hrequested.symm⟩

end Reports

/-! ### The exchanges of a negotiation -/

/-- A call with the pointer and the length of a request. -/
def Callee.ask (call : Callee σ) (request : OutputRequest) : StateM σ Reply :=
  call request.present request.capacity

/-- A call that also notes each exchange. -/
def Callee.noting (call : Callee σ) : Callee (σ × List OutputExchange) :=
  fun present capacity => recorded call.ask ⟨present, capacity⟩

/-- The exchanges that a negotiation makes, in order. -/
def exchanges (negotiation : Callee (σ × List OutputExchange) →
    ExceptT Error (StateM (σ × List OutputExchange)) (List α)) (call : Callee σ) (s : σ) :
    List OutputExchange :=
  ((negotiation call.noting).run (s, [])).2.2

section Exchanges

variable (call : Callee σ) (s : σ)

theorem exchanges_of_reports {plain : ExceptT Error (StateM σ) (List α)}
    {negotiation : Callee (σ × List OutputExchange) →
      ExceptT Error (StateM (σ × List OutputExchange)) (List α)}
    {R : List OutputExchange → Except Error (List α) → Prop}
    (h : Reports (fun made t next => t = (next, [] ++ made) ∧ Calls call.ask s made next)
      (negotiation call.noting) plain R) :
    ∃ result s', plain.run s = (result, s') ∧ Calls call.ask s (exchanges negotiation call s) s' ∧
      R (exchanges negotiation call s) result := by
  obtain ⟨made, result, t, s', hnoted, hplain, ⟨rfl, hcalls⟩, hR⟩ :=
    h [] (s, []) s ⟨rfl, .nil s⟩
  have hmade : exchanges negotiation call s = made := congrArg (·.2.2) hnoted
  rw [hmade]
  exact ⟨result, s', hplain, hcalls, hR⟩

theorem read_negotiated (kind : OutputKind α) (function : String) :
    ∃ result s', (read kind function call).run s = (result, s') ∧
      Calls call.ask s (exchanges (read kind function) call s) s' ∧
      Negotiated kind function (exchanges (read kind function) call s) result :=
  exchanges_of_reports call s (read_reports (recorded_notes call.ask s []) kind function)

theorem readWithGuess_guessed (function : String) (guess : Nat) :
    ∃ result s', (readWithGuess function guess call).run s = (result, s') ∧
      Calls call.ask s (exchanges (readWithGuess function guess) call s) s' ∧
      Guessed function guess (exchanges (readWithGuess function guess) call s) result :=
  exchanges_of_reports call s (readWithGuess_reports (recorded_notes call.ask s []) function guess)

end Exchanges

end Cryptoki.Negotiation
