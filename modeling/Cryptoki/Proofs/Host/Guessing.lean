import Cryptoki.Proofs.Host.Connecting
import Cryptoki.Proofs.Negotiation.Growth
import Cryptoki.Proofs.Replay
import Cryptoki.Proofs.Span
import Cryptoki.Simulation.Memory

/-! Outputs that are fetched with a buffer of a guessed length, as signatures are. The question for
the length is left out, for modules that fail it, and what is returned is what the fetch that asks
would return (`Negotiation.readWithGuess_delivers`). Only when a module calls the buffer too small
and asks for no larger one is it asked for the length, and the rest is the fetch that asks
(`Negotiation.readWithGuess_unsized`). Both are put together for signatures in
`Host.guess_agrees`. -/

namespace Cryptoki

namespace Negotiation

variable {allocator : Allocator} {σ : Type}

/-- The requests of a fetch that starts with a guess, for an output of this length. -/
def guessRequests (guess length : Nat) : List OutputRequest :=
  ⟨true, .ofNat guess⟩ :: if length ≤ guess then [] else [⟨true, .ofNat length⟩]

/-- A module calls the guessed buffer too small, and asks for no larger one. -/
structure Unsized (guess : Nat) (x : OutputExchange) : Prop where
  present : x.request.present = true
  capacity : x.request.capacity.toNat = guess
  status : x.reply.status = Status.bufferTooSmall
  reported : (reported x).toNat ≤ guess

/-- From the state `s` on, a module has this output whenever it is lent a buffer. -/
def Callee.Delivers [Allocator] (call : Callee σ) (s : σ) (output : List UInt8) : Prop :=
  call.Follows s fun _ x => x.request.present = true → bytes.Fills output x

/-- From the state `s` on, a module tells the length of this output whenever it is asked. -/
def Callee.Discloses (call : Callee σ) (s : σ) (output : List UInt8) : Prop :=
  call.Follows s fun _ x => x.request.present = false → Tells output x

section Relation

variable {function : String} {guess : Nat} {made : List OutputExchange}
  {result : Except Error (List UInt8)} {buffer output : List UInt8} {x first : OutputExchange}

theorem Tried.toNat_capacity (h : Tried guess buffer x) : x.request.capacity.toNat = guess :=
  Word.toNat_ofLength h.capacity

theorem Tried.length_eq (h : Tried guess buffer x) :
    buffer.length = x.request.capacity.toNat := by
  rw [h.toNat_capacity]
  exact bytes_exact _ _ h.room

theorem Tried.request_eq (h : Tried guess buffer x) : x.request = ⟨true, .ofNat guess⟩ := by
  have hcapacity : x.request.capacity = .ofNat guess := by
    rw [← h.toNat_capacity, UInt64.ofNat_toNat]
  obtain ⟨⟨present, capacity⟩, reply⟩ := x
  exact congrArg₂ OutputRequest.mk h.present hcapacity

/-- A module that has an output for every buffer is lent one that is long enough in the second call
at the latest. -/
theorem Guessed.of_fills (h : Guessed function guess made result) (hguess : bytes.Allocatable guess)
    (houtput : bytes.Allocatable output.length)
    (hmade : ∀ x ∈ made, x.request.present = true → bytes.Fills output x) :
    result = .ok output ∧ made.map Exchange.request = guessRequests guess output.length := by
  have hlength := houtput.lt_size .bytes
  obtain ⟨larger, hlarger⟩ := houtput
  cases h with
  | cramped he =>
    obtain ⟨buffer, hbuffer⟩ := hguess
    cases he.symm.trans hbuffer
  | overlong he =>
    rw [Word.ofLength_eq_ok (hguess.lt_size .bytes)] at he
    cases he
  | @done buffer x htried hok =>
    have hfills := hmade x (by simp) htried.present
    have hfits := hfills.ok_iff.mp hok
    rw [htried.toNat_capacity] at hfits
    refine ⟨congrArg Except.ok (hfills.outcome_eq htried.length_eq hok), ?_⟩
    rw [guessRequests, if_pos hfits, ← htried.request_eq]
    rfl
  | @outgrown _ x _ htried _ he =>
    rw [(hmade x (by simp) htried.present).toNat_reported hlength] at he
    cases he.symm.trans hlarger
  | @retried _ _ x y htried hgrew hroom hrequest hok =>
    have hfills := hmade x (by simp) htried.present
    have hlong := (hfills.grew_iff hlength).mp hgrew
    rw [htried.toNat_capacity] at hlong
    have hcapacity : y.request.capacity = reported x := congrArg OutputRequest.capacity hrequest
    have hbuffer := bytes_exact _ _ hroom
    rw [← hcapacity] at hbuffer ⊢
    have hfills' := hmade y (by simp) (congrArg OutputRequest.present hrequest)
    refine ⟨congrArg Except.ok (hfills'.outcome_eq hbuffer hok), ?_⟩
    rw [guessRequests, if_neg (Nat.not_le.mpr hlong), ← htried.request_eq, ← hfills.length,
      ← hrequest]
    rfl
  | @refused _ _ x y htried _ _ hrequest hne =>
    -- the second buffer has the length that the first call has reported
    have hcapacity : y.request.capacity = reported x := congrArg OutputRequest.capacity hrequest
    have hfits := (hmade y (by simp) (congrArg OutputRequest.present hrequest)).ok_iff
    rw [hcapacity, (hmade x (by simp) htried.present).toNat_reported hlength] at hfits
    exact absurd (hfits.mpr (Nat.le_refl _)) hne
  | @unsized _ x _ _ htried hsmall hgrew _ =>
    have hok := (hmade x (by simp) htried.present).ok_of_not_grew hlength hgrew
    cases hok.symm.trans hsmall
  | @failed _ x htried hne hsmall =>
    have hgrew : ¬Grew x := fun hgrew => hsmall hgrew.1
    exact absurd ((hmade x (by simp) htried.present).ok_of_not_grew hlength hgrew) hne

/-- The length is asked for only when the guessed buffer is too small and no larger one is
wanted. -/
theorem Guessed.unsized_of_null (h : Guessed function guess made result) (hx : x ∈ made)
    (hnull : x.request.present = false) : ∃ first ∈ made.head?, Unsized guess first := by
  cases h with
  | cramped | overlong => cases hx
  | done htried | outgrown htried | failed htried =>
    rw [List.mem_singleton.mp hx, htried.present] at hnull
    cases hnull
  | @retried _ _ _ y htried _ _ hrequest | @refused _ _ _ y htried _ _ hrequest =>
    rcases List.mem_pair.mp hx with rfl | rfl
    · cases hnull.symm.trans htried.present
    · cases hnull.symm.trans (congrArg OutputRequest.present hrequest)
  | @unsized buffer first _ _ htried hsmall hgrew _ =>
    refine ⟨first, rfl, htried.present, htried.toNat_capacity, hsmall, ?_⟩
    rw [← htried.toNat_capacity, ← UInt64.le_iff_toNat_le]
    exact UInt64.not_lt.mp fun hlt => hgrew ⟨hsmall, hlt⟩

/-- Every other way in which a fetch with a guess can go has another first reply. -/
theorem Guessed.negotiated_of_unsized (h : Guessed function guess made result)
    (hfirst : first ∈ made.head?) (hunsized : Unsized guess first) :
    ∃ rest, made = first :: rest ∧ Negotiated bytes function rest result := by
  have hok : first.reply.status ≠ Status.ok := by
    rw [hunsized.status]
    decide
  have hgrew : ¬Grew first := by
    rintro ⟨-, hlt⟩
    have hle := hunsized.reported
    rw [← hunsized.capacity] at hle
    exact Nat.not_lt.mpr hle (UInt64.lt_iff_toNat_lt.mp hlt)
  cases h with
  | cramped | overlong => cases hfirst
  | done _ hok' =>
    cases hfirst
    exact absurd hok' hok
  | outgrown _ hgrew' | retried _ hgrew' | refused _ hgrew' =>
    cases hfirst
    exact absurd hgrew' hgrew
  | unsized _ _ _ hnegotiated =>
    cases hfirst
    exact ⟨_, rfl, hnegotiated⟩
  | failed _ _ hsmall =>
    cases hfirst
    exact absurd hunsized.status hsmall

end Relation

/-! ### Fetches with a guess -/

section Fetches

variable {function : String} {guess : Nat} {call : Callee σ} {s s' : σ}
  {made : List OutputExchange}

theorem Negotiated.exchanges_eq {α : Type} {kind : OutputKind α} {result : Except Error (List α)}
    (h : Negotiated kind function made result) (hcalls : Calls call.ask s made s') :
    exchanges (read kind function) call s = made := by
  have hrun : (read kind function call.noting).run (s, []) = (result, (s', made)) :=
    h.run_eq (hcalls.noted [])
  rw [exchanges, hrun]

theorem Guessed.exchanges_eq {length : Word} {result : Except Error (List UInt8)}
    (hlength : Word.ofLength guess = .ok length) (h : Guessed function guess made result)
    (hcalls : Calls call.ask s made s') :
    exchanges (readWithGuess function guess) call s = made := by
  have hrun : (readWithGuess function guess call.noting).run (s, []) = (result, (s', made)) :=
    h.run_eq hlength (hcalls.noted [])
  rw [exchanges, hrun]

variable [Allocator] (function guess call s)

/-- An output that does not change is returned, with no question for its length, in one call or two.
A module that also answers that question has it returned just the same when it is asked. -/
theorem readWithGuess_delivers {output : List UInt8} (hguess : bytes.Allocatable guess)
    (houtput : bytes.Allocatable output.length) (hdelivers : call.Delivers s output) :
    ((readWithGuess function guess call).run s).1 = .ok output ∧
      (exchanges (readWithGuess function guess) call s).map Exchange.request =
        guessRequests guess output.length ∧
      (call.Discloses s output →
        ((read bytes function call).run s).1 = ((readWithGuess function guess call).run s).1) := by
  obtain ⟨result, s', hrun, hcalls, hguessed⟩ := readWithGuess_guessed call s function guess
  obtain ⟨rfl, hrequests⟩ := hguessed.of_fills hguess houtput fun x hx => by
    obtain ⟨k, hk⟩ := List.mem_iff_getElem?.mp hx
    exact hdelivers hcalls k x hk
  refine ⟨congrArg Prod.fst hrun, hrequests, fun hdiscloses => ?_⟩
  obtain ⟨result', s'', hrun', hcalls', hnegotiated⟩ := read_negotiated call s bytes function
  obtain ⟨rfl, -⟩ := hnegotiated.changing .bytes
    (fun k x hk => ⟨hdiscloses hcalls' k x hk, hdelivers hcalls' k x hk⟩) (fun _ => houtput)
    (Nat.le_refl _) (k := 0) nofun
  rw [hrun, hrun']

theorem readWithGuess_asks :
    ∀ x ∈ exchanges (readWithGuess function guess) call s, x.request.present = false →
      ∃ first ∈ (exchanges (readWithGuess function guess) call s).head?, Unsized guess first := by
  obtain ⟨result, s', -, -, hguessed⟩ := readWithGuess_guessed call s function guess
  exact fun x hx hnull => hguessed.unsized_of_null hx hnull

/-- When the guessed buffer is too small and no larger one is wanted, the rest is the fetch that
asks for the length. -/
theorem readWithGuess_unsized {first : OutputExchange}
    (hfirst : first ∈ (exchanges (readWithGuess function guess) call s).head?)
    (hunsized : Unsized guess first) :
    ∃ next, call.ask first.request s = (first.reply, next) ∧
      (readWithGuess function guess call).run s = (read bytes function call).run next ∧
      exchanges (readWithGuess function guess) call s =
        first :: exchanges (read bytes function) call next := by
  obtain ⟨result, s', hrun, hcalls, hguessed⟩ := readWithGuess_guessed call s function guess
  obtain ⟨rest, hmade, hnegotiated⟩ := hguessed.negotiated_of_unsized hfirst hunsized
  rw [hmade] at hcalls
  obtain ⟨next, hcall, hrest⟩ := hcalls.of_cons
  refine ⟨next, hcall, ?_, ?_⟩
  · have hread : (read bytes function call).run next = (result, s') := hnegotiated.run_eq hrest
    rw [hrun, hread]
  · rw [hmade, hnegotiated.exchanges_eq hrest]

end Fetches

end Negotiation

/-! ### Signatures -/

namespace Host

open Negotiation

variable {allocator : Allocator} {κ η ρ μ : Type}

/-- The function for signatures of a library, for a session and data. -/
def signing (replies : Replies η ρ μ) (library : Library) (session : Word) (data : Argument) :
    Negotiation.Callee (Host κ η ρ μ) :=
  Plan.withOutput (fun arguments => call replies library ⟨.sign, arguments⟩)
    [.word session, data]

/-- A request for a signature is a fetch with a guess. -/
theorem perform_sign (replies : Replies η ρ μ) {handle : Nat} {host : Host κ η ρ μ}
    {library : Library} (hlibrary : host.library handle = .ok library)
    (hprovides : library.Provides .sign) (session : Word) {data : List UInt8} {input : Argument}
    (hinput : Argument.ofInput data = .ok input) :
    let signing := signing replies library session input
    let signed := (readWithGuess "C_Sign" 512 signing).run host
    (perform replies handle (.operate (.sign session data))).run host =
        (⟨Plan.respond .bytes signed.1, [], none⟩, signed.2) ∧
      calls replies handle (.operate (.sign session data)) host =
        (exchanges (readWithGuess "C_Sign" 512) signing host).map
          (Exchange.map (Plan.outputCall .sign [.word session, input])) := by
  intro signing signed
  have hplan : (Operation.sign session data).plan =
      .ok (.guessed signatureGuess [.word session, input]) := by
    simp only [Operation.plan, hinput]
    rfl
  have hprepare : (Operation.sign session data).prepare library =
      .ok (.guessed signatureGuess [.word session, input]) :=
    (Operation.prepare_of_provides hprovides).trans hplan
  obtain ⟨hcalls, hcarried⟩ := (perform_performed replies handle host
    (.operate (.sign session data))).of_prepare hlibrary hprepare
  generalize calls replies handle (.operate (.sign session data)) host = made at hcalls hcarried ⊢
  generalize (perform replies handle (.operate (.sign session data))).run host = answered
    at hcalls hcarried ⊢
  obtain ⟨answer, after⟩ := answered
  cases hcarried with
  | @guessed _ _ made result hguessed =>
    replace hguessed : Guessed "C_Sign" 512 made result := hguessed
    have hmade : Calls signing.ask host made after := hcalls.of_map
    have hlength : Word.ofLength 512 = .ok 512 := rfl
    -- the replies that the request has got determine the run of the fetch, and what it notes
    have hrun := hguessed.run_eq hlength hmade
    have hsigned : signed = (result, after) := hrun
    have hexchanges : exchanges (readWithGuess "C_Sign" 512) signing host = made :=
      hguessed.exchanges_eq hlength hmade
    rw [hsigned, hexchanges]
    exact ⟨rfl, rfl⟩

/-- A fetch with a guess agrees with the fetch that asks for the length. Of a module that has the
same output whenever it is lent a buffer, it returns that output, without asking. Any module is
asked only after it has called the guessed buffer too small and wanted no longer one, and then the
rest is the fetch that asks. A request for a signature is a fetch with 512 bytes as the guess. -/
theorem guess_agrees {σ : Type} (function : String) (guess : Nat) (call : Negotiation.Callee σ)
    (s : σ) (replies : Replies η ρ μ) (handle : Nat) (host : Host κ η ρ μ) (session : Word)
    (data : List UInt8) :
    let fetched := (readWithGuess function guess call).run s
    let made := exchanges (readWithGuess function guess) call s
    (∀ output, bytes.Allocatable guess → bytes.Allocatable output.length →
      call.Delivers s output →
      fetched.1 = .ok output ∧ made.map Exchange.request = guessRequests guess output.length ∧
      (call.Discloses s output → ((read bytes function call).run s).1 = fetched.1)) ∧
    (∀ x ∈ made, x.request.present = false → ∃ first ∈ made.head?, Unsized guess first) ∧
    (∀ first ∈ made.head?, Unsized guess first → ∃ next,
      call.ask first.request s = (first.reply, next) ∧
      fetched = (read bytes function call).run next ∧
      made = first :: exchanges (read bytes function) call next) ∧
    ∀ library input, host.library handle = .ok library → library.Provides .sign →
      Argument.ofInput data = .ok input →
      let signing := signing replies library session input
      let signed := (readWithGuess "C_Sign" 512 signing).run host
      (perform replies handle (.operate (.sign session data))).run host =
          (⟨Plan.respond .bytes signed.1, [], none⟩, signed.2) ∧
        calls replies handle (.operate (.sign session data)) host =
          (exchanges (readWithGuess "C_Sign" 512) signing host).map
            (Exchange.map (Plan.outputCall .sign [.word session, input])) := by
  intro fetched made
  refine ⟨fun output hguess houtput hdelivers => ?_, ?_, fun first hfirst hunsized => ?_, ?_⟩
  · exact readWithGuess_delivers function guess call s hguess houtput hdelivers
  · exact readWithGuess_asks function guess call s
  · exact readWithGuess_unsized function guess call s hfirst hunsized
  · intro library input hlibrary hprovides hinput
    exact perform_sign replies hlibrary hprovides session hinput

end Host

namespace Host

open Negotiation Simulation

/-- A library whose one function makes signatures. -/
def signingLibrary : Library := ⟨"signing", some [.sign], false⟩

/-- A module that makes this signature, and fails when it is asked for the length. -/
def unaskable (signature : List UInt8) : Replies Unit Unit Unit := fun _ _ c =>
  pure (match c.arguments.getLast? with
    | some (.output true capacity) => presented signature ⟨true, capacity⟩
    | _ => { status := Status.generalError })

theorem unaskable_delivers (signature : List UInt8) (session : Word) (data : Argument)
    (host : Host Unit Unit Unit Unit) :
    (signing (unaskable signature) signingLibrary session data).Delivers host signature := by
  intro made host' hcalls k x hx hpresent
  obtain ⟨host'', hreply⟩ := hcalls.reply_eq (List.mem_of_getElem? hx)
  obtain ⟨⟨present, capacity⟩, reply⟩ := x
  obtain rfl : present = true := hpresent
  obtain rfl : presented signature ⟨true, capacity⟩ = reply := hreply
  exact (presented_produces signature ⟨true, capacity⟩).fills rfl

/-- A signature of 600 bytes is returned in the second call. -/
theorem sign_unaskable :
    let signature : List UInt8 := .replicate 600 0xab
    let host : Host Unit Unit Unit Unit := connected signingLibrary
    let request : Request Unit Unit := .operate (.sign 1 [1, 2, 3])
    let input : Argument := .input ⟨some [1, 2, 3], 3⟩
    ((perform (unaskable signature) 0 request).run host).1.result = .ok (.bytes signature) ∧
      (calls (unaskable signature) 0 request host).map Exchange.request =
        [⟨.sign, [.word 1, input, .output true 512]⟩,
          ⟨.sign, [.word 1, input, .output true 600]⟩] := by
  intro signature host request input
  obtain ⟨hdelivered, -, -, hsign⟩ :=
    guess_agrees "C_Sign" 512 (signing (unaskable signature) signingLibrary 1 input) host
      (unaskable signature) 0 host 1 [1, 2, 3]
  have hlength : signature.length = 600 := List.length_replicate
  have houtput : bytes.Allocatable signature.length := by
    rw [hlength]
    exact bytes_allocatable (by decide)
  obtain ⟨hfetched, hrequests, -⟩ := hdelivered signature (bytes_allocatable (by decide)) houtput
    (unaskable_delivers signature 1 input host)
  obtain ⟨hrun, hcalls⟩ := hsign signingLibrary input rfl ⟨_, rfl, by decide⟩ rfl
  constructor
  · rw [hrun, hfetched]
    rfl
  · have hforms (made : List OutputExchange) :
        (made.map (Exchange.map (Plan.outputCall .sign [.word 1, input]))).map Exchange.request =
          (made.map Exchange.request).map (Plan.outputCall .sign [.word 1, input]) := by
      rw [List.map_map, List.map_map]
      rfl
    rw [hcalls, hforms, hrequests, hlength]
    rfl

end Host

end Cryptoki
