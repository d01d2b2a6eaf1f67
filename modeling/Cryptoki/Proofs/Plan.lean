import Cryptoki.Module.Plan
import Cryptoki.Proofs.Attribute.Fetch
import Cryptoki.Proofs.Negotiation

/-! The ways in which a plan can be carried out. `Plan.Carried` relates the calls that are made to
the answer, and every plan is carried out in one of these ways (`Plan.run_tracks`). -/

namespace Cryptoki

variable {σ τ : Type}

/-- The answer of an operation whose one call comes to `conclusion`. -/
def Answer.ofConclusion (template : Template) (mechanism : Option Mechanism)
    (conclusion : Except Fault Conclusion) : Answer :=
  match conclusion with
  | .error fault => ⟨.error fault, template, mechanism⟩
  | .ok c => ⟨.ok c.response, template, c.output.elim mechanism fun o => mechanism.map o.apply⟩

namespace Plan

/-- What a plan of one call comes to with a reply. -/
def conclusion (function : String) (conclude : Reply → Except Fault Conclusion) (reply : Reply) :
    Except Fault Conclusion :=
  liftM (Negotiation.check function reply.status) >>= fun _ => conclude reply

/-- The call with an output buffer after the arguments. -/
def outputCall (entry : EntryPoint) (arguments : List Argument)
    (request : Negotiation.OutputRequest) : Call :=
  ⟨entry, arguments ++ [.output request.present request.capacity]⟩

/-- The call with a query for attributes of an object. -/
def queryCall (entry : EntryPoint) (session object : Word) (query : List QueryEntry) : Call :=
  ⟨entry, [.word session, .word object, .query query]⟩

/-- How a plan is carried out: the calls that are made and the answer that they come to. -/
inductive Carried [Allocator] (entry : EntryPoint) (template : Template)
    (mechanism : Option Mechanism) : Plan → List (Exchange Call) → Answer → Prop
  | once {arguments : List Argument} {conclude : Reply → Except Fault Conclusion} (reply : Reply) :
      Carried entry template mechanism (.once arguments conclude) [⟨⟨entry, arguments⟩, reply⟩]
        (.ofConclusion template mechanism (conclusion entry.name conclude reply))
  | bytes {arguments : List Argument} {made : List Negotiation.OutputExchange}
      {result : Except Error (List UInt8)} :
      Negotiation.Negotiated Negotiation.bytes entry.name made result →
      Carried entry template mechanism (.bytes arguments)
        (made.map (Exchange.map (outputCall entry arguments)))
        ⟨respond .bytes result, template, mechanism⟩
  | words {arguments : List Argument} {made : List Negotiation.OutputExchange}
      {result : Except Error (List Word)} :
      Negotiation.Negotiated Negotiation.words entry.name made result →
      Carried entry template mechanism (.words arguments)
        (made.map (Exchange.map (outputCall entry arguments)))
        ⟨respond .words result, template, mechanism⟩
  | guessed {guess : Nat} {arguments : List Argument} {made : List Negotiation.OutputExchange}
      {result : Except Error (List UInt8)} :
      Negotiation.Guessed entry.name guess made result →
      Carried entry template mechanism (.guessed guess arguments)
        (made.map (Exchange.map (outputCall entry arguments)))
        ⟨respond .bytes result, template, mechanism⟩
  | nothing {session object : Word} {encoding : Encoding} :
      Carried entry template mechanism (.attributes session object [] encoding) []
        ⟨.ok .done, [], mechanism⟩
  | attributes {session object : Word} {attributes : Template} {encoding : Encoding}
      {made : List Reader.QueryExchange}
      {outcome : Except Fault (Word × List (Reader.Slot × QueryEntry))} :
      attributes ≠ [] → Reader.Fetched attributes made outcome →
      Carried entry template mechanism (.attributes session object attributes encoding)
        (made.map (Exchange.map (queryCall entry session object)))
        ⟨(Reader.conclude encoding attributes outcome).1.map fun _ => .done,
          (Reader.conclude encoding attributes outcome).2, mechanism⟩

section Conclusions

variable {function : String} {conclude : Reply → Except Fault Conclusion} {reply : Reply}

theorem conclusion_of_ok (h : reply.status = Status.ok) :
    conclusion function conclude reply = conclude reply := by
  rw [conclusion, Negotiation.check, if_pos h]
  rfl

theorem conclusion_of_ne_ok (h : reply.status ≠ Status.ok) :
    conclusion function conclude reply = .error (.error (.status function reply.status)) := by
  rw [conclusion, Negotiation.check, if_neg h]
  rfl

end Conclusions

theorem run_once {allocator : Allocator} (function : String) (call : Callee σ) (template : Template)
    (mechanism : Option Mechanism) (arguments : List Argument)
    (conclude : Reply → Except Fault Conclusion) :
    (once arguments conclude).run function call template mechanism = do
      return .ofConclusion template mechanism
        (conclusion function conclude (← call arguments)) := by
  funext s
  unfold run callOnce
  simp only [bind, StateT.bind]
  obtain ⟨reply, s'⟩ := call arguments s
  cases h : (liftM (Negotiation.check function reply.status) : Except Fault Unit).bind
      fun _ => conclude reply with
  | error fault =>
    simp only [h, conclusion, bind]
    rfl
  | ok c =>
    obtain ⟨response, output⟩ := c
    simp only [h, conclusion, bind]
    cases output <;> rfl

section Runs

variable {S : Tally Call τ σ} {noted : Call → StateM τ Reply} {call : Call → StateM σ Reply}

/-- A negotiation makes the calls with its output buffers after the arguments. -/
theorem negotiated_tracks {α : Type} (h : Notes S noted call) (entry : EntryPoint)
    (arguments : List Argument) {x : ExceptT Error (StateM τ) α} {y : ExceptT Error (StateM σ) α}
    {R : List Negotiation.OutputExchange → Except Error α → Prop}
    (hxy : ∀ {S : Tally Negotiation.OutputRequest τ σ},
      Notes S (fun r => noted (outputCall entry arguments r))
        (fun r => call (outputCall entry arguments r)) → Reports S x y R)
    (response : α → Response) (template : Template) (mechanism : Option Mechanism) :
    Tracks S (do return ⟨respond response (← x.run), template, mechanism⟩)
      (do return ⟨respond response (← y.run), template, mechanism⟩) fun made (answer : Answer) =>
        ∃ exchanges result, R exchanges result ∧
          made = exchanges.map (Exchange.map (outputCall entry arguments)) ∧
          answer = ⟨respond response result, template, mechanism⟩ := by
  refine ((Tracks.of_map (outputCall entry arguments) fun before =>
    hxy (h.map _ before)).map _).mono ?_
  rintro made answer ⟨result, ⟨exchanges, rfl, hR⟩, rfl⟩
  exact ⟨exchanges, result, hR, rfl, rfl⟩

theorem run_tracks [Allocator] (h : Notes S noted call) (entry : EntryPoint) (template : Template)
    (mechanism : Option Mechanism) (plan : Plan) :
    Tracks S (plan.run entry.name (fun arguments => noted ⟨entry, arguments⟩) template mechanism)
      (plan.run entry.name (fun arguments => call ⟨entry, arguments⟩) template mechanism)
      (Carried entry template mechanism plan) := by
  cases plan with
  | once arguments conclude =>
    rw [run_once, run_once]
    refine ((Tracks.call_once h _).map _).mono ?_
    rintro made answer ⟨reply, rfl, rfl⟩
    exact .once reply
  | bytes arguments =>
    refine (negotiated_tracks h entry arguments (fun h =>
      Negotiation.read_reports h Negotiation.bytes entry.name) .bytes template mechanism).mono ?_
    rintro made answer ⟨exchanges, result, hR, rfl, rfl⟩
    exact .bytes hR
  | words arguments =>
    refine (negotiated_tracks h entry arguments (fun h =>
      Negotiation.read_reports h Negotiation.words entry.name) .words template mechanism).mono ?_
    rintro made answer ⟨exchanges, result, hR, rfl, rfl⟩
    exact .words hR
  | guessed guess arguments =>
    refine (negotiated_tracks h entry arguments (fun h =>
      Negotiation.readWithGuess_reports h entry.name guess) .bytes template mechanism).mono ?_
    rintro made answer ⟨exchanges, result, hR, rfl, rfl⟩
    exact .guessed hR
  | attributes session object attributes encoding =>
    by_cases hne : attributes = []
    · subst hne
      refine (Tracks.pure (⟨.ok .done, [], mechanism⟩ : Answer)).mono ?_
      rintro made answer ⟨rfl, rfl⟩
      exact .nothing
    · refine ((Tracks.of_map (queryCall entry session object) fun before =>
        Reader.read_tracks (h.map _ before) encoding hne).map _).mono ?_
      rintro made answer ⟨_, ⟨exchanges, rfl, outcome, hfetched, rfl⟩, rfl⟩
      exact .attributes hne hfetched

end Runs

end Plan

end Cryptoki
