import Cryptoki.Module.Call

/-! The exchanges of a program with a module. Noting each request and its reply changes nothing in
the outcome of the program (`Tracks`, and `Reports` where it can fail), so what is said of the
exchanges noted is said of the calls that the program makes. -/

namespace Cryptoki

variable {α β γ ε σ τ : Type}

theorem bind_of_eq {x : StateM σ α} {f : α → StateM σ β} {s s' : σ} {a : α} (h : x s = (a, s')) :
    (x >>= f) s = f a s' := by
  simp only [bind, StateT.bind, h]

theorem get_bind (f : σ → StateM σ β) (s : σ) : (get >>= f) s = f s s := rfl

theorem modify_bind (f : σ → σ) (g : PUnit → StateM σ β) (s : σ) :
    (modify f >>= g) s = g ⟨⟩ (f s) := rfl

structure Exchange (α : Type) where
  request : α
  reply : Reply

/-- An exchange with its request in another form. -/
def Exchange.map (f : α → γ) (x : Exchange α) : Exchange γ := ⟨f x.request, x.reply⟩

/-- A call that also notes each exchange, the oldest first. -/
def recorded (call : α → StateM σ Reply) : α → StateM (σ × List (Exchange α)) Reply :=
  fun request state =>
    let (reply, s) := call request state.1
    (reply, (s, state.2 ++ [⟨request, reply⟩]))

/-- `made` lists calls that `call` answers one after the other, from one state to another. -/
inductive Calls (call : α → StateM σ Reply) : σ → List (Exchange α) → σ → Prop
  | nil (s : σ) : Calls call s [] s
  | cons {s s' s'' : σ} {request : α} {reply : Reply} {made : List (Exchange α)} :
      call request s = (reply, s') → Calls call s' made s'' →
      Calls call s (⟨request, reply⟩ :: made) s''

namespace Calls

variable {call : α → StateM σ Reply} {s s' s'' : σ} {made made' : List (Exchange α)}

theorem single {request : α} {reply : Reply} (h : call request s = (reply, s')) :
    Calls call s [⟨request, reply⟩] s' :=
  .cons h (.nil s')

theorem append (h : Calls call s made s') (h' : Calls call s' made' s'') :
    Calls call s (made ++ made') s'' := by
  induction h with
  | nil => exact h'
  | cons hc _ ih => exact .cons hc (ih h')

theorem reply_eq (h : Calls call s made s') {x : Exchange α} (hx : x ∈ made) :
    ∃ state, (call x.request state).1 = x.reply := by
  induction h with
  | nil => cases hx
  | cons hc _ ih =>
    rcases List.mem_cons.mp hx with rfl | hx
    · exact ⟨_, congrArg Prod.fst hc⟩
    · exact ih hx

end Calls

/-- What a list with one more element splits at is that element or an earlier one. -/
theorem eq_or_exists_of_concat_eq {l before rest : List α} {x y : α}
    (h : l ++ [x] = before ++ y :: rest) :
    l = before ∧ x = y ∧ rest = [] ∨ ∃ rest', rest = rest' ++ [x] ∧ l = before ++ y :: rest' := by
  obtain rfl | ⟨rest', z, rfl⟩ := rest.eq_nil_or_concat
  · obtain ⟨hbefore, hlast⟩ := List.append_inj' h rfl
    exact .inl ⟨hbefore, List.singleton_inj.mp hlast, rfl⟩
  · have hsplit : l ++ [x] = (before ++ y :: rest') ++ [z] := by simpa using h
    obtain ⟨hbefore, hlast⟩ := List.append_inj' hsplit rfl
    obtain rfl := List.singleton_inj.mp hlast
    exact .inr ⟨rest', List.concat_eq_append, hbefore⟩

theorem eq_of_not_tolerated {T : Exchange α → Prop} {before before' rest : List (Exchange α)}
    {x x' : Exchange α} (hbefore : ∀ y ∈ before, T y)
    (h : before ++ [x] = before' ++ x' :: rest) (hx' : ¬T x') : rest = [] ∧ x' = x := by
  obtain ⟨-, rfl, rfl⟩ | ⟨rest', -, rfl⟩ := eq_or_exists_of_concat_eq h
  · exact ⟨rfl, rfl⟩
  · exact absurd (hbefore x' (by simp)) hx'

/-! ### Two runs in step -/

/-- How a run that notes its exchanges and one that does not are kept in step: after the exchanges
`made`, the one is in state `t` and the other in state `s`. -/
abbrev Tally (α τ σ : Type) := (made : List (Exchange α)) → (t : τ) → (s : σ) → Prop

/-- Both calls give the same reply, and one of them notes the exchange. -/
def Notes (S : Tally α τ σ) (noted : α → StateM τ Reply) (call : α → StateM σ Reply) : Prop :=
  ∀ request made t s, S made t s → ∃ reply t' s', noted request t = (reply, t') ∧
    call request s = (reply, s') ∧ S (made ++ [⟨request, reply⟩]) t' s'

/-- Both runs come to the same result and stay in step, and `R` relates the exchanges that they make
to the result. -/
def Tracks (S : Tally α τ σ) (noted : StateM τ β) (plain : StateM σ β)
    (R : List (Exchange α) → β → Prop) : Prop :=
  ∀ made t s, S made t s → ∃ more b t' s', noted t = (b, t') ∧ plain s = (b, s') ∧
    S (made ++ more) t' s' ∧ R more b

theorem recorded_notes (call : α → StateM σ Reply) (start : σ) (log : List (Exchange α)) :
    Notes (fun made t s => t = (s, log ++ made) ∧ Calls call start made s) (recorded call)
      call := by
  rintro request made t s ⟨rfl, hmade⟩
  refine ⟨_, _, _, rfl, rfl, ?_, hmade.append (.single rfl)⟩
  rw [← List.append_assoc]

theorem Notes.map {S : Tally γ τ σ} {noted : γ → StateM τ Reply} {call : γ → StateM σ Reply}
    (h : Notes S noted call) (f : α → γ) (before : List (Exchange γ)) :
    Notes (fun made => S (before ++ made.map (Exchange.map f))) (fun request => noted (f request))
      fun request => call (f request) := by
  intro request made t s hs
  obtain ⟨reply, t', s', hn, hc, hs'⟩ := h (f request) _ t s hs
  refine ⟨reply, t', s', hn, hc, ?_⟩
  show S (before ++ (made ++ _).map (Exchange.map f)) t' s'
  rw [List.map_append, ← List.append_assoc]
  exact hs'

namespace Tracks

variable {S : Tally α τ σ} {noted : StateM τ β} {plain : StateM σ β}
  {R T : List (Exchange α) → β → Prop}

theorem mono (h : Tracks S noted plain R) (hRT : ∀ made b, R made b → T made b) :
    Tracks S noted plain T := by
  intro made t s hs
  obtain ⟨more, b, t', s', hn, hp, hs', hR⟩ := h made t s hs
  exact ⟨more, b, t', s', hn, hp, hs', hRT _ _ hR⟩

theorem pure (b : β) :
    Tracks S (Pure.pure b) (Pure.pure b) fun made c => made = [] ∧ c = b := by
  intro made t s hs
  exact ⟨[], b, t, s, rfl, rfl, by rwa [List.append_nil], rfl, rfl⟩

/-- A program that goes on from the result of another makes the calls of both, in order. -/
theorem bind {notedNext : β → StateM τ γ} {plainNext : β → StateM σ γ}
    {T : β → List (Exchange α) → γ → Prop} (h : Tracks S noted plain R)
    (hNext : ∀ b, Tracks S (notedNext b) (plainNext b) (T b)) :
    Tracks S (noted >>= notedNext) (plain >>= plainNext) fun made c =>
      ∃ b first rest, made = first ++ rest ∧ R first b ∧ T b rest c := by
  intro made t s hs
  obtain ⟨first, b, t', s', hn, hp, hs', hR⟩ := h made t s hs
  obtain ⟨rest, c, t'', s'', hn', hp', hs'', hT⟩ := hNext b (made ++ first) t' s' hs'
  refine ⟨first ++ rest, c, t'', s'', ?_, ?_, ?_, b, first, rest, rfl, hR, hT⟩
  · show (noted >>= notedNext) t = _
    simp only [Bind.bind, StateT.bind, hn, hn']
  · show (plain >>= plainNext) s = _
    simp only [Bind.bind, StateT.bind, hp, hp']
  · rwa [← List.append_assoc]

theorem map (h : Tracks S noted plain R) (f : β → γ) :
    Tracks S (do return f (← noted)) (do return f (← plain)) fun made c =>
      ∃ b, R made b ∧ c = f b := by
  refine (h.bind fun b => .pure (f b)).mono ?_
  rintro made c ⟨b, first, rest, rfl, hR, rfl, rfl⟩
  exact ⟨b, by rwa [List.append_nil], rfl⟩

theorem call_once {noted : α → StateM τ Reply} {call : α → StateM σ Reply}
    (h : Notes S noted call) (request : α) :
    Tracks S (noted request) (call request) fun made reply => made = [⟨request, reply⟩] := by
  intro made t s hs
  obtain ⟨reply, t', s', hn, hc, hs'⟩ := h request made t s hs
  exact ⟨_, reply, t', s', hn, hc, hs', rfl⟩

/-- Runs that stay in step over requests of one form do so over the requests they stand for. -/
theorem of_map {S : Tally γ τ σ} {R : List (Exchange α) → β → Prop} (f : α → γ)
    (h : ∀ before, Tracks (fun made => S (before ++ made.map (Exchange.map f))) noted plain R) :
    Tracks S noted plain fun made b => ∃ made', made = made'.map (Exchange.map f) ∧ R made' b := by
  intro made t s hs
  have hs₀ : S (made ++ [].map (Exchange.map f)) t s := by rwa [List.map_nil, List.append_nil]
  obtain ⟨more, b, t', s', hn, hp, hs', hR⟩ := h made [] t s hs₀
  exact ⟨_, b, t', s', hn, hp, hs', more, rfl, hR⟩

end Tracks

/-! ### Programs that can fail -/

/-- Run with its calls noted, a program comes to the same outcome and leaves the module in the same
state as without, and `R` relates the exchanges that it makes to its outcome. -/
def Reports (S : Tally α τ σ) (noted : ExceptT ε (StateM τ) β) (plain : ExceptT ε (StateM σ) β)
    (R : List (Exchange α) → Except ε β → Prop) : Prop :=
  Tracks S noted.run plain.run R

namespace Reports

variable {S : Tally α τ σ} {noted : ExceptT ε (StateM τ) β} {plain : ExceptT ε (StateM σ) β}
  {R T : List (Exchange α) → Except ε β → Prop}

theorem mono (h : Reports S noted plain R) (hRT : ∀ made outcome, R made outcome → T made outcome) :
    Reports S noted plain T :=
  Tracks.mono h hRT

theorem lift (x : Except ε β) :
    Reports S (liftM x) (liftM x) fun made outcome => made = [] ∧ outcome = x :=
  Tracks.pure x

theorem call_once {noted : α → StateM τ Reply} {call : α → StateM σ Reply}
    (h : Notes S noted call) (request : α) :
    Reports S (liftM (noted request) : ExceptT ε (StateM τ) Reply)
        (liftM (call request) : ExceptT ε (StateM σ) Reply) fun made outcome =>
      ∃ reply, made = [⟨request, reply⟩] ∧ outcome = .ok reply := by
  refine ((Tracks.call_once h request).map Except.ok).mono ?_
  rintro made outcome ⟨reply, rfl, rfl⟩
  exact ⟨reply, rfl, rfl⟩

/-- A program that goes on from the result of another makes the calls of both, in order. -/
theorem bind {notedNext : β → ExceptT ε (StateM τ) γ}
    {plainNext : β → ExceptT ε (StateM σ) γ}
    {T : β → List (Exchange α) → Except ε γ → Prop} (h : Reports S noted plain R)
    (hNext : ∀ b, Reports S (notedNext b) (plainNext b) (T b)) :
    Reports S (noted >>= notedNext) (plain >>= plainNext) fun made outcome =>
      (∃ e, R made (.error e) ∧ outcome = .error e) ∨
      ∃ b first rest, made = first ++ rest ∧ R first (.ok b) ∧ T b rest outcome := by
  let After (first : Except ε β) (rest : List (Exchange α)) (outcome : Except ε γ) : Prop :=
    match first with
    | .error e => rest = [] ∧ outcome = .error e
    | .ok b => T b rest outcome
  have hAfter (first : Except ε β) : Tracks S (ExceptT.bindCont notedNext first)
      (ExceptT.bindCont plainNext first) (After first) := by
    cases first with
    | error e => exact Tracks.pure (Except.error e)
    | ok b => exact hNext b
  refine (Tracks.bind h hAfter).mono ?_
  rintro made outcome ⟨_ | b, first, rest, rfl, hR, hrest⟩
  · obtain ⟨rfl, rfl⟩ := hrest
    exact .inl ⟨_, by rwa [List.append_nil], rfl⟩
  · exact .inr ⟨b, first, rest, rfl, hR, hrest⟩

end Reports

end Cryptoki
