import Cryptoki.Proofs.Exchanges
import Cryptoki.Simulation.Locker
import Mathlib.Data.List.Chain

/-! Mutexes with and without an active handler. A handler that leaves locking to the mutexes changes
nothing for those that there are, so the calls of each mutex follow from its own calls before
(`MutexTable.mutexes_keep_to_themselves`); only creation needs a handler. -/

namespace Cryptoki

variable {σ α : Type}

/-! ### Handlers that leave locking to the mutexes -/

/-- A handler whose methods end as if there were none, and whose new mutexes are free. -/
structure MutexHandler.Plain (handler : MutexHandler σ) : Prop where
  create : ∀ s m, (handler.create s).1 = .done m → m = {}
  destroy : ∀ m s, (handler.destroy m s).1 = .done ()
  lock : ∀ m s, (handler.lock m s).1 = m.lock
  unlock : ∀ m s, (handler.unlock m s).1 = m.unlock

/-- A handler that does nothing but create free mutexes in its own way. -/
theorem MutexHandler.plain_of_create {create : StateM σ (Ending Mutex)}
    (h : ∀ s m, (create s).1 = .done m → m = {}) : MutexHandler.Plain { create := create } where
  create := h
  destroy _ _ := rfl
  lock _ _ := rfl
  unlock _ _ := rfl

namespace Runtime

variable {runtime : Runtime σ}

/-- A runtime that every thread can be attached to. -/
def Attaches (runtime : Runtime σ) : Prop := ∀ s, (runtime.attach s).1 = .ok ()

theorem Attaches.guard (h : runtime.Attaches) (s : σ) :
    ∃ attachedHere s', runtime.guard s = (.ok attachedHere, s') := by
  have hattach := h s
  unfold Runtime.guard
  rw [get_bind]
  cases runtime.isAttached s with
  | true => exact ⟨_, _, rfl⟩
  | false =>
    rcases hs : runtime.attach s with ⟨outcome, s'⟩
    rw [hs] at hattach
    cases hattach
    exact ⟨true, s', bind_of_eq hs⟩

/-- A callback comes to the thread, and its ending to the module. -/
theorem Attaches.attached (h : runtime.Attaches) (callback : StateM σ (Ending α)) (s : σ) :
    ∃ s', (runtime.attached callback s).1 = (callback s').1 := by
  obtain ⟨attachedHere, s', hguard⟩ := h.guard s
  refine ⟨s', ?_⟩
  unfold Runtime.attached
  rw [bind_of_eq hguard]
  rcases hcallback : callback s' with ⟨ending, s''⟩
  dsimp only
  rw [bind_of_eq hcallback]
  cases ending <;> rfl

end Runtime

namespace Locking

/-- No handler, or one that leaves locking to the mutexes, on a runtime that attaches any thread. -/
def Plain (active : Active σ) : Prop :=
  ∀ handler runtime, active = some (handler, runtime) → handler.Plain ∧ runtime.Attaches

variable {active : Active σ}

/-- A method that ends as if there were no handler ends so whether there is one or not. -/
theorem run_of_plain (h : Plain active) {method : MutexHandler σ → StateM σ (Ending α)}
    {ending : Ending α} (hmethod : ∀ handler, handler.Plain → ∀ s, (method handler s).1 = ending)
    (s : σ) : (run active method ending s).1 = ending := by
  cases active with
  | none => rfl
  | some entry =>
    obtain ⟨handler, runtime⟩ := entry
    obtain ⟨hhandler, hruntime⟩ := h handler runtime rfl
    obtain ⟨s', hs⟩ := hruntime.attached (method handler) s
    exact hs.trans (hmethod handler hhandler s')

theorem lock_of_plain (h : Plain active) (m : Mutex) (s : σ) :
    (lock active (some m) s).1 = (m.lock.status, some (m.lock.value?.getD m)) := by
  have hrun := run_of_plain h (fun handler hhandler => hhandler.lock m) s
  exact congrArg (fun ending : Ending Mutex => (ending.status, some (ending.value?.getD m))) hrun

theorem unlock_of_plain (h : Plain active) (m : Mutex) (s : σ) :
    (unlock active (some m) s).1 = (m.unlock.status, some (m.unlock.value?.getD m)) := by
  have hrun := run_of_plain h (fun handler hhandler => hhandler.unlock m) s
  exact congrArg (fun ending : Ending Mutex => (ending.status, some (ending.value?.getD m))) hrun

theorem destroy_of_plain (h : Plain active) (m : Mutex) (s : σ) :
    (destroy active (some m) s).1 = some Status.ok := by
  have hrun := run_of_plain h (fun handler hhandler => hhandler.destroy m) s
  exact congrArg Ending.status hrun

/-- A mutex that is created is free. -/
theorem create_of_plain (h : Plain active) (place : Bool) (s : σ) {m : Mutex}
    (hm : (create active place s).1.2 = some m) : m = {} := by
  cases place with
  | false => cases hm
  | true =>
    cases active with
    | none => cases hm
    | some entry =>
      obtain ⟨handler, runtime⟩ := entry
      obtain ⟨hhandler, hruntime⟩ := h handler runtime rfl
      obtain ⟨s', hs⟩ := hruntime.attached handler.create s
      replace hm : (runtime.attached handler.create s).1.value? = some m := hm
      rw [hs] at hm
      refine hhandler.create s' m ?_
      cases hending : (handler.create s').1 <;> rw [hending] at hm <;> cases hm
      rfl

end Locking

/-! ### Calls of one mutex -/

namespace Mutex

/-- A callback on a mutex. -/
inductive Method where
  | lock
  | unlock
  | destroy
deriving DecidableEq, Repr

/-- A callback on a mutex and the status that the module is told. There is none for a lock that
finds the mutex locked and has to wait; when it tries again, this is another call. -/
structure Call where
  method : Method
  status : Option Word
deriving DecidableEq, Repr

/-- The locking that a call has completed, or the unlocking that has succeeded. -/
def Call.completed? (c : Call) : Option Method :=
  if c.status = some Status.ok ∧ c.method ≠ .destroy then some c.method else none

/-- The completed locks and successful unlocks among calls, in order. -/
def completed (calls : List Call) : List Method := calls.filterMap Call.completed?

/-- Whether a mutex is locked after its calls, which begin with a free mutex: the last of them that
has locked or unlocked it has locked it. -/
def held (calls : List Call) : Bool := (completed calls).getLast? = some .lock

/-- The status of a callback on a mutex that is locked or free. -/
def answer (locked : Bool) : Method → Option Word
  | .lock => if locked then none else some Status.ok
  | .unlock => some (if locked then Status.ok else Status.mutexNotLocked)
  | .destroy => some Status.ok

/-- The calls of a mutex from a point on where it is locked or free. Destruction is the last. -/
inductive Life : (locked : Bool) → List Call → Prop
  | nil (locked : Bool) : Life locked []
  | lock (locked : Bool) {calls : List Call} : Life true calls →
      Life locked (⟨.lock, answer locked .lock⟩ :: calls)
  | unlock (locked : Bool) {calls : List Call} : Life false calls →
      Life locked (⟨.unlock, answer locked .unlock⟩ :: calls)
  | destroy (locked : Bool) : Life locked [⟨.destroy, answer locked .destroy⟩]

/-- The method that has brought a mutex to be locked or free. -/
def latest (locked : Bool) : Method := if locked then .lock else .unlock

namespace Life

variable {locked : Bool} {calls before rest : List Call} {c : Call}

/-- Completed locks and successful unlocks alternate. -/
theorem alternates (h : Life locked calls) :
    (latest locked :: completed calls).IsChain (· ≠ ·) := by
  induction h with
  | nil locked => exact .singleton _
  | lock locked h ih =>
    cases locked with
    | true => exact ih
    | false => exact .cons_cons (by decide) ih
  | unlock locked h ih =>
    cases locked with
    | true => exact .cons_cons (by decide) ih
    | false => exact ih
  | destroy locked => exact .singleton _

theorem ne_destroy_of_mem_completed {method : Method} (h : method ∈ completed calls) :
    method ≠ .destroy := by
  obtain ⟨c, -, hc⟩ := List.mem_filterMap.mp h
  obtain ⟨⟨-, hmethod⟩, heq⟩ := Option.ite_none_right_eq_some.mp hc
  exact Option.some.inj heq ▸ hmethod

/-- From a free mutex on they begin with a lock. -/
theorem alternates_from_lock (h : Life false calls) :
    (completed calls).IsChain (· ≠ ·) ∧ ∀ first ∈ (completed calls).head?, first = .lock := by
  refine ⟨h.alternates.tail, fun first hfirst => ?_⟩
  have hmem := ne_destroy_of_mem_completed (List.mem_of_mem_head? hfirst)
  have hne : latest false ≠ first := h.alternates.rel_head? hfirst
  cases first with
  | lock => rfl
  | unlock => exact absurd rfl hne
  | destroy => exact absurd rfl hmem

theorem latest_lock (locked : Bool) (calls : List Call) :
    (completed (⟨.lock, answer locked .lock⟩ :: calls)).getLast?.getD (latest locked) =
      (completed calls).getLast?.getD (latest true) := by
  cases locked with
  | true => rfl
  | false => exact congrArg (Option.getD · _) List.getLast?_cons

theorem latest_unlock (locked : Bool) (calls : List Call) :
    (completed (⟨.unlock, answer locked .unlock⟩ :: calls)).getLast?.getD (latest locked) =
      (completed calls).getLast?.getD (latest false) := by
  cases locked with
  | true => exact congrArg (Option.getD · _) List.getLast?_cons
  | false => rfl

/-- A call and those after it, with the state that the calls before have left. -/
theorem split (h : Life locked (before ++ c :: rest)) :
    Life ((completed before).getLast?.getD (latest locked) = .lock) (c :: rest) := by
  induction before generalizing locked with
  | nil => cases locked <;> exact h
  | cons first before ih =>
    rw [List.cons_append] at h
    generalize hcalls : before ++ c :: rest = calls at h
    cases h with
    | lock _ h =>
      rw [latest_lock]
      exact ih (hcalls ▸ h)
    | unlock _ h =>
      rw [latest_unlock]
      exact ih (hcalls ▸ h)
    | destroy => simp at hcalls

theorem status_eq (h : Life locked (c :: rest)) : c.status = answer locked c.method := by
  cases h <;> rfl

/-- The status of a call follows from the calls before. -/
theorem answer_held (h : Life false (before ++ c :: rest)) :
    c.status = answer (held before) c.method := by
  have hheld : held before = decide ((completed before).getLast?.getD (latest false) = .lock) := by
    cases hlast : (completed before).getLast? with
    | none => simp [held, hlast, latest]
    | some method => simp [held, hlast]
  rw [hheld]
  exact h.split.status_eq

end Life

end Mutex

/-! ### Runs -/

/-- The mutex that a use is made of. -/
def MutexAction.slot? : MutexAction → Option Nat
  | create _ => none
  | destroy slot | lock slot | unlock slot | contend slot => some slot

namespace MutexTable

open Mutex (Life)

/-- What happens while a module has mutexes. -/
inductive Step (σ : Type) where
  /-- A handler is installed with its runtime, or none is active from here on. -/
  | install (active : Locking.Active σ)
  /-- The module uses a callback on a thread in some state. -/
  | use (thread : σ) (action : MutexAction)

/-- A use of a callback: the active handler and the mutexes at that time, the result, and the
mutexes afterwards. -/
structure Turn (σ : Type) where
  active : Locking.Active σ
  before : MutexTable
  thread : σ
  action : MutexAction
  result : MutexResult
  after : MutexTable

def turn (elsewhere : Elsewhere σ) (active : Locking.Active σ) (t : MutexTable) (thread : σ)
    (action : MutexAction) : Turn σ :=
  let answered := (act active elsewhere t action thread).1
  { active := active
    before := t
    thread := thread
    action := action
    result := answered.1
    after := answered.2 }

/-- The uses among steps, one after the other. -/
def turns (elsewhere : Elsewhere σ) : (active : Locking.Active σ) → (t : MutexTable) →
    (steps : List (Step σ)) → List (Turn σ)
  | _, _, [] => []
  | _, t, .install active :: steps => turns elsewhere active t steps
  | active, t, .use thread action :: steps =>
    let now := turn elsewhere active t thread action
    now :: turns elsewhere active now.after steps

namespace Turn

/-- A use is made of a mutex that has been created and not been destroyed. -/
def Live (turn : Turn σ) : Prop := ∀ slot ∈ turn.action.slot?, turn.before.get? slot ≠ none

instance (turn : Turn σ) : Decidable turn.Live :=
  inferInstanceAs (Decidable (∀ slot ∈ turn.action.slot?, turn.before.get? slot ≠ none))

/-- The calls of one mutex in a use. In a contention one thread unlocks it and then another, which
has waited, locks it. -/
def calls (turn : Turn σ) (slot : Nat) : List Mutex.Call :=
  if turn.action.slot? = some slot then
    match turn.action, turn.result with
    | .lock _, .status status => [⟨.lock, status⟩]
    | .unlock _, .status status => [⟨.unlock, status⟩]
    | .destroy _, .status status => [⟨.destroy, status⟩]
    | .contend _, .contended unlocked locked => [⟨.unlock, unlocked⟩, ⟨.lock, locked⟩]
    | _, _ => []
  else []

end Turn

/-- The calls of one mutex, in order. -/
def history (turns : List (Turn σ)) (slot : Nat) : List Mutex.Call :=
  turns.flatMap (Turn.calls · slot)

/-- The calls that a slot has from a point on. One with a mutex goes on with its life, one without
has had a mutex or never gets one, and beyond the slots are those of mutexes still to be created. -/
inductive Continues : Option (Option Mutex) → List Mutex.Call → Prop
  | live {m : Mutex} {calls : List Mutex.Call} : Life m.locked calls →
      Continues (some (some m)) calls
  | dead : Continues (some none) []
  | unborn {calls : List Mutex.Call} : Life false calls → Continues none calls

/-- An action on another thread comes to what it comes to there. -/
def Faithful (elsewhere : Elsewhere σ) : Prop :=
  ∀ {α : Type} (action : StateM σ α) (s : σ), ∃ s', (elsewhere action s).1 = (action s').1

variable {elsewhere : Elsewhere σ} {active : Locking.Active σ} {t : MutexTable}

theorem life_lock {m : Mutex} {calls : List Mutex.Call}
    (h : Life (m.lock.value?.getD m).locked calls) :
    Life m.locked (⟨.lock, m.lock.status⟩ :: calls) := by
  obtain ⟨_ | _⟩ := m <;> exact .lock _ h

theorem life_unlock {m : Mutex} {calls : List Mutex.Call}
    (h : Life (m.unlock.value?.getD m).locked calls) :
    Life m.locked (⟨.unlock, m.unlock.status⟩ :: calls) := by
  obtain ⟨_ | _⟩ := m <;> exact .unlock _ h

theorem get?_eq_some_iff {slot : Nat} {m : Mutex} :
    t.get? slot = some m ↔ t.slots[slot]? = some (some m) := by
  rw [get?, List.getD_eq_getElem?_getD]
  cases t.slots[slot]? <;> simp

theorem continues_set {slot : Nat} {m : Mutex} {m' : Option Mutex}
    (hslot : t.slots[slot]? = some (some m)) {calls : Nat → List Mutex.Call} {new : List Mutex.Call}
    (hnew : ∀ calls, Continues (some m') calls → Life m.locked (new ++ calls))
    (h : ∀ i, Continues ((t.set slot m').slots[i]?) (calls i)) (i : Nat) :
    Continues t.slots[i]? ((if some slot = some i then new else []) ++ calls i) := by
  obtain ⟨hlt, -⟩ := List.getElem?_eq_some_iff.mp hslot
  have hi := h i
  by_cases heq : slot = i
  · subst heq
    rw [if_pos rfl, hslot]
    rw [set, List.getElem?_set_self hlt] at hi
    exact .live (hnew _ hi)
  · rw [if_neg (by simpa using heq), List.nil_append]
    rwa [set, List.getElem?_set_ne heq] at hi

section Uses

variable {thread : σ} {slot : Nat} {m : Mutex}

theorem act_lock (hactive : Locking.Plain active) (hslot : t.slots[slot]? = some (some m)) :
    (act active elsewhere t (.lock slot) thread).1 =
      (.status m.lock.status, t.set slot (some (m.lock.value?.getD m))) := by
  have hlock := Locking.lock_of_plain hactive m thread
  rw [← get?_eq_some_iff.mpr hslot] at hlock
  exact congrArg (fun x : Option Word × Option Mutex => (MutexResult.status x.1, t.set slot x.2))
    hlock

theorem act_unlock (hactive : Locking.Plain active) (hslot : t.slots[slot]? = some (some m)) :
    (act active elsewhere t (.unlock slot) thread).1 =
      (.status m.unlock.status, t.set slot (some (m.unlock.value?.getD m))) := by
  have hunlock := Locking.unlock_of_plain hactive m thread
  rw [← get?_eq_some_iff.mpr hslot] at hunlock
  exact congrArg (fun x : Option Word × Option Mutex => (MutexResult.status x.1, t.set slot x.2))
    hunlock

theorem act_destroy (hactive : Locking.Plain active) (hslot : t.slots[slot]? = some (some m)) :
    (act active elsewhere t (.destroy slot) thread).1 =
      (.status (some Status.ok), t.set slot none) := by
  have hdestroy := Locking.destroy_of_plain hactive m thread
  rw [← get?_eq_some_iff.mpr hslot] at hdestroy
  exact congrArg (fun status => (MutexResult.status status, t.set slot none)) hdestroy

theorem act_contend (helsewhere : Faithful elsewhere) (hactive : Locking.Plain active)
    (hslot : t.slots[slot]? = some (some m)) :
    let freed := m.unlock.value?.getD m
    (act active elsewhere t (.contend slot) thread).1 =
      (.contended m.unlock.status freed.lock.status,
        t.set slot (some (freed.lock.value?.getD freed))) := by
  intro freed
  have hunlock := Locking.unlock_of_plain hactive m thread
  rw [← get?_eq_some_iff.mpr hslot] at hunlock
  rcases hcall : Locking.unlock active (t.get? slot) thread with ⟨⟨status, m'⟩, thread'⟩
  rw [hcall] at hunlock
  cases hunlock
  obtain ⟨other, hother⟩ := helsewhere (Locking.lock active (some freed)) thread'
  rw [Locking.lock_of_plain hactive freed other] at hother
  refine (congrArg Prod.fst (bind_of_eq hcall)).trans ?_
  exact congrArg (fun x : Option Word × Option Mutex =>
    (MutexResult.contended m.unlock.status x.1, t.set slot x.2)) hother

/-- Creation adds a slot, with a free mutex or none, and none without a place for the address. -/
theorem act_create (hactive : Locking.Plain active) (null : Bool) :
    ∃ result, (act active elsewhere t (.create null) thread).1 = (result, t) ∨
      ∃ created, (act active elsewhere t (.create null) thread).1 = (result, t.push created) ∧
        ∀ m, created = some m → m = {} := by
  cases null with
  | true => exact ⟨_, .inl rfl⟩
  | false => exact ⟨_, .inr ⟨_, rfl, fun _ => Locking.create_of_plain hactive true thread⟩⟩

theorem turn_eq {action : MutexAction} {result : MutexResult} {after : MutexTable}
    (h : (act active elsewhere t action thread).1 = (result, after)) :
    turn elsewhere active t thread action = ⟨active, t, thread, action, result, after⟩ :=
  congrArg (fun x : MutexResult × MutexTable => Turn.mk active t thread action x.1 x.2) h

theorem continues_push {created : Option Mutex} (hfree : ∀ m, created = some m → m = {}) {i : Nat}
    {calls : List Mutex.Call} (h : Continues (t.push created).slots[i]? calls) :
    Continues t.slots[i]? calls := by
  rw [push, List.getElem?_append] at h
  split at h
  · exact h
  · rename_i hle
    rw [List.getElem?_eq_none (Nat.le_of_not_lt hle)]
    rw [List.getElem?_singleton] at h
    split at h
    · cases h with
      | live hlife =>
        obtain rfl := hfree _ rfl
        exact .unborn hlife
      | dead => exact .unborn (.nil false)
    · exact h

/-- A use of a mutex that there is goes on with the calls of each mutex as they are. -/
theorem continues_turn (helsewhere : Faithful elsewhere) (hactive : Locking.Plain active)
    {action : MutexAction} (hlive : (turn elsewhere active t thread action).Live)
    {calls : Nat → List Mutex.Call}
    (h : ∀ i, Continues (turn elsewhere active t thread action).after.slots[i]? (calls i))
    (i : Nat) :
    Continues t.slots[i]? ((turn elsewhere active t thread action).calls i ++ calls i) := by
  have hlive (slot : Nat) (hslot : action.slot? = some slot) :
      ∃ m, t.slots[slot]? = some (some m) := by
    obtain ⟨m, hm⟩ := Option.ne_none_iff_exists'.mp (hlive slot hslot)
    exact ⟨m, get?_eq_some_iff.mp hm⟩
  cases action with
  | create null =>
    obtain ⟨result, hact | ⟨created, hact, hfree⟩⟩ := act_create hactive null
    · rw [turn_eq hact] at h ⊢
      exact h i
    · rw [turn_eq hact] at h ⊢
      exact continues_push hfree (h i)
  | destroy slot =>
    obtain ⟨m, hslot⟩ := hlive slot rfl
    rw [turn_eq (act_destroy hactive hslot)] at h ⊢
    refine continues_set hslot (fun calls hcalls => ?_) h i
    cases hcalls
    exact .destroy _
  | lock slot =>
    obtain ⟨m, hslot⟩ := hlive slot rfl
    rw [turn_eq (act_lock hactive hslot)] at h ⊢
    refine continues_set hslot (fun calls hcalls => ?_) h i
    cases hcalls with
    | live hlife => exact life_lock hlife
  | unlock slot =>
    obtain ⟨m, hslot⟩ := hlive slot rfl
    rw [turn_eq (act_unlock hactive hslot)] at h ⊢
    refine continues_set hslot (fun calls hcalls => ?_) h i
    cases hcalls with
    | live hlife => exact life_unlock hlife
  | contend slot =>
    obtain ⟨m, hslot⟩ := hlive slot rfl
    rw [turn_eq (act_contend helsewhere hactive hslot)] at h ⊢
    refine continues_set hslot (fun calls hcalls => ?_) h i
    cases hcalls with
    | live hlife => exact life_unlock (life_lock hlife)

end Uses

/-- Whatever is installed in between, the calls of each mutex go on as they have been. -/
theorem continues_turns (helsewhere : Faithful elsewhere) (hactive : Locking.Plain active)
    (steps : List (Step σ)) (hinstalls : ∀ active, .install active ∈ steps → Locking.Plain active)
    (hlive : ∀ use ∈ turns elsewhere active t steps, use.Live) (i : Nat) :
    Continues t.slots[i]? (history (turns elsewhere active t steps) i) := by
  induction steps generalizing active t i with
  | nil =>
    cases t.slots[i]? with
    | none => exact .unborn (.nil false)
    | some m =>
      cases m with
      | none => exact .dead
      | some m => exact .live (.nil m.locked)
  | cons step steps ih =>
    have hlater : ∀ active, .install active ∈ steps → Locking.Plain active :=
      fun active hactive => hinstalls active (List.mem_cons_of_mem step hactive)
    cases step with
    | install active' => exact ih (hinstalls active' List.mem_cons_self) hlater hlive i
    | use thread action =>
      rw [turns] at hlive ⊢
      obtain ⟨hnow, hrest⟩ := List.forall_mem_cons.mp hlive
      rw [history, List.flatMap_cons]
      exact continues_turn helsewhere hactive hnow (ih hactive hlater hrest) i

theorem life_history (helsewhere : Faithful elsewhere) (hactive : Locking.Plain active)
    (steps : List (Step σ)) (hinstalls : ∀ active, .install active ∈ steps → Locking.Plain active)
    (hlive : ∀ use ∈ turns elsewhere active {} steps, use.Live) (i : Nat) :
    Life false (history (turns elsewhere active {} steps) i) := by
  have hall := continues_turns helsewhere hactive steps hinstalls hlive i
  generalize history (turns elsewhere active {} steps) i = calls at hall ⊢
  cases hall with
  | unborn h => exact h

theorem eq_turn_of_mem {t : MutexTable} {steps : List (Step σ)} (hactive : Locking.Plain active)
    (hinstalls : ∀ active, .install active ∈ steps → Locking.Plain active) {use : Turn σ}
    (h : use ∈ turns elsewhere active t steps) :
    use = turn elsewhere use.active use.before use.thread use.action ∧
      Locking.Plain use.active := by
  induction steps generalizing active t with
  | nil => cases h
  | cons step steps ih =>
    have hlater : ∀ active, .install active ∈ steps → Locking.Plain active :=
      fun active hactive => hinstalls active (List.mem_cons_of_mem step hactive)
    cases step with
    | install active' => exact ih (hinstalls active' List.mem_cons_self) hlater h
    | use thread action =>
      rw [turns] at h
      obtain rfl | hrest := List.mem_cons.mp h
      · exact ⟨rfl, hactive⟩
      · exact ih hactive hlater hrest

/-- Without a handler no mutex is created. -/
theorem create_of_none {use : Turn σ}
    (h : use = turn elsewhere use.active use.before use.thread use.action)
    (haction : use.action = .create false) (hactive : use.active = none) :
    use.result = .created (some Status.generalError) false ∧
      use.after = use.before.push none := by
  rw [haction, hactive] at h
  rw [h]
  exact ⟨rfl, rfl⟩

/-- A handler that always creates a mutex has it told to the module. -/
theorem create_of_handler {use : Turn σ} {handler : MutexHandler σ} {runtime : Runtime σ}
    (h : use = turn elsewhere use.active use.before use.thread use.action)
    (haction : use.action = .create false) (hactive : use.active = some (handler, runtime))
    (hruntime : runtime.Attaches) (hcreate : ∀ s, (handler.create s).1 = .done {}) :
    use.result = .created (some Status.ok) true ∧ use.after = use.before.push (some {}) := by
  rw [haction, hactive] at h
  obtain ⟨s', hs⟩ := hruntime.attached handler.create use.thread
  rw [hcreate] at hs
  rcases hcall : runtime.attached handler.create use.thread with ⟨ending, s''⟩
  rw [hcall] at hs
  cases hs
  have hact : (act (some (handler, runtime)) elsewhere use.before (.create false) use.thread).1 =
      (.created (some Status.ok) true, use.before.push (some {})) :=
    congrArg (fun x : Ending Mutex × σ => (MutexResult.created x.1.status x.1.value?.isSome,
      use.before.push x.1.value?)) hcall
  rw [turn_eq hact] at h
  rw [h]
  exact ⟨rfl, rfl⟩

/-- Locking does not depend on the handler. Among any uses of mutexes that there are, while handlers
that leave locking to the mutexes come and go, the status of each call follows from the earlier
calls of the same mutex: an unlock succeeds exactly when the mutex is locked, so completed locks and
successful unlocks alternate and begin with a lock. Creation alone depends on the handler, and
without one it fails and there is no mutex. -/
theorem mutexes_keep_to_themselves (helsewhere : Faithful elsewhere)
    (hactive : Locking.Plain active) (steps : List (Step σ))
    (hinstalls : ∀ active, .install active ∈ steps → Locking.Plain active)
    (hlive : ∀ use ∈ turns elsewhere active {} steps, use.Live) :
    let uses := turns elsewhere active {} steps
    (∀ slot before c rest, history uses slot = before ++ c :: rest →
      c.status = Mutex.answer (Mutex.held before) c.method) ∧
    (∀ slot, let completed := Mutex.completed (history uses slot)
      completed.IsChain (· ≠ ·) ∧ ∀ first ∈ completed.head?, first = .lock) ∧
    ∀ use ∈ uses, use.action = .create false →
      (use.active = none → use.result = .created (some Status.generalError) false ∧
        use.after = use.before.push none) ∧
      ∀ handler runtime, use.active = some (handler, runtime) →
        (∀ s, (handler.create s).1 = .done {}) →
        use.result = .created (some Status.ok) true ∧ use.after = use.before.push (some {}) := by
  intro uses
  have hlife := life_history helsewhere hactive steps hinstalls hlive
  refine ⟨fun slot before c rest hhistory => ?_, fun slot => (hlife slot).alternates_from_lock,
    fun use huse haction => ?_⟩
  · exact (hhistory ▸ hlife slot).answer_held
  · obtain ⟨hturn, hplain⟩ := eq_turn_of_mem hactive hinstalls huse
    refine ⟨create_of_none hturn haction, fun handler runtime hhandler => ?_⟩
    exact create_of_handler hturn haction hhandler (hplain handler runtime hhandler).2

/-- A mutex that is created while a handler is active and goes on without one, and a creation that
fails in between. -/
theorem mutexes_keep_to_themselves_after_handler :
    let steps : List (Step Simulation.Thread) :=
      [.install (some ({}, Simulation.Thread.runtime none)), .use {} (.create false),
        .use {} (.lock 0), .install none, .use {} (.create false), .use {} (.unlock 0),
        .use {} (.unlock 0)]
    let uses := turns Simulation.Thread.elsewhere none {} steps
    history uses 0 = [⟨.lock, some Status.ok⟩, ⟨.unlock, some Status.ok⟩,
        ⟨.unlock, some Status.mutexNotLocked⟩] ∧
      (∀ before c rest, history uses 0 = before ++ c :: rest →
        c.status = Mutex.answer (Mutex.held before) c.method) ∧
      ∀ use ∈ uses, use.action = .create false → use.active = none →
        use.result = .created (some Status.generalError) false := by
  intro steps uses
  have hthread : Faithful Simulation.Thread.elsewhere :=
    fun _ s => ⟨{ s with attached := false }, rfl⟩
  have hnone : Locking.Plain (none : Locking.Active Simulation.Thread) := nofun
  have hhandler : Locking.Plain
      (some (({} : MutexHandler Simulation.Thread), Simulation.Thread.runtime none)) := by
    rintro _ _ ⟨⟩
    refine ⟨MutexHandler.plain_of_create fun s m hm => ?_, fun s => rfl⟩
    cases hm
    rfl
  have hinstalls : ∀ active, .install active ∈ steps → Locking.Plain active := by
    intro active hactive
    simp only [steps, List.mem_cons, reduceCtorEq, Step.install.injEq, false_or, or_false,
      List.not_mem_nil] at hactive
    obtain rfl | rfl := hactive
    · exact hhandler
    · exact hnone
  obtain ⟨hstatus, -, hcreate⟩ := mutexes_keep_to_themselves hthread hnone steps hinstalls
    (by decide)
  refine ⟨by decide, hstatus 0, fun use huse haction hactive => ?_⟩
  exact ((hcreate use huse haction).1 hactive).1

end MutexTable

end Cryptoki
