import Cryptoki.Proofs.Host.Connecting
import Cryptoki.Proofs.Registry.FiniteMap
import Cryptoki.Simulation.Memory

/-! Handles of an application. What it does uses its connections one time after the other, so they
answer as a finite map does, and a handle leads to the library that it was given out for until it is
dropped (`Host.connections_refine_map`). -/

namespace Cryptoki

variable {κ η ρ μ : Type}

namespace Act

/-- The use that an act makes of the connections; `next` is the handle to be given out next. -/
def use (next : Nat) : Act κ η → Connections.Use Nat Library
  | connect library => .put next library
  | disconnect handle => .remove handle
  | disconnectAll => .removeAll
  | request handle _ => .get handle

/-- The uses that acts make of the connections, with handles given out from `next` on. -/
def uses : (next : Nat) → (acts : List (Act κ η)) → List (Connections.Use Nat Library)
  | _, [] => []
  | next, act :: acts => act.use next :: uses (next + connects [act]) acts

/-- A handle has been given out for a library and not been dropped since. -/
def Live (handle : Nat) (library : Library) (acts : List (Act κ η)) : Prop :=
  ∃ before rest, acts = before ++ connect library :: rest ∧ connects before = handle ∧
    ∀ act ∈ rest, ¬act.Drops handle

variable {handle : Nat} {library : Library} {acts : List (Act κ η)} {act : Act κ η}

theorem connects_lt_append_connect (before rest : List (Act κ η)) (library : Library) :
    connects before < connects (before ++ connect library :: rest) := by
  rw [connects_append]
  exact Nat.lt_add_of_pos_right (List.countP_pos_iff.mpr ⟨_, List.mem_cons_self, rfl⟩)

theorem Live.lt (h : Live handle library acts) : handle < connects acts := by
  obtain ⟨before, rest, rfl, rfl, -⟩ := h
  exact connects_lt_append_connect before rest library

/-- A handle is live after one more act if the act gives it out, or does not drop it. -/
theorem live_concat_iff : Live handle library (acts ++ [act]) ↔
    act = connect library ∧ connects acts = handle ∨
      Live handle library acts ∧ ¬act.Drops handle := by
  constructor
  · rintro ⟨before, rest, heq, hcount, hkept⟩
    obtain ⟨rfl, rfl, -⟩ | ⟨rest, rfl, rfl⟩ := eq_or_exists_of_concat_eq heq
    · exact .inl ⟨rfl, hcount⟩
    · refine .inr ⟨⟨before, rest, rfl, hcount, fun a ha => ?_⟩, ?_⟩
      · exact hkept a (List.mem_append_left _ ha)
      · exact hkept act (List.mem_append_right _ List.mem_cons_self)
  · rintro (⟨rfl, hcount⟩ | ⟨⟨before, rest, rfl, hcount, hkept⟩, hdrops⟩)
    · exact ⟨acts, [], rfl, hcount, List.forall_mem_nil _⟩
    · refine ⟨before, rest ++ [act], by simp, hcount, fun a ha => ?_⟩
      rcases List.mem_append.mp ha with ha | ha
      · exact hkept a ha
      · rwa [List.mem_singleton.mp ha]

end Act

namespace Host

variable {allocator : Allocator} {host : Host κ η ρ μ} {handle : Nat} {library : Library}
  {acts : List (Act κ η)}

theorem after_connections [Allocator] (replies : Replies η ρ μ) (host : Host κ η ρ μ)
    (act : Act κ η) :
    (after replies host act).connections =
        (host.connections.use (act.use host.handles.length)).2 ∧
      (after replies host act).handles.length = host.handles.length + Act.connects [act] := by
  cases act with
  | connect library => exact ⟨rfl, List.length_append⟩
  | disconnect handle =>
    rw [after, disconnect_run]
    exact ⟨rfl, rfl⟩
  | disconnectAll => exact ⟨rfl, rfl⟩
  | request handle request =>
    have hsame := (perform_performed replies handle host request).sameConnections
    exact ⟨hsame.connections, hsame.handles⟩

/-- A run makes the uses of its acts of the connections. -/
theorem run_connections [Allocator] (replies : Replies η ρ μ) (host : Host κ η ρ μ)
    (acts : List (Act κ η)) :
    (run replies host acts).connections =
      host.connections.after (Act.uses host.handles.length acts) := by
  induction acts generalizing host with
  | nil => rfl
  | cons act acts ih =>
    obtain ⟨hconnections, hhandles⟩ := after_connections replies host act
    refine (ih (after replies host act)).trans ?_
    rw [hconnections, hhandles]
    rfl

/-- An application holds the library of every live handle, and no other. -/
theorem get?_run_iff [Allocator] (replies : Replies η ρ μ) (runtime : ρ)
    (activeHandler : Option (η × ρ)) (modules : μ) (acts : List (Act κ η)) (handle : Nat)
    (library : Library) :
    (run replies (fresh runtime activeHandler modules) acts).connections.get? handle =
      some library ↔ Act.Live handle library acts := by
  induction acts using List.reverseRecOn with
  | nil =>
    refine iff_of_false (fun h => Option.some_ne_none library h.symm) ?_
    rintro ⟨before, rest, heq, -⟩
    simp at heq
  | append_singleton acts act ih =>
    have hreached := run_reached replies runtime activeHandler modules acts
    generalize hhost : run replies (fresh runtime activeHandler modules) acts = host
      at ih hreached
    rw [run_concat, hhost, (after_connections replies host act).1, hreached.handles,
      Act.live_concat_iff, ← ih]
    cases act with
    | connect other =>
      have hkeeps : ¬(Act.connect other : Act κ η).Drops handle := by rintro ⟨⟩
      by_cases hnew : handle = Act.connects acts
      · have hold : ¬host.connections.get? handle = some library := fun h =>
          (ih.mp h).lt.ne hnew
        subst hnew
        simp [Act.use, Connections.use, Connections.get?_put_self, hold]
      · simp [Act.use, Connections.use, Connections.get?_put_of_ne hnew, hkeeps, Ne.symm hnew]
    | disconnect k =>
      by_cases hk : handle = k
      · subst hk
        have hdrops : (Act.disconnect handle : Act κ η).Drops handle := .one
        simp [Act.use, Connections.use, Connections.get?_remove_self hreached.nodup, hdrops]
      · have hkeeps : ¬(Act.disconnect k : Act κ η).Drops handle := by
          rintro ⟨⟩
          exact hk rfl
        simp [Act.use, Connections.use, Connections.get?_remove_of_ne hreached.nodup hk, hkeeps]
    | disconnectAll =>
      have hdrops : (Act.disconnectAll : Act κ η).Drops handle := .all
      refine iff_of_false (fun h => Option.some_ne_none library h.symm) ?_
      simp [hdrops]
    | request k request =>
      have hkeeps : ¬(Act.request k request : Act κ η).Drops handle := by rintro ⟨⟩
      simp [Act.use, Connections.use, hkeeps]

theorem disconnect_answer (host : Host κ η ρ μ) (handle : Nat) :
    ((disconnect handle).run host).1 =
      if host.isConnected handle then .ok () else .error .disconnected := by
  unfold disconnect isConnected
  simp only [StateT.run, ← Connections.remove_fst]
  split
  next hremove => rw [hremove]; rfl
  next hremove => rw [hremove]; rfl

theorem isConnected_eq_false_iff (host : Host κ η ρ μ) (handle : Nat) :
    host.isConnected handle = false ↔ host.library handle = .error .disconnected := by
  unfold isConnected library
  cases host.connections.get? handle <;> simp

theorem library_eq_ok_iff (host : Host κ η ρ μ) (handle : Nat) (library : Library) :
    host.library handle = .ok library ↔ host.connections.get? handle = some library := by
  unfold Host.library
  cases host.connections.get? handle <;> simp

/-- A handle that is given out and dropped again is not connected, whatever is done then: no other
library gets it. -/
theorem isConnected_run_dropped (replies : Replies η ρ μ) (runtime : ρ)
    (activeHandler : Option (η × ρ)) (modules : μ) (acts between rest : List (Act κ η))
    (library : Library) :
    (run replies (run replies (fresh runtime activeHandler modules) acts)
      (.connect library :: between ++ .disconnect (Act.connects acts) :: rest)).isConnected
        (Act.connects acts) = false := by
  have habsent : Act.Absent (Act.connects acts)
      (acts ++ .connect library :: between ++ .disconnect (Act.connects acts) :: rest) :=
    .dropped (Act.connects_lt_append_connect acts between library) .one
  rw [isConnected_eq_false_iff, ← run_append, ← List.append_assoc, library_run_iff]
  exact habsent

/-- Connections used in any way, and in particular by an application, answer as the finite map that
the same uses make of the empty one. A handle of an application leads to its library from the time
it is given out until it is dropped, alone or with all others, and is disconnected from then on. -/
theorem connections_refine_map {ι α : Type} [DecidableEq ι] (uses : List (Connections.Use ι α))
    (replies : Replies η ρ μ) (runtime : ρ) (activeHandler : Option (η × ρ)) (modules : μ)
    (acts : List (Act κ η)) :
    let used := (Connections.empty : Connections ι α).after uses
    let host := run replies (fresh runtime activeHandler modules) acts
    let new := Act.connects acts
    (used.keys.Nodup ∧ Connections.Answers ∅ uses (Connections.empty.outcomes uses) ∧
      ∀ key, used.get? key =
        (Connections.empty.after (uses.filter (Connections.Use.concerns key))).get? key) ∧
    host.connections = Connections.empty.after (Act.uses 0 acts) ∧
    (∀ handle,
      (∀ library, host.library handle = .ok library ↔ Act.Live handle library acts) ∧
      (host.isConnected handle = true ↔ ∃ library, Act.Live handle library acts) ∧
      ((disconnect handle).run host).1 =
        if host.isConnected handle then .ok () else .error .disconnected) ∧
    (∀ library, ((connect library).run host).1 = new) ∧
    ∀ library between rest, ((disconnect new).run (run replies host
      (.connect library :: between ++ .disconnect new :: rest))).1 = .error .disconnected := by
  intro used host new
  have hget := get?_run_iff replies runtime activeHandler modules acts
  have hreached := run_reached replies runtime activeHandler modules acts
  refine ⟨⟨?_, ?_, ?_⟩, ?_, fun handle => ⟨fun library => ?_, ?_, ?_⟩, ?_, ?_⟩
  · exact (Connections.Represents.empty.after uses).2.nodup
  · exact Connections.answers_outcomes uses
  · exact Connections.get?_after_filter uses
  · exact run_connections replies _ acts
  · rw [library_eq_ok_iff, hget]
  · simp only [isConnected, Option.isSome_iff_exists]
    exact exists_congr fun library => hget handle library
  · exact disconnect_answer host handle
  · exact fun library => hreached.handles
  · intro library between rest
    rw [disconnect_answer, isConnected_run_dropped]
    rfl

end Host

namespace Host

open Simulation

/-- Two handles of one library are told apart: dropping the one keeps the other. -/
example :
    let library : Library := ⟨"tokens", none, false⟩
    let acts : List (Act Unit Unit) := [.connect library, .connect library, .disconnect 0]
    let host := run succeeding (fresh () none ()) acts
    host.name 0 = host.name 1 ∧ host.isConnected 0 = false ∧ host.isConnected 1 = true := by
  decide

end Host

end Cryptoki
