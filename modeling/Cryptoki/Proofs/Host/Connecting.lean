import Cryptoki.Proofs.Host.Performed
import Cryptoki.Proofs.Registry.Connections
import Mathlib.Data.List.Induction

/-! Runs of an application that connects libraries, drops them, and makes requests. Which handles
are connected at the end can be told from the connecting and dropping alone
(`Host.library_run_iff`). -/

namespace Cryptoki

variable {κ η ρ μ : Type}

/-- What an application does. -/
inductive Act (κ η : Type) where
  | connect (library : Library)
  | disconnect (handle : Nat)
  | disconnectAll
  | request (handle : Nat) (request : Request κ η)

namespace Act

def isConnect : Act κ η → Bool
  | connect _ => true
  | _ => false

/-- The number of libraries that a run connects; they get the handles from zero on. -/
def connects (acts : List (Act κ η)) : Nat := acts.countP isConnect

/-- What disconnects a handle. -/
inductive Drops (handle : Nat) : Act κ η → Prop
  | one : Drops handle (.disconnect handle)
  | all : Drops handle .disconnectAll

/-- A handle that is not connected after a run: it has not been given out, or has been dropped
since. -/
inductive Absent (handle : Nat) : List (Act κ η) → Prop
  | unknown {acts : List (Act κ η)} : connects acts ≤ handle → Absent handle acts
  | dropped {before rest : List (Act κ η)} {act : Act κ η} : handle < connects before →
      act.Drops handle → Absent handle (before ++ act :: rest)

variable {handle : Nat} {acts : List (Act κ η)} {act : Act κ η}

theorem connects_append (acts acts' : List (Act κ η)) :
    connects (acts ++ acts') = connects acts + connects acts' :=
  List.countP_append

theorem Absent.append (h : Absent handle acts) (acts' : List (Act κ η))
    (hnew : connects (acts ++ acts') ≤ handle ∨ handle < connects acts) :
    Absent handle (acts ++ acts') := by
  cases h with
  | unknown hle =>
    rcases hnew with hnew | hnew
    · exact .unknown hnew
    · omega
  | dropped hlt hdrops =>
    rw [List.append_assoc, List.cons_append]
    exact .dropped hlt hdrops

theorem absent_append_of_drops (h : act.Drops handle) : Absent handle (acts ++ [act]) := by
  by_cases hlt : handle < connects acts
  · exact .dropped hlt h
  · refine .unknown ?_
    have hnone : connects [act] = 0 := by cases h <;> rfl
    rw [connects_append]
    omega

/-- An absent handle stays absent but by a connection that gives it out. -/
theorem absent_append_iff (h : ¬act.Drops handle) :
    Absent handle (acts ++ [act]) ↔
      Absent handle acts ∧ ¬(act.isConnect = true ∧ handle = connects acts) := by
  have hcount : connects [act] = if act.isConnect then 1 else 0 := by
    cases act <;> rfl
  have happend := connects_append acts [act]
  constructor
  · intro habsent
    generalize hall : acts ++ [act] = all at habsent
    cases habsent with
    | unknown hle =>
      rw [← hall, happend] at hle
      refine ⟨.unknown (by omega), ?_⟩
      rintro ⟨hconnect, rfl⟩
      rw [hcount, if_pos hconnect] at hle
      omega
    | @dropped before rest dropping hlt hdrops =>
      obtain ⟨-, rfl, -⟩ | ⟨rest, -, rfl⟩ := eq_or_exists_of_concat_eq hall
      · exact absurd hdrops h
      · refine ⟨.dropped hlt hdrops, ?_⟩
        rintro ⟨-, heq⟩
        have hlonger := connects_append before (dropping :: rest)
        omega
  · rintro ⟨habsent, hnew⟩
    refine habsent.append [act] ?_
    rw [happend, hcount]
    cases hconnect : act.isConnect with
    | false => simp; omega
    | true =>
      have hne : handle ≠ connects acts := fun heq => hnew ⟨hconnect, heq⟩
      simp; omega

end Act

namespace Host

variable {allocator : Allocator}

/-- The application after an act. -/
def after [Allocator] (replies : Replies η ρ μ) (host : Host κ η ρ μ) : Act κ η → Host κ η ρ μ
  | .connect library => ((connect library).run host).2
  | .disconnect handle => ((disconnect handle).run host).2
  | .disconnectAll => (disconnectAll.run host).2
  | .request handle request => ((perform replies handle request).run host).2

/-- The application after acts, one after the other. -/
def run [Allocator] (replies : Replies η ρ μ) (host : Host κ η ρ μ) (acts : List (Act κ η)) :
    Host κ η ρ μ :=
  acts.foldl (after replies) host

theorem run_append [Allocator] (replies : Replies η ρ μ) (host : Host κ η ρ μ)
    (acts acts' : List (Act κ η)) :
    run replies host (acts ++ acts') = run replies (run replies host acts) acts' :=
  List.foldl_append

theorem run_concat {replies : Replies η ρ μ} {host : Host κ η ρ μ} (acts : List (Act κ η))
    (act : Act κ η) :
    run replies host (acts ++ [act]) = after replies (run replies host acts) act :=
  run_append replies host acts [act]

/-- An application that has connected nothing. -/
def fresh (runtime : ρ) (activeHandler : Option (η × ρ)) (modules : μ) : Host κ η ρ μ :=
  { runtime := runtime, activeHandler := activeHandler, modules := modules }

/-- An application that has connected a library under the handle zero. -/
def connected (library : Library) : Host Unit Unit Unit Unit :=
  ((connect library).run (fresh () none ())).2

/-- A module that answers every call with success. -/
def succeeding : Replies Unit Unit Unit := fun _ _ _ => pure {}

/-- The connected handles of an application are those that are not absent after the acts. -/
structure Reached (acts : List (Act κ η)) (host : Host κ η ρ μ) : Prop where
  handles : host.handles.length = Act.connects acts
  nodup : host.connections.keys.Nodup
  connected : ∀ handle, handle ∈ host.connections.keys ↔ ¬Act.Absent handle acts

theorem disconnect_run (host : Host κ η ρ μ) (handle : Nat) :
    ((disconnect handle).run host).2 =
      { host with connections := (host.connections.remove handle).2 } := by
  unfold disconnect
  simp only [StateT.run]
  split
  next library connections hremove => rw [hremove]
  next connections hremove =>
    have hkept := Connections.remove_of_fst_eq_none (congrArg Prod.fst hremove)
    rw [hkept]

namespace Reached

variable {acts : List (Act κ η)} {host : Host κ η ρ μ}

theorem fresh (runtime : ρ) (activeHandler : Option (η × ρ)) (modules : μ) :
    Reached ([] : List (Act κ η)) (Host.fresh runtime activeHandler modules : Host κ η ρ μ) where
  handles := rfl
  nodup := List.nodup_nil
  connected handle := ⟨nofun, fun h => absurd (.unknown (Nat.zero_le handle)) h⟩

theorem connect (h : Reached acts host) (library : Library) :
    Reached (acts ++ [.connect library]) ((Host.connect library).run host).2 := by
  have hnew : host.handles.length ∉ host.connections.keys := fun hmem =>
    (h.connected _).mp hmem (.unknown (Nat.le_of_eq h.handles.symm))
  have hkeys := Connections.keys_put_of_not_mem hnew library
  refine { handles := ?_, nodup := ?_, connected := fun handle => ?_ }
  · show (host.handles ++ [_]).length = _
    rw [List.length_append, h.handles, Act.connects_append]
    rfl
  · show (host.connections.put host.handles.length library).keys.Nodup
    rw [hkeys, List.nodup_append_comm]
    exact List.nodup_cons.mpr ⟨hnew, h.nodup⟩
  · show handle ∈ (host.connections.put host.handles.length library).keys ↔ _
    have hnodrop : ¬(Act.connect library : Act κ η).Drops handle := nofun
    rw [hkeys, List.mem_append, List.mem_singleton, h.connected, Act.absent_append_iff hnodrop,
      h.handles]
    simp only [Act.isConnect, true_and]
    tauto

theorem disconnect (h : Reached acts host) (handle : Nat) :
    Reached (acts ++ [.disconnect handle]) ((Host.disconnect handle).run host).2 := by
  rw [disconnect_run]
  refine { handles := ?_, nodup := ?_, connected := fun k => ?_ }
  · rw [Act.connects_append]
    exact h.handles
  · exact Connections.nodup_keys_remove h.nodup handle
  · rw [Connections.mem_keys_remove h.nodup, h.connected]
    by_cases hk : k = handle
    · subst hk
      have habsent : Act.Absent k (acts ++ [.disconnect k]) := Act.absent_append_of_drops .one
      simp [habsent]
    · have hnodrop : ¬(Act.disconnect handle : Act κ η).Drops k := by
        rintro ⟨⟩
        exact hk rfl
      rw [Act.absent_append_iff hnodrop]
      simp [Act.isConnect, hk]

theorem disconnectAll (h : Reached acts host) :
    Reached (acts ++ [.disconnectAll]) (Host.disconnectAll.run host).2 where
  handles := by
    rw [Act.connects_append]
    exact h.handles
  nodup := List.nodup_nil
  connected _ := ⟨nofun, fun hk => absurd (Act.absent_append_of_drops .all) hk⟩

theorem request (h : Reached acts host) (replies : Replies η ρ μ) (handle : Nat)
    (request : Request κ η) :
    Reached (acts ++ [.request handle request])
      ((perform replies handle request).run host).2 := by
  obtain ⟨hconnections, hhandles, -⟩ :=
    (perform_performed replies handle host request).sameConnections
  refine { handles := ?_, nodup := ?_, connected := fun k => ?_ }
  · rw [hhandles, h.handles, Act.connects_append]
    rfl
  · rw [hconnections]
    exact h.nodup
  · have hnodrop : ¬(Act.request handle request : Act κ η).Drops k := nofun
    rw [hconnections, h.connected, Act.absent_append_iff hnodrop]
    simp [Act.isConnect]

theorem after (h : Reached acts host) (replies : Replies η ρ μ) (act : Act κ η) :
    Reached (acts ++ [act]) (Host.after replies host act) := by
  cases act with
  | connect library => exact h.connect library
  | disconnect handle => exact h.disconnect handle
  | disconnectAll => exact h.disconnectAll
  | request handle request => exact h.request replies handle request

end Reached

theorem run_reached [Allocator] (replies : Replies η ρ μ) (runtime : ρ)
    (activeHandler : Option (η × ρ)) (modules : μ) (acts : List (Act κ η)) :
    Reached acts (run replies (fresh runtime activeHandler modules) acts) := by
  induction acts using List.reverseRecOn with
  | nil => exact .fresh runtime activeHandler modules
  | append_singleton acts act ih =>
    rw [run_concat]
    exact ih.after replies act

/-- After any run, a handle is connected exactly when it has been given out and not been dropped
since. -/
theorem library_run_iff (replies : Replies η ρ μ) (runtime : ρ) (activeHandler : Option (η × ρ))
    (modules : μ) (acts : List (Act κ η)) (handle : Nat) :
    (run replies (fresh runtime activeHandler modules) acts).library handle =
      .error .disconnected ↔ Act.Absent handle acts := by
  have hreached := (run_reached replies runtime activeHandler modules acts).connected handle
  rw [← not_iff_not, ← hreached, ← not_iff_not, not_not, ← Connections.get?_eq_none_iff]
  unfold library
  cases (run replies (fresh runtime activeHandler modules) acts).connections.get? handle <;> simp

end Host

end Cryptoki
