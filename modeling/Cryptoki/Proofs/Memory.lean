import Cryptoki.Proofs.Outcome

/-! What the host can allocate: a buffer that is set aside succeeds exactly when it can be had, and
a list of buffers exactly when each of them can. -/

namespace Cryptoki

namespace Memory

variable {allocator : Allocator} {d : Demand} {demands demands' : List Demand}

namespace Demand

theorem met_of_total_eq_zero (h : d.total = 0) : d.Met := .inl h

theorem Met.total_le (h : d.Met) : d.total ≤ maximum := by
  obtain h | ⟨h, -⟩ := h
  · exact h ▸ Nat.zero_le _
  · omega

theorem Met.bytes_lt {n : Nat} (h : (Demand.bytes n).Met) : n < UInt64.size := by
  have : n * 1 ≤ maximum := h.total_le
  have : maximum < UInt64.size := by decide
  omega

theorem Met.words_lt {n : Nat} (h : (Demand.words n).Met) : n * wordSize < UInt64.size := by
  have : n * wordSize ≤ maximum := h.total_le
  have : maximum < UInt64.size := by decide
  omega

@[simp] theorem bytes_zero_met : (Demand.bytes 0).Met := met_of_total_eq_zero rfl

@[simp] theorem chars_zero_met : (Demand.chars 0).Met := met_of_total_eq_zero rfl

@[simp] theorem gathered_zero (size align capacity : Nat) : gathered size align capacity 0 = [] :=
  rfl

end Demand

@[simp] theorem affords_nil : Affords [] := by simp [Affords]

@[simp] theorem affords_cons : Affords (d :: demands) ↔ d.Met ∧ Affords demands := by
  simp [Affords]

@[simp] theorem affords_append :
    Affords (demands ++ demands') ↔ Affords demands ∧ Affords demands' := by
  simp only [Affords, List.forall_mem_append]

theorem affords_flatMap {α : Type} {l : List α} {f : α → List Demand} :
    Affords (l.flatMap f) ↔ ∀ a ∈ l, Affords (f a) := by
  simp only [Affords, List.mem_flatMap]
  exact ⟨fun h a ha d hd => h d ⟨a, ha, hd⟩, fun h d ⟨a, ha, hd⟩ => h a ha d hd⟩

/-! ### Buffers whose want is reported -/

theorem reserve_eq_ok_iff : reserve d = .ok () ↔ d.Met := by
  unfold reserve Demand.Met
  split
  · simp [*]
  · split
    · next hmaximum => simp [*, Nat.not_le.mpr hmaximum]
    · next hmaximum => split <;> simp [*, Nat.not_lt.mp hmaximum]

theorem reserveStorage_eq_ok_iff : reserveStorage d = .ok () ↔ d.Met := by
  rw [← reserve_eq_ok_iff]
  unfold reserveStorage
  cases reserve d <;> simp

/-- What is returned after room was set aside for it is returned when there is that room. -/
theorem reserved_eq_ok_iff {α : Type} {x y : α} :
    (do
      reserveStorage d
      return x) = .ok y ↔ x = y ∧ d.Met := by
  simp only [bind_eq_ok_iff, pure_eq_ok_iff, ← reserveStorage_eq_ok_iff]
  constructor
  · rintro ⟨⟨⟩, hroom, hxy⟩
    exact ⟨hxy, hroom⟩
  · rintro ⟨hxy, hroom⟩
    exact ⟨(), hroom, hxy⟩

theorem allocateBytes_eq_ok_iff {count : Nat} {bytes : List UInt8} :
    allocateBytes count = .ok bytes ↔
      (Demand.bytes count).Met ∧ bytes = List.replicate count 0 := by
  rw [← reserve_eq_ok_iff]
  unfold allocateBytes
  cases reserve (.bytes count) <;> simp [eq_comm]

theorem allocateWords_eq_ok_iff {count : Nat} {words : List Word} :
    allocateWords count = .ok words ↔
      (Demand.words count).Met ∧ words = List.replicate count 0 := by
  rw [← reserve_eq_ok_iff]
  unfold allocateWords
  cases reserve (.words count) <;> simp [eq_comm]

/-! ### Buffers whose want ends the host -/

theorem insist_of_met (h : d.Met) : insist d = .ok () := if_pos h

theorem insist_of_not_met (h : ¬d.Met) : insist d = .error .abort := if_neg h

theorem insistAll_of_affords (h : Affords demands) : insistAll demands = .ok () := by
  induction demands with
  | nil => rfl
  | cons d demands ih =>
    obtain ⟨hd, hdemands⟩ := affords_cons.mp h
    rw [insistAll, insist_of_met hd]
    exact ih hdemands

theorem insistAll_of_not_affords (h : ¬Affords demands) : insistAll demands = .error .abort := by
  induction demands with
  | nil => exact absurd affords_nil h
  | cons d demands ih =>
    rw [insistAll]
    by_cases hd : d.Met
    · rw [insist_of_met hd]
      exact ih fun hdemands => h (affords_cons.mpr ⟨hd, hdemands⟩)
    · rw [insist_of_not_met hd]
      rfl

theorem insistAll_eq_ok_iff : insistAll demands = .ok () ↔ Affords demands := by
  by_cases h : Affords demands
  · simp [insistAll_of_affords h, h]
  · simp [insistAll_of_not_affords h, h]

/-! ### What a computation insists on -/

section

variable {α β ε : Type}

/-- The buffers that are asked for once a step has succeeded. -/
def afterwards (x : Except ε α) (next : α → List Demand) : List Demand :=
  match x with
  | .ok a => next a
  | .error _ => []

theorem afterwards_nil (x : Except ε α) : afterwards x (fun _ => []) = [] := by
  cases x <;> rfl

/-- The buffers that are asked for as a list is worked through, up to the first failure. -/
def throughout (f : α → Except ε β) (asked : α → List Demand) : List α → List Demand
  | [] => []
  | a :: l => asked a ++ afterwards (f a) fun _ => throughout f asked l

/-- A computation ends the host exactly when one of these buffers cannot be had, and what it comes
to otherwise satisfies `Q`. -/
structure Insists [Allocator] (demands : List Demand) (Q : α → Prop) (x : Except Fault α) :
    Prop where
  abort_iff : x = .error .abort ↔ ¬Affords demands
  of_ok : ∀ a, x = .ok a → Q a

/-- A computation ends the host exactly when one of these buffers cannot be had. -/
abbrev Asks [Allocator] (demands : List Demand) (x : Except Fault α) : Prop :=
  Insists demands (fun _ => True) x

namespace Insists

variable {Q : α → Prop}

theorem pure {a : α} (h : Q a) : Insists [] Q (Pure.pure a) where
  abort_iff := iff_of_false nofun fun h => h affords_nil
  of_ok := by
    rintro _ ⟨⟩
    exact h

theorem lift (x : Except Error α) : Asks [] (liftM x : Except Fault α) where
  abort_iff := by
    rw [liftM_eq_error_iff]
    exact iff_of_false nofun fun h => h affords_nil
  of_ok _ _ := trivial

theorem insist (d : Demand) : Asks [d] (insist d) where
  abort_iff := by
    by_cases h : d.Met
    · simp [insist_of_met h, h]
    · simp [insist_of_not_met h, h]
  of_ok _ _ := trivial

theorem insistAll (demands : List Demand) : Asks demands (insistAll demands) where
  abort_iff := by
    by_cases h : Affords demands
    · simp [insistAll_of_affords h, h]
    · simp [insistAll_of_not_affords h, h]
  of_ok _ _ := trivial

theorem ofError {fault : Fault} (h : Asks demands (.error fault : Except Fault β)) :
    Insists demands Q (.error fault : Except Fault α) where
  abort_iff := by
    rw [← h.abort_iff, Except.error.injEq, Except.error.injEq]
  of_ok := nofun

theorem bind {x : Except Fault β} {f : β → Except Fault α} {next : β → List Demand}
    (hx : Asks demands x) (hf : ∀ b, x = .ok b → Insists (next b) Q (f b)) :
    Insists (demands ++ afterwards x next) Q (x >>= f) := by
  cases x with
  | ok b =>
    have hdemands : Affords demands := not_not.mp (mt hx.abort_iff.mpr nofun)
    refine ⟨?_, (hf b rfl).of_ok⟩
    rw [affords_append, and_iff_right hdemands]
    exact (hf b rfl).abort_iff
  | error fault =>
    rw [afterwards, List.append_nil]
    exact hx.ofError

theorem bindLift {x : Except Error β} {f : β → Except Fault α} {next : β → List Demand}
    (hf : ∀ b, x = .ok b → Insists (next b) Q (f b)) :
    Insists (afterwards x next) Q (liftM x >>= f) := by
  cases x with
  | ok b => exact hf b rfl
  | error e => exact ⟨iff_of_false nofun fun h => h affords_nil, nofun⟩

theorem congr {x : Except Fault α} (h : Insists demands Q x)
    (hdemands : Affords demands ↔ Affords demands') : Insists demands' Q x :=
  ⟨h.abort_iff.trans (not_congr hdemands), h.of_ok⟩

/-- After the first step nothing is insisted on. -/
theorem last {x : Except Fault β} {f : β → Except Fault α} (hx : Asks demands x)
    (hf : ∀ b, x = .ok b → Insists [] Q (f b)) : Insists demands Q (x >>= f) := by
  have h := hx.bind hf
  rwa [afterwards_nil, List.append_nil] at h

theorem map {x : Except Fault β} {f : β → α} (hx : Asks demands x) (hf : ∀ b, Q (f b)) :
    Insists demands Q (do return f (← x)) :=
  hx.last fun b _ => .pure (hf b)

theorem mapM {f : β → Except Fault α} {asked : β → List Demand} {l : List β}
    (h : ∀ b ∈ l, Asks (asked b) (f b)) : Asks (throughout f asked l) (l.mapM f) := by
  induction l with
  | nil => exact .pure trivial
  | cons b l ih =>
    rw [List.mapM_cons]
    refine .bind (h b List.mem_cons_self) fun _ _ => ?_
    exact .map (ih fun b' hb' => h b' (List.mem_cons_of_mem b hb')) fun _ => trivial

end Insists

end

end Memory

end Cryptoki
