import Cryptoki.Memory
import Mathlib.Data.List.Forall2

/-! When a computation that can fail succeeds, one step after another and one element of a list
after another, and what it can fail with. -/

namespace Cryptoki

theorem bind_eq_ok_iff {α β ε : Type} {x : Except ε α} {f : α → Except ε β} {b : β} :
    x >>= f = .ok b ↔ ∃ a, x = .ok a ∧ f a = .ok b := by
  cases x <;> simp [bind, Except.bind]

theorem ne_error_of_bind {α β ε : Type} {x : Except ε α} {f : α → Except ε β} {e : ε}
    (h : x >>= f ≠ .error e) : x ≠ .error e := by
  rintro rfl
  exact h rfl

theorem exists_unit_iff {p : Unit → Prop} : (∃ u, p u) ↔ p () :=
  ⟨fun ⟨_, h⟩ => h, fun h => ⟨(), h⟩⟩

theorem pure_eq_ok_iff {α ε : Type} {a b : α} : (pure a : Except ε α) = .ok b ↔ a = b := by
  simp [pure, Except.pure]

theorem map_eq_error_iff {α β ε : Type} {x : Except ε α} {f : α → β} {e : ε} :
    (do return f (← x)) = .error e ↔ x = .error e := by
  cases x <;> simp [bind, Except.bind, pure, Except.pure]

theorem liftM_eq_ok_iff {α : Type} {x : Except Error α} {a : α} :
    (liftM x : Except Fault α) = .ok a ↔ x = .ok a := by
  cases x <;> simp [liftM, monadLift, MonadLift.monadLift]

theorem liftM_eq_error_iff {α : Type} {x : Except Error α} {fault : Fault} :
    (liftM x : Except Fault α) = .error fault ↔ ∃ e, x = .error e ∧ fault = .error e := by
  cases x <;> simp [liftM, monadLift, MonadLift.monadLift, eq_comm]

/-- A list is worked through exactly when each of its elements is. -/
theorem mapM_eq_ok_iff {α β ε : Type} {f : α → Except ε β} {l : List α} {l' : List β} :
    l.mapM f = .ok l' ↔ List.Forall₂ (fun a b => f a = .ok b) l l' := by
  induction l generalizing l' with
  | nil => rw [List.mapM_nil, pure_eq_ok_iff, List.forall₂_nil_left_iff, eq_comm]
  | cons a l ih =>
    simp only [List.mapM_cons, bind_eq_ok_iff, pure_eq_ok_iff, ih, List.forall₂_cons_left_iff]
    constructor
    · rintro ⟨b, hb, bs, hbs, rfl⟩
      exact ⟨b, bs, hb, hbs, rfl⟩
    · rintro ⟨b, bs, hb, hbs, rfl⟩
      exact ⟨b, hb, bs, hbs, rfl⟩

theorem exists_mapM_eq_ok {α β ε : Type} {f : α → Except ε β} {l : List α}
    (h : ∀ a ∈ l, ∃ b, f a = .ok b) : ∃ l', l.mapM f = .ok l' := by
  simp only [mapM_eq_ok_iff]
  induction l with
  | nil => exact ⟨[], .nil⟩
  | cons a l ih =>
    obtain ⟨b, hb⟩ := h a List.mem_cons_self
    obtain ⟨l', hl'⟩ := ih fun a' ha' => h a' (List.mem_cons_of_mem a ha')
    exact ⟨b :: l', .cons hb hl'⟩

theorem mapM_eq_of_forall₂ {α β γ ε : Type} {f : α → Except ε γ} {g : β → Except ε γ} {l : List α}
    {l' : List β} (h : List.Forall₂ (fun a b => f a = g b) l l') : l.mapM f = l'.mapM g := by
  induction h with
  | nil => rfl
  | cons hab _ ih => rw [List.mapM_cons, List.mapM_cons, hab, ih]

theorem findIdx?_eq_of_forall₂ {α β : Type} {f : α → Bool} {g : β → Bool} {l : List α} {l' : List β}
    (h : List.Forall₂ (fun a b => f a = g b) l l') : l.findIdx? f = l'.findIdx? g := by
  induction h with
  | nil => rfl
  | cons hab _ ih => rw [List.findIdx?_cons, List.findIdx?_cons, hab, ih]

theorem forall₂_mem_right {α β : Type} {R : α → β → Prop} {l : List α} {l' : List β}
    (h : List.Forall₂ R l l') {b : β} (hb : b ∈ l') : ∃ a ∈ l, R a b := by
  induction h with
  | nil => cases hb
  | @cons a _ l _ hR _ ih =>
    rcases List.mem_cons.mp hb with rfl | hb
    · exact ⟨a, List.mem_cons_self, hR⟩
    · obtain ⟨a', ha', hR'⟩ := ih hb
      exact ⟨a', List.mem_cons_of_mem a ha', hR'⟩

theorem Word.ofLength_eq_ok {n : Nat} (h : n < UInt64.size) : ofLength n = .ok (.ofNat n) :=
  if_pos h

/-! ### What a computation comes to -/

/-- A computation that succeeds comes to what satisfies `Q`, and one that fails, to a failure that
satisfies `P`. -/
def Meets {α ε : Type} (P : ε → Prop) (Q : α → Prop) : Except ε α → Prop
  | .ok a => Q a
  | .error e => P e

/-- A computation fails, if it does, with what satisfies `P`. -/
abbrev FailsWith {α ε : Type} (P : ε → Prop) (x : Except ε α) : Prop := Meets P (fun _ => True) x

namespace Meets

variable {α β ε : Type} {P P' : ε → Prop} {Q Q' : α → Prop} {x : Except ε α}

theorem of_ok {a : α} (h : Meets P Q x) (hx : x = .ok a) : Q a := by
  subst hx
  exact h

theorem of_error {e : ε} (h : Meets P Q x) (hx : x = .error e) : P e := by
  subst hx
  exact h

theorem mono (h : Meets P Q x) (hP : ∀ e, P e → P' e) (hQ : ∀ a, Q a → Q' a) : Meets P' Q' x := by
  cases x with
  | ok a => exact hQ a h
  | error e => exact hP e h

theorem failsWith (h : Meets P Q x) (hP : ∀ e, P e → P' e) : FailsWith P' x :=
  h.mono hP fun _ _ => trivial

theorem pure {a : α} (h : Q a) : Meets P Q (Pure.pure a) := h

theorem bind {Q : β → Prop} {f : α → Except ε β} (hx : FailsWith P x)
    (hf : ∀ a, x = .ok a → Meets P Q (f a)) : Meets P Q (x >>= f) := by
  cases x with
  | ok a => exact hf a rfl
  | error e => exact hx

theorem map {Q : β → Prop} {f : α → β} (hx : FailsWith P x) (hf : ∀ a, Q (f a)) :
    Meets P Q (do return f (← x)) :=
  hx.bind fun a _ => hf a

theorem lift {P : Fault → Prop} {x : Except Error α} (h : Meets (fun e => P (.error e)) Q x) :
    Meets P Q (liftM x : Except Fault α) := by
  cases x <;> exact h

theorem mapM {f : α → Except ε β} {l : List α} (h : ∀ a ∈ l, FailsWith P (f a)) :
    FailsWith P (l.mapM f) := by
  induction l with
  | nil => exact trivial
  | cons a l ih =>
    rw [List.mapM_cons]
    refine bind (h a List.mem_cons_self) fun b _ => ?_
    exact map (ih fun a' ha' => h a' (List.mem_cons_of_mem a ha')) fun _ => trivial

end Meets

/-- The failure that a computation comes to. -/
def failure? {α ε : Type} : Except ε α → Option ε
  | .ok _ => none
  | .error e => some e

section

variable {α β ε : Type} {x : Except ε α}

/-- The failure of the second step is known once the first one has succeeded. -/
theorem failure?_bind {f : α → Except ε β} {o : Option ε}
    (h : ∀ a, x = .ok a → failure? (f a) = o) :
    failure? (x >>= f) = (failure? x).or o := by
  cases x with
  | ok a => exact h a rfl
  | error e => rfl

theorem failure?_map {f : α → β} : failure? (do return f (← x)) = failure? x := by
  cases x <;> rfl

theorem Meets.failure?_eq_none (h : FailsWith (fun _ => False) x) : failure? x = none := by
  cases x with
  | ok a => rfl
  | error e => exact h.elim

end

theorem failure?_liftM {α : Type} {x : Except Error α} :
    failure? (liftM x : Except Fault α) = (failure? x).map .error := by
  cases x <;> rfl

/-- A number of bytes rounded up to whole words. -/
def wholeWords (n : Nat) : Nat := (n + (wordSize - 1)) / wordSize * wordSize

theorem le_wholeWords (n : Nat) : n ≤ wholeWords n := by
  unfold wholeWords wordSize
  omega

end Cryptoki
