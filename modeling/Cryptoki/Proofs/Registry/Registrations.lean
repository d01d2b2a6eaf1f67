import Cryptoki.Callback.Notification
import Cryptoki.Proofs.Exchanges
import Mathlib.Data.List.Induction

/-! What becomes of registrations. They are numbered in the order in which they are put. At every
point of a run each number is either still present or gone, what is present stands in the order of
the numbers, and a removal takes the least number of its session (`Registrations.uses_account`). -/

namespace Cryptoki

/-- A callback on an attached thread depends on what it does once the thread is attached. -/
theorem Runtime.attached_congr {σ α : Type} (runtime : Runtime σ)
    {callback callback' : StateM σ (Ending α)} (s : σ)
    (h : callback (runtime.guard s).2 = callback' (runtime.guard s).2) :
    runtime.attached callback s = runtime.attached callback' s := by
  unfold Runtime.attached
  rcases hguard : runtime.guard s with ⟨outcome, s'⟩
  rw [hguard] at h
  rw [bind_of_eq hguard, bind_of_eq hguard]
  cases outcome with
  | error e => rfl
  | ok attachedHere => simp only [bind, StateT.bind, h]

namespace Registrations

variable {ρ : Type} {r : Registrations ρ} {session : Word} {registration : ρ}
  {before rest : List (Word × ρ)}

/-! ### One removal -/

theorem remove_of_forall_ne (h : ∀ e ∈ r.entries, e.1 ≠ session) :
    r.get? session = none ∧ r.remove session = (none, r) := by
  have hget : r.get? session = none :=
    List.lookup_eq_none_iff.mpr fun e he => bne_iff_ne.mpr (h e he).symm
  refine ⟨hget, Prod.ext hget ?_⟩
  show (⟨r.entries.eraseP fun e => session == e.1⟩ : Registrations ρ) = r
  rw [List.eraseP_of_forall_not fun e he => by simpa using (h e he).symm]

/-- The registration that is found for a session and removed is the first one. -/
theorem remove_of_split (h : r.entries = before ++ (session, registration) :: rest)
    (hfirst : ∀ e ∈ before, e.1 ≠ session) :
    r.get? session = some registration ∧
      r.remove session = (some registration, ⟨before ++ rest⟩) := by
  have hget : r.get? session = some registration :=
    List.lookup_eq_some_iff.mpr ⟨before, rest, h, fun e he => bne_iff_ne.mpr (hfirst e he).symm⟩
  refine ⟨hget, Prod.ext hget ?_⟩
  show (⟨r.entries.eraseP fun e => session == e.1⟩ : Registrations ρ) = ⟨before ++ rest⟩
  rw [h, List.eraseP_append_right _ fun e he => by simpa using (hfirst e he).symm,
    List.eraseP_cons_of_pos (by simp)]

theorem exists_split (r : Registrations ρ) (session : Word) :
    (∀ e ∈ r.entries, e.1 ≠ session) ∨ ∃ before registration rest,
      r.entries = before ++ (session, registration) :: rest ∧ ∀ e ∈ before, e.1 ≠ session := by
  cases h : r.get? session with
  | none =>
    exact .inl fun e he => (bne_iff_ne.mp (List.lookup_eq_none_iff.mp h e he)).symm
  | some registration =>
    obtain ⟨before, rest, hsplit, hfirst⟩ := List.lookup_eq_some_iff.mp h
    exact .inr ⟨before, registration, rest, hsplit, fun e he => (bne_iff_ne.mp (hfirst e he)).symm⟩

/-! ### Notifications -/

/-- A notification of a session runs `registration`, or nothing, on whatever thread it comes in and
whatever running means, if the registrations are `r` once the thread is attached. -/
def Notifies (r : Registrations ρ) (session : Word) (registration : Option ρ) : Prop :=
  ∀ {σ : Type} (runtime : Runtime σ) (registrations : σ → Registrations ρ)
    (run : ρ → StateM σ (Ending Unit)) (s : σ), registrations (runtime.guard s).2 = r →
    Notification.dispatch runtime registrations run session s =
      runtime.attached (registration.elim (return .done ()) run) s

theorem notifies_get? (r : Registrations ρ) (session : Word) :
    r.Notifies session (r.get? session) := by
  intro σ runtime registrations run s h
  refine runtime.attached_congr s ?_
  rw [get_bind, h]
  cases r.get? session <;> rfl

/-! ### Runs -/

/-- What is done with registrations. -/
inductive Use (ρ : Type) where
  | put (session : Word) (registration : Option ρ)
  | get (session : Word)
  | remove (session : Word)
  | removeFirst

/-- What a use puts. -/
def Use.put? : Use ρ → Option (Word × ρ)
  | .put session registration => registration.map (session, ·)
  | _ => none

/-- What a use takes out. -/
def taken? (r : Registrations ρ) : Use ρ → Option (Word × ρ)
  | .remove session => (r.remove session).1.map (session, ·)
  | .removeFirst => r.removeFirst.1
  | _ => none

def after (r : Registrations ρ) : Use ρ → Registrations ρ
  | .put session registration => r.put session registration
  | .get _ => r
  | .remove session => (r.remove session).2
  | .removeFirst => r.removeFirst.2

/-- The registrations after uses that begin without any. -/
def run (uses : List (Use ρ)) : Registrations ρ := uses.foldl after empty

/-- What uses put, in order. -/
def puts (uses : List (Use ρ)) : List (Word × ρ) := uses.filterMap Use.put?

/-- What uses take out, in order. -/
def removals : (r : Registrations ρ) → (uses : List (Use ρ)) → List (Word × ρ)
  | _, [] => []
  | r, use :: uses => (r.taken? use).toList ++ removals (r.after use) uses

/-- What uses that begin without registrations take out, in order. -/
def removed (uses : List (Use ρ)) : List (Word × ρ) := empty.removals uses

variable {uses : List (Use ρ)} {use : Use ρ}

theorem run_concat (uses : List (Use ρ)) (use : Use ρ) :
    run (uses ++ [use]) = (run uses).after use :=
  List.foldl_append ..

theorem puts_concat (uses : List (Use ρ)) (use : Use ρ) :
    puts (uses ++ [use]) = puts uses ++ use.put?.toList := by
  rw [puts, List.filterMap_append, puts]
  cases h : use.put? <;> simp [h]

theorem removals_concat (r : Registrations ρ) (uses : List (Use ρ)) (use : Use ρ) :
    r.removals (uses ++ [use]) = r.removals uses ++ ((uses.foldl after r).taken? use).toList := by
  induction uses generalizing r with
  | nil => simp [removals]
  | cons first uses ih => rw [List.cons_append, removals, removals, ih, List.append_assoc]; rfl

theorem removed_concat (uses : List (Use ρ)) (use : Use ρ) :
    removed (uses ++ [use]) = removed uses ++ ((run uses).taken? use).toList :=
  removals_concat empty uses use

/-- What has been put is accounted for by number: the numbers `present` belong to the registrations
that are left, and the numbers `gone` to those that have been taken out. -/
structure Accounts (uses : List (Use ρ)) (present gone : List Nat) : Prop where
  numbers : (present ++ gone).Perm (List.range (puts uses).length)
  increasing : present.Pairwise (· < ·)
  entries : present.map ((puts uses)[·]?) = (run uses).entries.map some
  removed : gone.map ((puts uses)[·]?) = (removed uses).map some

namespace Accounts

variable {present gone : List Nat}

theorem nil : Accounts ([] : List (Use ρ)) [] [] := ⟨.nil, .nil, rfl, rfl⟩

theorem lt (h : Accounts uses present gone) {i : Nat} (hi : i ∈ present ++ gone) :
    i < (puts uses).length :=
  List.mem_range.mp (h.numbers.mem_iff.mp hi)

/-- A number keeps its registration when more are put. -/
theorem map_getElem?_append {numbers : List Nat} {l : List (Word × ρ)}
    (h : ∀ i ∈ numbers, i < l.length) (more : List (Word × ρ)) :
    numbers.map ((l ++ more)[·]?) = numbers.map (l[·]?) :=
  List.map_congr_left fun i hi => List.getElem?_append_left (h i hi)

theorem exists_number {numbers : List Nat} {l entries : List (Word × ρ)}
    (h : numbers.map (l[·]?) = entries.map some) {e : Word × ρ} (he : e ∈ entries) :
    ∃ i ∈ numbers, l[i]? = some e := by
  have hmem : some e ∈ numbers.map (l[·]?) := h ▸ List.mem_map_of_mem he
  exact List.mem_map.mp hmem

theorem put (h : Accounts uses present gone) (session : Word) (registration : ρ) :
    Accounts (uses ++ [.put session (some registration)]) (present ++ [(puts uses).length])
      gone := by
  have hputs : puts (uses ++ [.put session (some registration)]) =
      puts uses ++ [(session, registration)] := puts_concat uses _
  have hremoved : Registrations.removed (uses ++ [.put session (some registration)]) =
      Registrations.removed uses :=
    (removed_concat uses _).trans (List.append_nil _)
  have hpresent : ∀ i ∈ present, i < (puts uses).length :=
    fun i hi => h.lt (List.mem_append_left gone hi)
  have hgone : ∀ i ∈ gone, i < (puts uses).length :=
    fun i hi => h.lt (List.mem_append_right present hi)
  constructor
  · rw [hputs, List.length_append, List.length_singleton, List.range_succ, List.append_assoc]
    calc present ++ ([(puts uses).length] ++ gone)
      List.Perm _ ((puts uses).length :: (present ++ gone)) := List.perm_middle
      List.Perm _ ((puts uses).length :: List.range (puts uses).length) := h.numbers.cons _
      List.Perm _ (List.range (puts uses).length ++ [(puts uses).length]) :=
        (List.perm_append_singleton ..).symm
  · refine List.pairwise_append.mpr ⟨h.increasing, List.pairwise_singleton .., ?_⟩
    simpa using hpresent
  · rw [hputs, List.map_append, map_getElem?_append hpresent, h.entries, run_concat]
    simp [after, Registrations.put]
  · rw [hputs, map_getElem?_append hgone, h.removed, hremoved]

/-- A use that puts nothing and takes nothing out leaves the accounts as they are. -/
theorem idle (h : Accounts uses present gone) (hputs : use.put? = none)
    (htaken : (run uses).taken? use = none) (hafter : (run uses).after use = run uses) :
    Accounts (uses ++ [use]) present gone := by
  have hputs : puts (uses ++ [use]) = puts uses := by
    rw [puts_concat, hputs, Option.toList_none, List.append_nil]
  have hremoved : Registrations.removed (uses ++ [use]) = Registrations.removed uses := by
    rw [removed_concat, htaken, Option.toList_none, List.append_nil]
  have hrun : run (uses ++ [use]) = run uses := by rw [run_concat, hafter]
  exact ⟨hputs ▸ h.numbers, h.increasing, by rw [hputs, hrun, h.entries],
    by rw [hputs, hremoved, h.removed]⟩

/-- A use that takes one registration out, and leaves the others in their order. -/
theorem takeOut {left right : List Nat} {i : Nat} {e : Word × ρ}
    (h : Accounts uses (left ++ i :: right) gone)
    (hentries : (run uses).entries = before ++ e :: rest)
    (hleft : left.map ((puts uses)[·]?) = before.map some) (hputs : use.put? = none)
    (htaken : (run uses).taken? use = some e) (hafter : (run uses).after use = ⟨before ++ rest⟩) :
    Accounts (uses ++ [use]) (left ++ right) (gone ++ [i]) := by
  have hputs : puts (uses ++ [use]) = puts uses := by
    rw [puts_concat, hputs, Option.toList_none, List.append_nil]
  have hremoved : Registrations.removed (uses ++ [use]) = Registrations.removed uses ++ [e] := by
    rw [removed_concat, htaken, Option.toList_some]
  have hrun : (run (uses ++ [use])).entries = before ++ rest := by rw [run_concat, hafter]
  have hsplit := h.entries
  rw [hentries, List.map_append, List.map_append, hleft, List.append_cancel_left_eq, List.map_cons,
    List.map_cons, List.cons.injEq] at hsplit
  obtain ⟨hi, hright⟩ := hsplit
  constructor
  · rw [hputs]
    calc left ++ right ++ (gone ++ [i])
      _ = left ++ right ++ gone ++ [i] := (List.append_assoc ..).symm
      List.Perm _ (i :: (left ++ right ++ gone)) := List.perm_append_singleton ..
      List.Perm _ (left ++ i :: right ++ gone) := List.perm_middle.symm.append_right gone
      List.Perm _ (List.range (puts uses).length) := h.numbers
  · exact h.increasing.sublist ((List.sublist_cons_self i right).append_left left)
  · rw [hputs, hrun, List.map_append, List.map_append, hleft, hright]
  · rw [hputs, hremoved, List.map_append, List.map_append, h.removed, List.map_singleton, hi,
      List.map_singleton]

/-- The numbers of a split of the entries. -/
theorem exists_split (h : Accounts uses present gone) {e : Word × ρ}
    (hentries : (run uses).entries = before ++ e :: rest) :
    ∃ left i right, present = left ++ i :: right ∧
      left.map ((puts uses)[·]?) = before.map some ∧ (puts uses)[i]? = some e := by
  have hmap := h.entries
  rw [hentries, List.map_append, List.map_cons, List.map_eq_append_iff] at hmap
  obtain ⟨left, right, rfl, hleft, hright⟩ := hmap
  obtain ⟨i, right, rfl, hi, -⟩ := List.map_eq_cons_iff.mp hright
  exact ⟨left, i, right, rfl, hleft, hi⟩

theorem concat (h : Accounts uses present gone) (use : Use ρ) :
    ∃ present' gone', Accounts (uses ++ [use]) present' gone' := by
  cases use with
  | put session registration =>
    cases registration with
    | none => exact ⟨_, _, h.idle rfl rfl rfl⟩
    | some registration => exact ⟨_, _, h.put session registration⟩
  | get session => exact ⟨_, _, h.idle rfl rfl rfl⟩
  | remove session =>
    obtain habsent | ⟨before, registration, rest, hsplit, hfirst⟩ :=
      (run uses).exists_split session
    · obtain ⟨-, hremove⟩ := remove_of_forall_ne habsent
      exact ⟨_, _, h.idle rfl (by rw [taken?, hremove]; rfl) (by rw [after, hremove])⟩
    · obtain ⟨-, hremove⟩ := remove_of_split hsplit hfirst
      obtain ⟨left, i, right, rfl, hleft, -⟩ := h.exists_split hsplit
      exact ⟨_, _, h.takeOut hsplit hleft rfl (by rw [taken?, hremove]; rfl)
        (by rw [after, hremove])⟩
  | removeFirst =>
    cases hentries : (run uses).entries with
    | nil =>
      have hempty : run uses = ⟨[]⟩ := congrArg Registrations.mk hentries
      exact ⟨_, _, h.idle rfl (by rw [hempty]; rfl) (by rw [hempty]; rfl)⟩
    | cons e rest =>
      have hfirst : run uses = ⟨e :: rest⟩ := congrArg Registrations.mk hentries
      have hsplit : (run uses).entries = [] ++ e :: rest := hentries
      obtain ⟨left, i, right, rfl, hleft, -⟩ := h.exists_split hsplit
      exact ⟨_, _, h.takeOut hsplit hleft rfl (by rw [hfirst]; rfl) (by rw [hfirst]; rfl)⟩

/-- What has been taken out and what is left is what has been put. -/
theorem perm (h : Accounts uses present gone) :
    (Registrations.removed uses ++ (run uses).entries).Perm (puts uses) := by
  have hall : (List.range (puts uses).length).map ((puts uses)[·]?) = (puts uses).map some :=
    List.ext_getElem (by simp) fun i _ hi => by simp
  have hmap : ((Registrations.removed uses ++ (run uses).entries).map some).Perm
      ((puts uses).map some) := by
    rw [List.map_append, ← h.removed, ← h.entries, ← List.map_append, ← hall]
    exact (List.perm_append_comm.trans h.numbers).map _
  simpa using hmap.filterMap id

/-- A session with no number among those present has no registration. -/
theorem forall_ne (h : Accounts uses present gone)
    (hnone : ∀ i ∈ present, ∀ k, (puts uses)[i]? ≠ some (session, k)) :
    ∀ e ∈ (run uses).entries, e.1 ≠ session := by
  rintro ⟨_, k⟩ he rfl
  obtain ⟨i, hi, hputs⟩ := exists_number h.entries he
  exact hnone i hi k hputs

end Accounts

/-- At every point of a run there are accounts of what has been put. -/
theorem exists_accounts (uses : List (Use ρ)) :
    ∃ present gone, Accounts uses present gone := by
  induction uses using List.reverseRecOn with
  | nil => exact ⟨_, _, .nil⟩
  | append_singleton uses use ih =>
    obtain ⟨present, gone, h⟩ := ih
    exact h.concat use

/-- Of the registrations of a session that are present, `registration` was put first, as number
`i`. -/
structure Oldest (uses : List (Use ρ)) (present : List Nat) (session : Word) (i : Nat)
    (registration : ρ) : Prop where
  mem : i ∈ present
  put : (puts uses)[i]? = some (session, registration)
  least : ∀ j ∈ present, j < i → ∀ k, (puts uses)[j]? ≠ some (session, k)

/-- The entries are split at the oldest registration of a session as the numbers are. -/
theorem Oldest.exists_split {present gone : List Nat} {i : Nat}
    (hi : Oldest uses present session i registration) (h : Accounts uses present gone) :
    ∃ left right before rest, present = left ++ i :: right ∧ i ∉ left ∧
      (run uses).entries = before ++ (session, registration) :: rest ∧
      (∀ e ∈ before, e.1 ≠ session) ∧ left.map ((puts uses)[·]?) = before.map some := by
  obtain ⟨left, right, rfl⟩ := List.append_of_mem hi.mem
  have hless : ∀ j ∈ left, j < i := fun j hj =>
    (List.pairwise_append.mp h.increasing).2.2 j hj i List.mem_cons_self
  have hmap := h.entries.symm
  rw [List.map_append, List.map_cons, hi.put, List.map_eq_append_iff] at hmap
  obtain ⟨before, rest, hentries, hbefore, hrest⟩ := hmap
  obtain ⟨e, rest, rfl, he, -⟩ := List.map_eq_cons_iff.mp hrest
  cases he
  refine ⟨left, right, before, rest, rfl, fun hi => Nat.lt_irrefl i (hless i hi), hentries, ?_,
    hbefore.symm⟩
  rintro ⟨_, k⟩ he rfl
  obtain ⟨j, hj, hputs⟩ := Accounts.exists_number hbefore.symm he
  exact hi.least j (List.mem_append_left _ hj) (hless j hj) k hputs

theorem Oldest.remove {present gone : List Nat} {i : Nat}
    (hi : Oldest uses present session i registration) (h : Accounts uses present gone) :
    (run uses).get? session = some registration ∧
      ((run uses).remove session).1 = some registration ∧
      Accounts (uses ++ [.remove session]) (present.erase i) (gone ++ [i]) := by
  obtain ⟨left, right, before, rest, rfl, hnot, hsplit, hfirst, hleft⟩ := hi.exists_split h
  obtain ⟨hget, hremove⟩ := remove_of_split hsplit hfirst
  refine ⟨hget, by rw [hremove], ?_⟩
  rw [List.erase_append_right _ hnot, List.erase_cons_head]
  exact h.takeOut hsplit hleft rfl (by rw [taken?, hremove]; rfl) (by rw [after, hremove])

/-- Taking out the first registration again and again. -/
theorem drain (uses : List (Use ρ)) (n : Nat) :
    removed (uses ++ List.replicate n .removeFirst) = removed uses ++ (run uses).entries.take n ∧
      run (uses ++ List.replicate n .removeFirst) = ⟨(run uses).entries.drop n⟩ := by
  induction n with
  | zero => simp
  | succ n ih =>
    obtain ⟨hremoved, hrun⟩ := ih
    rw [List.replicate_succ', ← List.append_assoc, removed_concat, run_concat, hremoved, hrun]
    constructor
    · rw [List.take_add_one, List.append_assoc, taken?, removeFirst, List.head?_drop]
    · rw [after, removeFirst, List.tail_drop]

/-- No registration is lost or comes twice. Whatever is done, what has been put is what has been
taken out and what is left, in the order in which it was put. For a session the registration that
was put first of those left is the one that is found, notified and removed, and a removal leaves the
others as they are. Taking out the first again and again gives what is left in this order, and
leaves nothing after as many steps. -/
theorem uses_account (uses : List (Use ρ)) : ∃ present gone, Accounts uses present gone ∧
    (removed uses ++ (run uses).entries).Perm (puts uses) ∧
    (∀ session, (∀ i ∈ present, ∀ k, (puts uses)[i]? ≠ some (session, k)) →
      (run uses).get? session = none ∧ (run uses).Notifies session none ∧
        (run uses).remove session = (none, run uses)) ∧
    (∀ session i registration, Oldest uses present session i registration →
      (run uses).get? session = some registration ∧
        (run uses).Notifies session (some registration) ∧
        ((run uses).remove session).1 = some registration ∧
        Accounts (uses ++ [.remove session]) (present.erase i) (gone ++ [i])) ∧
    ∀ n, let drained := uses ++ List.replicate n .removeFirst
      removed drained = removed uses ++ (run uses).entries.take n ∧
        (run drained).entries = (run uses).entries.drop n ∧
        ((run drained).isEmpty ↔ (run uses).size ≤ n) := by
  obtain ⟨present, gone, h⟩ := exists_accounts uses
  refine ⟨present, gone, h, h.perm, fun session hnone => ?_, fun session i registration hi => ?_,
    fun n => ?_⟩
  · obtain ⟨hget, hremove⟩ := remove_of_forall_ne (h.forall_ne hnone)
    exact ⟨hget, hget ▸ notifies_get? (run uses) session, hremove⟩
  · obtain ⟨hget, hremove, haccounts⟩ := hi.remove h
    exact ⟨hget, hget ▸ notifies_get? (run uses) session, hremove, haccounts⟩
  · obtain ⟨hremoved, hrun⟩ := drain uses n
    refine ⟨hremoved, congrArg entries hrun, ?_⟩
    rw [hrun, isEmpty, size, List.isEmpty_iff, List.drop_eq_nil_iff]

/-- Of two registrations of a session, the one that was put first is removed, and the other is then
the oldest. -/
theorem uses_account_two_of_a_session :
    let uses : List (Use Char) :=
      [.put 5 (some 'a'), .put 7 (some 'b'), .put 5 (some 'c'), .remove 5]
    ∃ present gone i, Accounts uses present gone ∧ Oldest uses present 5 i 'c' ∧
      (run uses).get? 5 = some 'c' ∧ (run uses).Notifies 5 (some 'c') ∧
      Accounts (uses ++ [.remove 5]) (present.erase i) (gone ++ [i]) := by
  intro uses
  obtain ⟨present, gone, h, -, -, holdest, -⟩ := uses_account uses
  have hentries : (run uses).entries = [(7, 'b'), (5, 'c')] := rfl
  obtain ⟨i, hi, hput⟩ := Accounts.exists_number h.entries
    (hentries ▸ List.mem_cons_of_mem _ List.mem_cons_self : (5, 'c') ∈ (run uses).entries)
  have hleast : Oldest uses present 5 i 'c' := by
    refine ⟨hi, hput, fun j hj hless k hk => ?_⟩
    -- what is put before is not left, or is of another session
    have hleft : some (5, k) ∈ (run uses).entries.map some :=
      h.entries ▸ List.mem_map.mpr ⟨j, hj, hk⟩
    obtain rfl : k = 'c' := by simpa [hentries] using hleft
    have hi : i < 3 := h.lt (List.mem_append_left gone hi)
    have hunique : ∀ i : Fin 3, ∀ j < i, (puts uses)[j.val]? = some (5, 'c') →
        (puts uses)[i.val]? ≠ some (5, 'c') := by decide
    exact hunique ⟨i, hi⟩ ⟨j, by omega⟩ hless hk hput
  obtain ⟨hget, hnotifies, -, haccounts⟩ := holdest 5 i 'c' hleast
  exact ⟨present, gone, i, h, hleast, hget, hnotifies, haccounts⟩

end Registrations

end Cryptoki
