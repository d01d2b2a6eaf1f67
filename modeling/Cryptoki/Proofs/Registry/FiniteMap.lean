import Cryptoki.Proofs.Registry.Connections
import Mathlib.Data.Finmap

/-! Connections answer as a finite map does. Removal moves the last entry to another place, so the
entries do not keep their order, but each answer is that of the map that the same uses make
(`Connections.answers_outcomes`), and what is found under a key follows from the uses of that key
alone (`Connections.get?_after_filter`). -/

namespace Cryptoki.Connections

variable {κ α : Type}

/-- What is done with connections. -/
inductive Use (κ α : Type) where
  | put (key : κ) (value : α)
  | get (key : κ)
  | remove (key : κ)
  | removeAll
  | size
  | isEmpty

/-- What a use comes to. -/
inductive Outcome (α : Type) where
  | done
  | entry (value : Option α)
  | entries (values : List α)
  | size (n : Nat)
  | isEmpty (b : Bool)

/-- A finite map. -/
abbrev Map (κ α : Type) := Finmap fun _ : κ => α

section Uses

variable [DecidableEq κ]

def use (c : Connections κ α) : Use κ α → Outcome α × Connections κ α
  | .put key value => (.done, c.put key value)
  | .get key => (.entry (c.get? key), c)
  | .remove key => (.entry (c.remove key).1, (c.remove key).2)
  | .removeAll => (.entries c.removeAll.1, c.removeAll.2)
  | .size => (.size c.size, c)
  | .isEmpty => (.isEmpty c.isEmpty, c)

def after (c : Connections κ α) (uses : List (Use κ α)) : Connections κ α :=
  uses.foldl (fun c use => (c.use use).2) c

def outcomes : (c : Connections κ α) → (uses : List (Use κ α)) → List (Outcome α)
  | _, [] => []
  | c, use :: uses => (c.use use).1 :: outcomes (c.use use).2 uses

/-- What a use makes of a map. -/
def Use.replay (m : Map κ α) : Use κ α → Map κ α
  | .put key value => m.insert key value
  | .remove key => m.erase key
  | .removeAll => ∅
  | .get _ | .size | .isEmpty => m

/-- The answer of a map to a use. All entries come in any order, each of them once. -/
inductive Use.Answered (m : Map κ α) : Use κ α → Outcome α → Prop
  | put (key : κ) (value : α) : Answered m (.put key value) .done
  | get (key : κ) : Answered m (.get key) (.entry (m.lookup key))
  | remove (key : κ) : Answered m (.remove key) (.entry (m.lookup key))
  | removeAll {values : List α} : (values : Multiset α) = m.entries.map Sigma.snd →
      Answered m .removeAll (.entries values)
  | size : Answered m .size (.size m.keys.card)
  | isEmpty {b : Bool} : (b = true ↔ m = ∅) → Answered m .isEmpty (.isEmpty b)

/-- The answers of a map to uses, one after the other. -/
inductive Answers : Map κ α → List (Use κ α) → List (Outcome α) → Prop
  | nil (m : Map κ α) : Answers m [] []
  | cons {m : Map κ α} {use : Use κ α} {outcome : Outcome α} {uses : List (Use κ α)}
      {outcomes : List (Outcome α)} : use.Answered m outcome →
      Answers (use.replay m) uses outcomes → Answers m (use :: uses) (outcome :: outcomes)

/-- A use that bears on what is found under a key. -/
def Use.concerns (key : κ) : Use κ α → Bool
  | .put k _ | .get k | .remove k => k = key
  | .removeAll => true
  | .size | .isEmpty => false

/-- Connections that hold what a map holds, with one entry for each key. -/
structure Represents (c : Connections κ α) (m : Map κ α) : Prop where
  nodup : c.keys.Nodup
  get? : ∀ key, c.get? key = m.lookup key

end Uses

variable [DecidableEq κ] {c : Connections κ α} {m m' : Map κ α} {key : κ}

theorem remove_fst (c : Connections κ α) (key : κ) : (c.remove key).1 = c.get? key := by
  unfold remove
  cases hi : c.index? key with
  | none => exact (get?_eq_none_iff.mpr (index?_eq_none_iff.mp hi)).symm
  | some i => rfl

theorem keys_put_of_mem (h : key ∈ c.keys) (value : α) : (c.put key value).keys = c.keys := by
  unfold put
  cases hi : c.index? key with
  | none => exact absurd h (index?_eq_none_iff.mp hi)
  | some i =>
    obtain ⟨before, other, rest, hentries, rfl⟩ := split_of_index? hi
    simp [keys, hentries]

theorem nodup_keys_put (h : c.keys.Nodup) (key : κ) (value : α) :
    (c.put key value).keys.Nodup := by
  by_cases hkey : key ∈ c.keys
  · rwa [keys_put_of_mem hkey]
  · rw [keys_put_of_not_mem hkey, List.nodup_append_comm]
    exact List.nodup_cons.mpr ⟨hkey, h⟩

/-! ### Connections and maps -/

namespace Represents

theorem empty : (empty : Connections κ α).Represents ∅ :=
  ⟨List.nodup_nil, fun key => by rw [Finmap.lookup_empty]; rfl⟩

theorem put (h : c.Represents m) (key : κ) (value : α) :
    (c.put key value).Represents (m.insert key value) where
  nodup := nodup_keys_put h.nodup key value
  get? k := by
    by_cases hk : k = key
    · subst hk
      rw [get?_put_self, Finmap.lookup_insert]
    · rw [get?_put_of_ne hk, Finmap.lookup_insert_of_ne _ hk, h.get?]

theorem remove (h : c.Represents m) (key : κ) : (c.remove key).2.Represents (m.erase key) where
  nodup := nodup_keys_remove h.nodup key
  get? k := by
    by_cases hk : k = key
    · subst hk
      rw [get?_remove_self h.nodup, Finmap.lookup_erase]
    · rw [get?_remove_of_ne h.nodup hk, Finmap.lookup_erase_ne hk, h.get?]

/-- The entries are those of the map, each of them once. -/
theorem entries_eq (h : c.Represents m) :
    (c.entries.map fun e => (⟨e.1, e.2⟩ : (_ : κ) × α) : List _) = m.entries := by
  have hnodup : c.entries.Nodup := h.nodup.of_map
  refine (Multiset.Nodup.ext (Multiset.coe_nodup.mpr ?_) m.nodup_entries).mpr fun e => ?_
  · refine hnodup.map fun e e' he => ?_
    obtain ⟨hkey, hvalue⟩ := Sigma.mk.inj he
    exact Prod.ext hkey (eq_of_heq hvalue)
  · obtain ⟨key, value⟩ := e
    rw [← Finmap.lookup_eq_some_iff, ← h.get?, get?_eq_some_iff h.nodup, Multiset.mem_coe,
      List.mem_map]
    constructor
    · rintro ⟨e, he, heq⟩
      cases heq
      exact he
    · exact fun he => ⟨(key, value), he, rfl⟩

/-- A use is answered as by the map, and goes on to hold what the map then holds. -/
theorem use (h : c.Represents m) (use : Use κ α) :
    use.Answered m (c.use use).1 ∧ (c.use use).2.Represents (use.replay m) := by
  have hentries := h.entries_eq
  cases use with
  | put key value => exact ⟨.put key value, h.put key value⟩
  | get key =>
    refine ⟨?_, h⟩
    rw [Connections.use, h.get?]
    exact .get key
  | remove key =>
    refine ⟨?_, h.remove key⟩
    rw [Connections.use, remove_fst, h.get?]
    exact .remove key
  | removeAll =>
    refine ⟨.removeAll ?_, empty⟩
    rw [← hentries, Multiset.map_coe, List.map_map]
    rfl
  | size =>
    have hsize : c.size = m.keys.card := by
      rw [size, ← List.length_map, ← Multiset.coe_card, hentries]
      exact (Multiset.card_map _ _).symm
    refine ⟨?_, h⟩
    rw [Connections.use, hsize]
    exact .size
  | isEmpty =>
    refine ⟨.isEmpty ?_, h⟩
    have hnone : (∅ : Map κ α).entries = 0 := rfl
    rw [isEmpty, List.isEmpty_iff, ← Finmap.ext_iff', ← hentries, hnone, Multiset.coe_eq_zero,
      List.map_eq_nil_iff]

theorem after (h : c.Represents m) (uses : List (Use κ α)) :
    Answers m uses (c.outcomes uses) ∧ (c.after uses).Represents (uses.foldl Use.replay m) := by
  induction uses generalizing c m with
  | nil => exact ⟨.nil m, h⟩
  | cons use uses ih =>
    obtain ⟨hanswered, hnext⟩ := h.use use
    obtain ⟨hanswers, hlast⟩ := ih hnext
    exact ⟨.cons hanswered hanswers, hlast⟩

end Represents

/-- Every answer is that of the map that the uses before have made. -/
theorem answers_outcomes (uses : List (Use κ α)) : Answers ∅ uses (outcomes empty uses) :=
  (Represents.empty.after uses).1

/-! ### The uses of one key -/

theorem lookup_replay_of_not_concerns {use : Use κ α} (h : use.concerns key = false) :
    (use.replay m).lookup key = m.lookup key := by
  cases use with
  | put k value =>
    have hne : key ≠ k := Ne.symm (of_decide_eq_false h)
    exact Finmap.lookup_insert_of_ne m hne
  | remove k =>
    have hne : key ≠ k := Ne.symm (of_decide_eq_false h)
    exact Finmap.lookup_erase_ne hne
  | removeAll => cases h
  | get | size | isEmpty => rfl

theorem lookup_replay_congr (h : m.lookup key = m'.lookup key) (use : Use κ α) :
    (use.replay m).lookup key = (use.replay m').lookup key := by
  cases use with
  | put k value =>
    by_cases hk : key = k
    · subst hk
      simp only [Use.replay, Finmap.lookup_insert]
    · simp only [Use.replay, Finmap.lookup_insert_of_ne _ hk, h]
  | remove k =>
    by_cases hk : key = k
    · subst hk
      simp only [Use.replay, Finmap.lookup_erase]
    · simp only [Use.replay, Finmap.lookup_erase_ne hk, h]
  | removeAll => rfl
  | get | size | isEmpty => exact h

theorem lookup_replays_filter (h : m.lookup key = m'.lookup key) (uses : List (Use κ α)) :
    (uses.foldl Use.replay m).lookup key =
      ((uses.filter (Use.concerns key)).foldl Use.replay m').lookup key := by
  induction uses generalizing m m' with
  | nil => exact h
  | cons use uses ih =>
    cases hconcerns : use.concerns key with
    | true =>
      rw [List.filter_cons_of_pos hconcerns]
      exact ih (lookup_replay_congr h use)
    | false =>
      rw [List.filter_cons_of_neg (by simp [hconcerns])]
      exact ih ((lookup_replay_of_not_concerns hconcerns).trans h)

/-- What is found under a key follows from the uses that concern it, whatever is done with other
keys. -/
theorem get?_after_filter (uses : List (Use κ α)) (key : κ) :
    ((empty : Connections κ α).after uses).get? key =
      (empty.after (uses.filter (Use.concerns key))).get? key := by
  rw [(Represents.empty.after uses).2.get?, (Represents.empty.after _).2.get?]
  exact lookup_replays_filter rfl uses

end Cryptoki.Connections
