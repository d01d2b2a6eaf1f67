import Cryptoki.Registry.Connections
import Mathlib.Data.List.Nodup
import Mathlib.Data.List.Perm.Basic

/-! The keys of the connected libraries. Every key has one entry, so removing it leaves none, and
the entries of other keys stay. -/

namespace Cryptoki.Connections

variable {κ α : Type} [DecidableEq κ] {c : Connections κ α} {key : κ}

def keys (c : Connections κ α) : List κ := c.entries.map Prod.fst

theorem get?_eq_none_iff {key : κ} : c.get? key = none ↔ key ∉ c.keys := by
  rw [get?, List.lookup_eq_none_iff, keys, List.mem_map, not_exists]
  refine forall_congr' fun e => ?_
  rw [not_and, bne_iff_ne, ne_comm]

theorem index?_eq_none_iff {key : κ} : c.index? key = none ↔ key ∉ c.keys := by
  rw [index?, List.findIdx?_eq_none_iff, keys, List.mem_map, not_exists]
  refine forall_congr' fun e => ?_
  rw [not_and, decide_eq_false_iff_not]

theorem keys_put_of_not_mem (h : key ∉ c.keys) (value : α) :
    (c.put key value).keys = c.keys ++ [key] := by
  rw [put, index?_eq_none_iff.mpr h]
  exact List.map_append

/-- The last element goes to the place of the one that is removed. -/
theorem swapErase_perm {β : Type} (before : List β) (e : β) (rest : List β) :
    (swapErase (before ++ e :: rest) before.length).Perm (before ++ rest) := by
  obtain rfl | ⟨rest, last, rfl⟩ := rest.eq_nil_or_concat
  · simp [swapErase]
  · have hlast : (before ++ e :: (rest ++ [last])).getLast? = some last := by
      rw [← List.cons_append, ← List.append_assoc]
      exact List.getLast?_concat
    have hset : ((before ++ e :: (rest ++ [last])).set before.length last).dropLast =
        before ++ last :: rest := by
      rw [List.set_append_right _ _ (Nat.le_refl _), Nat.sub_self, List.set_cons_zero,
        ← List.cons_append, ← List.append_assoc]
      exact List.dropLast_concat
    simp only [List.concat_eq_append, swapErase, hlast, hset]
    exact (List.perm_append_singleton last rest).symm.append_left before

theorem split_of_index? {i : Nat} (h : c.index? key = some i) :
    ∃ before value rest, c.entries = before ++ (key, value) :: rest ∧ before.length = i := by
  obtain ⟨hi, hkey, -⟩ := List.findIdx?_eq_some_iff_getElem.mp h
  refine ⟨c.entries.take i, c.entries[i].2, c.entries.drop (i + 1), ?_, ?_⟩
  · have he : (key, c.entries[i].2) = c.entries[i] := by
      rw [← of_decide_eq_true hkey]
    rw [he, List.getElem_cons_drop, List.take_append_drop]
  · exact List.length_take_of_le (Nat.le_of_lt hi)

theorem entries_remove_perm (h : key ∈ c.keys) :
    ∃ value, ((key, value) :: (c.remove key).2.entries).Perm c.entries := by
  unfold remove
  cases hi : c.index? key with
  | none => exact absurd h (index?_eq_none_iff.mp hi)
  | some i =>
    obtain ⟨before, value, rest, hentries, rfl⟩ := split_of_index? hi
    refine ⟨value, ?_⟩
    simp only [hentries]
    exact ((swapErase_perm before (key, value) rest).cons _).trans List.perm_middle.symm

theorem keys_remove_perm (h : key ∈ c.keys) : (key :: (c.remove key).2.keys).Perm c.keys := by
  obtain ⟨value, hperm⟩ := entries_remove_perm h
  exact hperm.map Prod.fst

theorem remove_of_not_mem (h : key ∉ c.keys) : (c.remove key).2 = c := by
  rw [remove, index?_eq_none_iff.mpr h]

theorem remove_of_fst_eq_none (h : (c.remove key).1 = none) : (c.remove key).2 = c := by
  refine remove_of_not_mem fun hkey => ?_
  unfold remove at h
  cases hi : c.index? key with
  | none => exact index?_eq_none_iff.mp hi hkey
  | some i =>
    rw [hi] at h
    exact get?_eq_none_iff.mp h hkey

theorem nodup_keys_remove (h : c.keys.Nodup) (key : κ) : (c.remove key).2.keys.Nodup := by
  by_cases hkey : key ∈ c.keys
  · exact (((keys_remove_perm hkey).nodup_iff.mpr h).of_cons)
  · rwa [remove_of_not_mem hkey]

theorem mem_keys_remove (h : c.keys.Nodup) {key k : κ} :
    k ∈ (c.remove key).2.keys ↔ k ∈ c.keys ∧ k ≠ key := by
  by_cases hkey : key ∈ c.keys
  · have hperm := keys_remove_perm hkey
    obtain ⟨hnot, -⟩ := List.nodup_cons.mp (hperm.nodup_iff.mpr h)
    rw [← hperm.mem_iff, List.mem_cons]
    constructor
    · exact fun hk => ⟨.inr hk, fun heq => hnot (heq ▸ hk)⟩
    · exact fun ⟨hk, hne⟩ => hk.resolve_left hne
  · rw [remove_of_not_mem hkey]
    exact ⟨fun hk => ⟨hk, fun heq => hkey (heq ▸ hk)⟩, And.left⟩

/-! ### Entries -/

theorem get?_eq_some_iff (h : c.keys.Nodup) {value : α} :
    c.get? key = some value ↔ (key, value) ∈ c.entries := by
  have found {value : α} (hvalue : c.get? key = some value) : (key, value) ∈ c.entries := by
    obtain ⟨before, rest, hsplit, -⟩ := List.lookup_eq_some_iff.mp hvalue
    rw [hsplit]
    exact List.mem_append_right before List.mem_cons_self
  refine ⟨found, fun hmem => ?_⟩
  cases hget : c.get? key with
  | none => exact absurd (List.mem_map_of_mem hmem) (get?_eq_none_iff.mp hget)
  | some other =>
    have hsame := List.inj_on_of_nodup_map h (found hget) hmem rfl
    rw [(Prod.mk.inj hsame).2]

theorem get?_put_self (c : Connections κ α) (key : κ) (value : α) :
    (c.put key value).get? key = some value := by
  unfold put
  cases hi : c.index? key with
  | none =>
    have hnone : c.entries.lookup key = none := get?_eq_none_iff.mpr (index?_eq_none_iff.mp hi)
    simp [get?, List.lookup_append, hnone]
  | some i =>
    obtain ⟨hlength, -, hbefore⟩ := List.findIdx?_eq_some_iff_getElem.mp hi
    refine List.lookup_eq_some_iff.mpr ⟨c.entries.take i, c.entries.drop (i + 1), ?_, ?_⟩
    · exact (List.set_eq_take_append_cons_drop).trans (if_pos hlength)
    · intro e he
      obtain ⟨j, hj, rfl⟩ := List.getElem_of_mem he
      rw [List.length_take] at hj
      rw [List.getElem_take, bne_iff_ne, ne_comm]
      simpa using hbefore j (by omega)

theorem get?_put_of_ne {k : κ} (hne : k ≠ key) (value : α) :
    (c.put key value).get? k = c.get? k := by
  have hbeq : (k == key) = false := beq_false_of_ne hne
  unfold put
  cases hi : c.index? key with
  | none => simp [get?, List.lookup_append, List.lookup_cons, hbeq]
  | some i =>
    obtain ⟨before, other, rest, hentries, rfl⟩ := split_of_index? hi
    simp [get?, hentries, List.lookup_append, List.lookup_cons, hbeq]

theorem get?_remove_of_ne (h : c.keys.Nodup) {k : κ} (hne : k ≠ key) :
    (c.remove key).2.get? k = c.get? k := by
  by_cases hkey : key ∈ c.keys
  · obtain ⟨other, hperm⟩ := entries_remove_perm hkey
    refine Option.ext fun value => ?_
    rw [get?_eq_some_iff (nodup_keys_remove h key), get?_eq_some_iff h, ← hperm.mem_iff]
    simp [hne]
  · rw [remove_of_not_mem hkey]

theorem get?_remove_self (h : c.keys.Nodup) (key : κ) : (c.remove key).2.get? key = none := by
  rw [get?_eq_none_iff, mem_keys_remove h]
  exact fun hkey => hkey.2 rfl

end Cryptoki.Connections
