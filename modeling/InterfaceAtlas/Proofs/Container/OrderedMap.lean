import InterfaceAtlas.Container.OrderedMap
import Mathlib.Data.List.Basic
import Mathlib.Data.List.Induction
import Mathlib.Data.List.Nodup
import Mathlib.Data.String.Basic

/-!
# What a map that keeps its order holds

A map is filled by putting one thing after the other into it (`List.foldl` over `OrderedMap.alter`).
Two lemmas say what is in it afterwards, whatever the things are:

* `keys_foldl_alter`: the keys, each where it first came;
* `get?_foldl_alter`: a key's value, which only the things put under this key have made.

The order "each where it first came" is `List.eraseDups`; its few laws stand in front. The other
order is that of the keys themselves, and there a map leaves no choice: `mergeSort_key_eq_iff`.
-/

namespace InterfaceAtlas

/-! ## Lists without repetition, in the order of first appearance -/

section FirstSeen

variable {α : Type} [DecidableEq α]

/-- A new last member stays only if it did not come before. -/
lemma eraseDups_concat (xs : List α) (a : α) :
    (xs ++ [a]).eraseDups = if a ∈ xs then xs.eraseDups else xs.eraseDups ++ [a] := by
  rw [List.eraseDups_append]
  by_cases h : a ∈ xs
  · rw [if_pos h]
    simp [List.removeAll, h]
  · rw [if_neg h]
    simp [List.removeAll, h, List.eraseDups_cons]

/-- The members left stand in the order of their first appearance. -/
lemma pairwise_idxOf_eraseDups (xs : List α) :
    xs.eraseDups.Pairwise fun a b => xs.idxOf a < xs.idxOf b := by
  induction xs using List.reverseRecOn with
  | nil => simp
  | append_singleton xs c ih =>
    -- the members of `xs` keep their first place when one more comes behind them
    have hkeep : xs.eraseDups.Pairwise fun a b => (xs ++ [c]).idxOf a < (xs ++ [c]).idxOf b := by
      refine ih.imp_of_mem fun ha hb hab => ?_
      rw [List.idxOf_append_of_mem (List.mem_eraseDups.mp ha),
        List.idxOf_append_of_mem (List.mem_eraseDups.mp hb)]
      exact hab
    rw [eraseDups_concat]
    by_cases h : c ∈ xs
    · rw [if_pos h]
      exact hkeep
    · rw [if_neg h, List.pairwise_append]
      refine ⟨hkeep, List.pairwise_singleton _ _, fun a ha b hb => ?_⟩
      have ha' : a ∈ xs := List.mem_eraseDups.mp ha
      rw [List.mem_singleton] at hb
      rw [hb, List.idxOf_append_of_mem ha', List.idxOf_append_of_notMem h]
      have hlt : xs.idxOf a < xs.length := List.idxOf_lt_length_of_mem ha'
      omega

lemma nodup_eraseDups (xs : List α) : xs.eraseDups.Nodup := by
  refine (pairwise_idxOf_eraseDups xs).imp fun hab heq => ?_
  rw [heq] at hab
  exact Nat.lt_irrefl _ hab

lemma eraseDups_of_nodup {xs : List α} (h : xs.Nodup) : xs.eraseDups = xs := by
  induction xs using List.reverseRecOn with
  | nil => rfl
  | append_singleton xs a ih =>
    obtain ⟨hxs, -, hnew⟩ := List.nodup_append.mp h
    have ha : a ∉ xs := fun hmem => hnew a hmem a (List.mem_singleton_self a) rfl
    rw [eraseDups_concat, if_neg ha, ih hxs]

/-- It does not matter whether members are left out before or after the repetitions. -/
lemma eraseDups_filter (p : α → Bool) (xs : List α) :
    (xs.filter p).eraseDups = xs.eraseDups.filter p := by
  induction xs using List.reverseRecOn with
  | nil => simp
  | append_singleton xs a ih =>
    rw [List.filter_append, eraseDups_concat]
    by_cases hp : p a
    · have ha : [a].filter p = [a] := List.filter_cons_of_pos hp
      rw [ha, eraseDups_concat, ih]
      by_cases h : a ∈ xs
      · rw [if_pos h, if_pos (List.mem_filter.mpr ⟨h, hp⟩)]
      · rw [if_neg h, if_neg (fun hc => h (List.mem_filter.mp hc).1), List.filter_append, ha]
    · have ha : [a].filter p = [] := List.filter_cons_of_neg hp
      rw [ha, List.append_nil, ih]
      by_cases h : a ∈ xs
      · rw [if_pos h]
      · rw [if_neg h, List.filter_append, ha, List.append_nil]

end FirstSeen

/-! ## Entries in the order of their keys -/

section KeyOrder

variable {α : Type} {xs ys : List (String × α)}

/-- Where no two keys are the same, each key comes before the next. -/
lemma pairwise_mergeSort_key (h : (xs.map Prod.fst).Nodup) :
    (xs.mergeSort fun a b => decide (a.1 ≤ b.1)).Pairwise fun a b => a.1 < b.1 := by
  have hle : (xs.mergeSort fun a b => decide (a.1 ≤ b.1)).Pairwise
      fun a b => decide (a.1 ≤ b.1) := by
    refine List.pairwise_mergeSort (fun a b c hab hbc => ?_) (fun a b => ?_) xs
    · rw [decide_eq_true_eq] at hab hbc ⊢
      exact le_trans hab hbc
    · rw [Bool.or_eq_true, decide_eq_true_eq, decide_eq_true_eq]
      exact le_total _ _
  have hne : (xs.mergeSort fun a b => decide (a.1 ≤ b.1)).Pairwise fun a b => a.1 ≠ b.1 := by
    have hnodup : ((xs.mergeSort fun a b => decide (a.1 ≤ b.1)).map Prod.fst).Nodup :=
      ((List.mergeSort_perm xs _).map Prod.fst).nodup_iff.mpr h
    exact List.pairwise_map.mp hnodup
  refine (hle.and hne).imp fun hab => ?_
  exact lt_of_le_of_ne (of_decide_eq_true hab.1) hab.2

/-- Entries with different keys can be put in order in one way only. -/
lemma mergeSort_key_eq_of_perm (h : (xs.map Prod.fst).Nodup)
    (hys : (ys.map Prod.fst).Pairwise (· < ·)) (hperm : ys.Perm xs) :
    (xs.mergeSort fun a b => decide (a.1 ≤ b.1)) = ys := by
  refine List.Perm.eq_of_pairwise (fun a b _ _ hab hba => absurd hba (lt_asymm hab))
    (pairwise_mergeSort_key h) (List.pairwise_map.mp hys) ?_
  exact (List.mergeSort_perm _ _).trans hperm.symm

end KeyOrder

namespace OrderedMap

variable {κ ν : Type} [DecidableEq κ]

/-! ## One step -/

/-- A key that was changed holds what the change has made of it. -/
lemma get?_alter_self (m : OrderedMap κ ν) (k : κ) (f : Option ν → ν) :
    (m.alter k f).get? k = some (f (m.get? k)) := by
  obtain ⟨entries⟩ := m
  simp only [alter, get?]
  induction entries with
  | nil => simp [alterEntries, find?]
  | cons e more ih =>
    obtain ⟨k', v⟩ := e
    by_cases h : k' = k
    · simp [alterEntries, find?, h]
    · simpa [alterEntries, find?, h] using ih

/-- No other key holds anything else than before. -/
lemma get?_alter_of_ne (m : OrderedMap κ ν) {k l : κ} (hne : l ≠ k) (f : Option ν → ν) :
    (m.alter k f).get? l = m.get? l := by
  obtain ⟨entries⟩ := m
  simp only [alter, get?]
  induction entries with
  | nil => simp [alterEntries, find?, Ne.symm hne]
  | cons e more ih =>
    obtain ⟨k', v⟩ := e
    by_cases h : k' = k
    · subst h
      simp [alterEntries, find?, Ne.symm hne]
    · by_cases hl : k' = l
      · subst hl
        simp [alterEntries, find?, h]
      · simpa [alterEntries, find?, h, hl] using ih

/-- A key that is there keeps its place. -/
lemma keys_alter_of_mem (m : OrderedMap κ ν) {k : κ} (f : Option ν → ν) (hk : k ∈ m.keys) :
    (m.alter k f).keys = m.keys := by
  obtain ⟨entries⟩ := m
  simp only [alter, keys] at hk ⊢
  induction entries with
  | nil => simp at hk
  | cons e more ih =>
    obtain ⟨k', v⟩ := e
    by_cases h : k' = k
    · simp [alterEntries, h]
    · rw [List.map_cons, List.mem_cons, or_iff_right (Ne.symm h)] at hk
      rw [alterEntries, if_neg h, List.map_cons, List.map_cons, ih hk]

/-- A new key comes last. -/
lemma keys_alter_of_notMem (m : OrderedMap κ ν) {k : κ} (f : Option ν → ν) (hk : k ∉ m.keys) :
    (m.alter k f).keys = m.keys ++ [k] := by
  obtain ⟨entries⟩ := m
  simp only [alter, keys] at hk ⊢
  induction entries with
  | nil => rfl
  | cons e more ih =>
    obtain ⟨k', v⟩ := e
    rw [List.map_cons, List.mem_cons, not_or] at hk
    rw [alterEntries, if_neg (Ne.symm hk.1), List.map_cons, List.map_cons, ih hk.2,
      List.cons_append]

/-- The keys are those that hold something. -/
lemma isSome_get?_iff (m : OrderedMap κ ν) (k : κ) : (m.get? k).isSome ↔ k ∈ m.keys := by
  obtain ⟨entries⟩ := m
  simp only [get?, keys]
  induction entries with
  | nil => simp [find?]
  | cons e more ih =>
    obtain ⟨k', v⟩ := e
    by_cases h : k' = k
    · simp [find?, h]
    · simpa [find?, h, Ne.symm h] using ih

lemma contains_iff (m : OrderedMap κ ν) (k : κ) : m.contains k ↔ k ∈ m.keys :=
  m.isSome_get?_iff k

/-! ## What two maps have in common -/

/-- Where no two keys are the same, the entries are what look-ups find. -/
lemma mem_entries_iff {m : OrderedMap κ ν} (h : m.keys.Nodup) {k : κ} {v : ν} :
    (k, v) ∈ m.entries ↔ m.get? k = some v := by
  obtain ⟨entries⟩ := m
  simp only [keys, get?] at h ⊢
  induction entries with
  | nil => simp [find?]
  | cons e more ih =>
    obtain ⟨k', v'⟩ := e
    rw [List.map_cons, List.nodup_cons] at h
    have hmore := ih h.2
    by_cases hk : k' = k
    · subst hk
      have hnew : (k', v) ∉ more := fun hmem => h.1 (List.mem_map.mpr ⟨_, hmem, rfl⟩)
      simp [find?, hnew, eq_comm]
    · simp [find?, hk, Ne.symm hk, hmore]

/-- Where no two keys are the same, the entries are the keys with what look-ups find. -/
lemma entries_eq_map_keys {m : OrderedMap κ ν} (h : m.keys.Nodup) (fallback : ν) :
    m.entries = m.keys.map fun k => (k, (m.get? k).getD fallback) := by
  obtain ⟨entries⟩ := m
  simp only [keys, get?] at h ⊢
  induction entries with
  | nil => rfl
  | cons e more ih =>
    obtain ⟨k, v⟩ := e
    rw [List.map_cons, List.nodup_cons] at h
    have hmore : (more.map Prod.fst).map (fun l => (l, (find? l ((k, v) :: more)).getD fallback))
        = (more.map Prod.fst).map fun l => (l, (find? l more).getD fallback) := by
      refine List.map_congr_left fun l hl => ?_
      have hne : k ≠ l := fun heq => h.1 (heq ▸ hl)
      rw [find?, if_neg hne]
    rw [List.map_cons, List.map_cons, hmore, ← ih h.2]
    simp [find?]

/-- Where no two keys are the same, the values are what look-ups find, one key after the other. -/
lemma map_some_values {m : OrderedMap κ ν} (h : m.keys.Nodup) :
    m.values.map some = m.keys.map m.get? := by
  rw [values, keys, List.map_map, List.map_map]
  apply List.map_congr_left
  intro e he
  have hget : m.get? e.1 = some e.2 := (mem_entries_iff h).mp he
  exact hget.symm

/-- Two maps in which look-ups find the same have the same entries, perhaps in another order. -/
lemma perm_entries_of_get?_eq {m n : OrderedMap κ ν} (hm : m.keys.Nodup) (hn : n.keys.Nodup)
    (h : ∀ k, m.get? k = n.get? k) : m.entries.Perm n.entries := by
  have hm' : m.entries.Nodup := List.Nodup.of_map Prod.fst hm
  have hn' : n.entries.Nodup := List.Nodup.of_map Prod.fst hn
  refine (List.perm_ext_iff_of_nodup hm' hn').mpr fun ⟨k, v⟩ => ?_
  rw [mem_entries_iff hm, mem_entries_iff hn, h]

/-- Sorted by their keys, two maps are the same if and only if look-ups find the same in them. -/
theorem mergeSort_key_eq_iff {m n : OrderedMap String ν} (hm : m.keys.Nodup) (hn : n.keys.Nodup) :
    (m.entries.mergeSort fun a b => decide (a.1 ≤ b.1))
        = n.entries.mergeSort (fun a b => decide (a.1 ≤ b.1))
      ↔ ∀ k, m.get? k = n.get? k := by
  constructor
  · intro heq k
    have hperm : m.entries.Perm n.entries :=
      (List.mergeSort_perm m.entries _).symm.trans (heq ▸ List.mergeSort_perm n.entries _)
    refine Option.ext fun v => ?_
    rw [← mem_entries_iff hm, ← mem_entries_iff hn, hperm.mem_iff]
  · intro hget
    refine mergeSort_key_eq_of_perm hm ?_ ?_
    · exact List.pairwise_map.mpr (pairwise_mergeSort_key hn)
    · exact (List.mergeSort_perm _ _).trans (perm_entries_of_get?_eq hm hn hget).symm

/-! ## Filling a map -/

variable {α : Type}

/-- The keys of a map that is filled from the empty one, each where it first came. -/
theorem keys_foldl_alter (key : α → κ) (f : α → Option ν → ν) (xs : List α) :
    (xs.foldl (fun m x => m.alter (key x) (f x)) (⟨[]⟩ : OrderedMap κ ν)).keys
      = (xs.map key).eraseDups := by
  induction xs using List.reverseRecOn with
  | nil => rfl
  | append_singleton xs x ih =>
    rw [List.foldl_append, List.foldl_cons, List.foldl_nil, List.map_append, List.map_cons,
      List.map_nil, eraseDups_concat]
    by_cases h : key x ∈ xs.map key
    · rw [if_pos h, keys_alter_of_mem _ _ (by rw [ih]; exact List.mem_eraseDups.mpr h), ih]
    · rw [if_neg h, keys_alter_of_notMem _ _ (by rw [ih]; exact mt List.mem_eraseDups.mp h), ih]

/-- The value of a key in a map that is filled from the empty one: what the things put under this
key made of each other, one after the other. -/
theorem get?_foldl_alter (key : α → κ) (f : α → Option ν → ν) (xs : List α) (k : κ) :
    (xs.foldl (fun m x => m.alter (key x) (f x)) (⟨[]⟩ : OrderedMap κ ν)).get? k
      = (xs.filter fun x => key x = k).foldl (fun held x => some (f x held)) none := by
  induction xs using List.reverseRecOn with
  | nil => rfl
  | append_singleton xs x ih =>
    rw [List.foldl_append, List.foldl_cons, List.foldl_nil, List.filter_append, List.foldl_append,
      ← ih]
    by_cases h : key x = k
    · rw [← h, get?_alter_self]
      simp
    · rw [get?_alter_of_ne _ (Ne.symm h)]
      simp [h]

end OrderedMap

end InterfaceAtlas
