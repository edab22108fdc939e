import InterfaceAtlas.Proofs.Matching.Summary
import Mathlib.Algebra.Ring.Nat

/-!
# What relations hold

Relations are filled match by match. Afterwards an interface holds the methods of its matches, in
their order, and a method holds the interface of its last match: `ofMatches_records`.

A resolver does not make its matches one by one: it goes through some things (interfaces, or names
that interfaces share), and each of them stands for one interface and contributes a block of
methods. `Relations.blocks` is a list of matches of this form, and the lemmas on it read the two
maps off the things that the blocks come from:

* `keys_implementations_blocks` and `getD_implementations_blocks` for the interfaces;
* `mem_keys_interfaceOf_blocks` and `get?_interfaceOf_blocks` for the methods.
-/

namespace InterfaceAtlas

/-- A member that comes several times in a row counts once. -/
lemma eraseDups_append_replicate {α : Type} [DecidableEq α] (xs : List α) (a : α) (n : Nat) :
    (xs ++ List.replicate (n + 1) a).eraseDups = (xs ++ [a]).eraseDups := by
  induction n with
  | zero => rfl
  | succ n ih =>
    have hmem : a ∈ xs ++ List.replicate (n + 1) a := by simp
    rw [List.replicate_succ', ← List.append_assoc, eraseDups_concat, if_pos hmem, ih]

namespace Relations

/-! ## Match by match -/

lemma keys_implementations_ofMatches (ms : List (String × String)) :
    (ofMatches ms).implementations.keys = (ms.map Prod.fst).eraseDups := by
  rw [implementations_ofMatches, OrderedMap.keys_foldl_alter]

lemma keys_interfaceOf_ofMatches (ms : List (String × String)) :
    (ofMatches ms).interfaceOf.keys = (ms.map Prod.snd).eraseDups := by
  rw [interfaceOf_ofMatches, OrderedMap.keys_foldl_alter]

/-- An interface holds the methods of its matches; one without matches holds none. -/
lemma getD_implementations_ofMatches (ms : List (String × String)) (interface : String) :
    ((ofMatches ms).implementations.get? interface).getD []
      = (ms.filter fun x => x.1 = interface).map Prod.snd := by
  rw [implementations_ofMatches, OrderedMap.get?_foldl_alter]
  induction ms.filter (fun x => x.1 = interface) using List.reverseRecOn with
  | nil => rfl
  | append_singleton own x ih =>
    rw [List.foldl_append, List.map_append, ← ih]
    rfl

/-- A method holds the interface of its last match. -/
lemma get?_interfaceOf_ofMatches (ms : List (String × String)) (method : String) :
    (ofMatches ms).interfaceOf.get? method
      = ((ms.filter fun x => x.2 = method).map Prod.fst).getLast? := by
  rw [interfaceOf_ofMatches, OrderedMap.get?_foldl_alter]
  induction ms.filter (fun x => x.2 = method) using List.reverseRecOn with
  | nil => rfl
  | append_singleton own x _ =>
    rw [List.foldl_append, List.map_append, List.getLast?_append]
    rfl

lemma isSome_get?_implementations_ofMatches (ms : List (String × String)) (interface : String) :
    ((ofMatches ms).implementations.get? interface).isSome ↔ interface ∈ ms.map Prod.fst := by
  rw [OrderedMap.isSome_get?_iff, keys_implementations_ofMatches, List.mem_eraseDups]

lemma get?_implementations_ofMatches (ms : List (String × String)) (interface : String) :
    (ofMatches ms).implementations.get? interface
      = if interface ∈ ms.map Prod.fst then
          some ((ms.filter fun x => x.1 = interface).map Prod.snd)
        else none := by
  have hgetD := getD_implementations_ofMatches ms interface
  have hsome := isSome_get?_implementations_ofMatches ms interface
  cases hget : (ofMatches ms).implementations.get? interface with
  | none =>
    rw [hget] at hsome
    rw [if_neg]
    intro hmem
    exact absurd (hsome.mpr hmem) (by decide)
  | some methods =>
    rw [hget, Option.getD_some] at hgetD
    rw [hget] at hsome
    rw [if_pos (hsome.mp rfl), hgetD]

/-- How often methods are mentioned, over all interfaces. -/
def mentions (r : Relations) : Nat := (r.implementations.values.map List.length).sum

/-- A match adds one mention, under an interface that is there or under a new one. -/
lemma mentions_add (r : Relations) (interface method : String) :
    (r.add interface method).mentions = r.mentions + 1 := by
  obtain ⟨⟨entries⟩, interfaceOf⟩ := r
  show (((OrderedMap.alterEntries interface (fun held => held.getD [] ++ [method]) entries).map
    Prod.snd).map List.length).sum = ((entries.map Prod.snd).map List.length).sum + 1
  induction entries with
  | nil => rfl
  | cons e more ih =>
    obtain ⟨name, methods⟩ := e
    rw [OrderedMap.alterEntries]
    split
    · simp only [List.map_cons, List.sum_cons, Option.getD_some, List.length_append,
        List.length_singleton]
      omega
    · simp only [List.map_cons, List.sum_cons, ih]
      omega

lemma mentions_ofMatches (ms : List (String × String)) : (ofMatches ms).mentions = ms.length := by
  induction ms using List.reverseRecOn with
  | nil => rfl
  | append_singleton ms x ih =>
    rw [ofMatches, List.foldl_append, ← ofMatches, List.foldl_cons, List.foldl_nil, mentions_add,
      ih, List.length_append, List.length_singleton]

/-- An interface is there because of a match, so it holds a method. -/
lemma ne_nil_of_mem_values {ms : List (String × String)} {methods : List String}
    (h : methods ∈ (ofMatches ms).implementations.values) : methods ≠ [] := by
  obtain ⟨⟨interface, held⟩, hentry, rfl⟩ := List.mem_map.mp h
  rw [OrderedMap.mem_entries_iff (nodup_keys_implementations ms), get?_implementations_ofMatches]
    at hentry
  split at hentry
  · next hmem =>
    obtain ⟨x, hx, hfst⟩ := List.mem_map.mp hmem
    rw [← Option.some.inj hentry]
    have hown : x ∈ ms.filter fun x => x.1 = interface :=
      List.mem_filter.mpr ⟨hx, decide_eq_true hfst⟩
    exact List.ne_nil_of_mem (List.mem_map.mpr ⟨x, hown, rfl⟩)
  · cases hentry

/-- The interface that a method holds was matched with it. -/
lemma mem_of_get?_interfaceOf {ms : List (String × String)} {method interface : String}
    (h : (ofMatches ms).interfaceOf.get? method = some interface) : (interface, method) ∈ ms := by
  rw [get?_interfaceOf_ofMatches] at h
  obtain ⟨x, hx, hfst⟩ := List.mem_map.mp (List.mem_of_getLast? h)
  obtain ⟨hmem, hsnd⟩ := List.mem_filter.mp hx
  rw [← hfst, ← of_decide_eq_true hsnd]
  exact hmem

/-- **What relations record.** Whatever the matches are, an interface holds the methods that it was
matched with, one after the other, so that there is no interface without methods and each match is
mentioned once. A method holds the interface of its last match. The names in both maps stand where
they first came. And the two maps agree: the interface that a method holds mentions the method. -/
theorem ofMatches_records (ms : List (String × String)) :
    (∀ interface, (ofMatches ms).implementations.get? interface
        = if interface ∈ ms.map Prod.fst then
            some ((ms.filter fun x => x.1 = interface).map Prod.snd)
          else none)
      ∧ (∀ methods ∈ (ofMatches ms).implementations.values, methods ≠ [])
      ∧ ((ofMatches ms).implementations.values.map List.length).sum = ms.length
      ∧ (ofMatches ms).implementations.keys = (ms.map Prod.fst).eraseDups
      ∧ (∀ method, (ofMatches ms).interfaceOf.get? method
        = ((ms.filter fun x => x.2 = method).map Prod.fst).getLast?)
      ∧ (ofMatches ms).interfaceOf.keys = (ms.map Prod.snd).eraseDups
      ∧ ∀ e ∈ (ofMatches ms).interfaceOf.entries,
        ∃ methods, (ofMatches ms).implementations.get? e.2 = some methods ∧ e.1 ∈ methods := by
  refine ⟨get?_implementations_ofMatches ms, fun methods => ne_nil_of_mem_values,
    mentions_ofMatches ms, keys_implementations_ofMatches ms, get?_interfaceOf_ofMatches ms,
    keys_interfaceOf_ofMatches ms, ?_⟩
  intro e he
  have hget : (ofMatches ms).interfaceOf.get? e.1 = some e.2 :=
    (OrderedMap.mem_entries_iff (nodup_keys_interfaceOf ms)).mp he
  have hmatch : (e.2, e.1) ∈ ms := mem_of_get?_interfaceOf hget
  have hkey : e.2 ∈ ms.map Prod.fst := List.mem_map.mpr ⟨_, hmatch, rfl⟩
  refine ⟨_, by rw [get?_implementations_ofMatches, if_pos hkey], ?_⟩
  exact List.mem_map.mpr ⟨_, List.mem_filter.mpr ⟨hmatch, decide_eq_true rfl⟩, rfl⟩

/-- Matches of two interfaces, of which one comes twice with a method that the other takes over. -/
def streamMatches : List (String × String) :=
  [("Stream", "Read"), ("Stream", "Close"), ("Closer", "Close"), ("Stream", "Read")]

theorem ofMatches_records_streams :
    (("Read", "Stream") ∈ (ofMatches streamMatches).interfaceOf.entries
        ∧ ∃ methods, (ofMatches streamMatches).implementations.get? "Stream" = some methods
          ∧ "Read" ∈ methods)
      ∧ (["Read", "Close", "Read"] ∈ (ofMatches streamMatches).implementations.values
        ∧ ["Read", "Close", "Read"] ≠ [])
      ∧ (ofMatches streamMatches).interfaceOf.get? "Close" = some "Closer" := by
  have hentry : ("Read", "Stream") ∈ (ofMatches streamMatches).interfaceOf.entries := by decide
  have hvalue : ["Read", "Close", "Read"] ∈ (ofMatches streamMatches).implementations.values := by
    decide
  obtain ⟨-, hne, -, -, hlast, -, hagree⟩ := ofMatches_records streamMatches
  refine ⟨⟨hentry, hagree _ hentry⟩, ⟨hvalue, hne _ hvalue⟩, ?_⟩
  rw [hlast]
  decide

/-! ## Block by block -/

variable {α : Type}

/-- The matches of some things: each of them stands for the interface `name x` and matches it with
the methods `methods x`. -/
def blocks (name : α → String) (methods : α → List String) (xs : List α) :
    List (String × String) :=
  xs.flatMap fun x => (methods x).map fun method => (name x, method)

section Blocks

variable (name : α → String) (methods : α → List String)

lemma blocks_concat (xs : List α) (x : α) :
    blocks name methods (xs ++ [x])
      = blocks name methods xs ++ (methods x).map fun method => (name x, method) := by
  rw [blocks, List.flatMap_append, List.flatMap_singleton, ← blocks]

/-- The interfaces are those that some block is not empty for, each where its first such block
came. -/
lemma keys_implementations_blocks (xs : List α) :
    (ofMatches (blocks name methods xs)).implementations.keys
      = ((xs.filter fun x => methods x ≠ []).map name).eraseDups := by
  rw [keys_implementations_ofMatches]
  induction xs using List.reverseRecOn with
  | nil => rfl
  | append_singleton xs x ih =>
    have hblock : ((methods x).map fun method => (name x, method)).map Prod.fst
        = List.replicate (methods x).length (name x) := by
      rw [List.map_map]
      exact List.map_const'
    rw [blocks_concat, List.map_append, hblock, List.filter_append, List.map_append]
    cases hmethods : methods x with
    | nil =>
      have hnone : [x].filter (fun x => methods x ≠ []) = [] := by simp [hmethods]
      rw [hnone, List.map_nil, List.append_nil, ← ih]
      simp
    | cons method more =>
      have hself : [x].filter (fun x => methods x ≠ []) = [x] := by simp [hmethods]
      -- the block mentions its interface once or more, which adds the interface once
      rw [hself, List.map_singleton, List.length_cons, eraseDups_append_replicate,
        eraseDups_concat, eraseDups_concat, ih]
      have hmem : name x ∈ (blocks name methods xs).map Prod.fst
          ↔ name x ∈ (xs.filter fun x => methods x ≠ []).map name := by
        rw [← List.mem_eraseDups, ih, List.mem_eraseDups]
      simp only [hmem]

/-- An interface holds the blocks of the things that stand for it. -/
lemma getD_implementations_blocks (xs : List α) (interface : String) :
    ((ofMatches (blocks name methods xs)).implementations.get? interface).getD []
      = (xs.filter fun x => name x = interface).flatMap methods := by
  rw [getD_implementations_ofMatches]
  induction xs using List.reverseRecOn with
  | nil => rfl
  | append_singleton xs x ih =>
    rw [blocks_concat, List.filter_append, List.map_append, ih, List.filter_append,
      List.flatMap_append]
    by_cases h : name x = interface
    · simp [List.filter_map, Function.comp_def, h]
    · simp [List.filter_map, Function.comp_def, h]

lemma mem_keys_interfaceOf_blocks (xs : List α) (method : String) :
    method ∈ (ofMatches (blocks name methods xs)).interfaceOf.keys
      ↔ ∃ x ∈ xs, method ∈ methods x := by
  rw [keys_interfaceOf_ofMatches, List.mem_eraseDups, blocks, List.map_flatMap, List.mem_flatMap]
  simp

/-- A method holds the interface of the last block that it is in. -/
lemma get?_interfaceOf_blocks (xs : List α) (method : String) :
    (ofMatches (blocks name methods xs)).interfaceOf.get? method
      = ((xs.filter fun x => method ∈ methods x).getLast?).map name := by
  rw [get?_interfaceOf_ofMatches]
  induction xs using List.reverseRecOn with
  | nil => rfl
  | append_singleton xs x ih =>
    rw [blocks_concat, List.filter_append, List.map_append, List.getLast?_append, ih,
      List.filter_append, List.getLast?_append]
    -- a block that mentions the method does so each time with its own interface
    have hblock : (((methods x).map fun m => (name x, m)).filter fun p => p.2 = method).map Prod.fst
        = List.replicate ((methods x).filter fun m => m = method).length (name x) := by
      rw [List.filter_map, List.map_map]
      exact List.map_const'
    rw [hblock, List.getLast?_replicate]
    by_cases h : method ∈ methods x
    · have hne : ((methods x).filter fun m => m = method).length ≠ 0 := by
        rw [ne_eq, List.length_eq_zero_iff, List.filter_eq_nil_iff]
        intro hnone
        exact hnone method h (decide_eq_true rfl)
      simp [hne, h]
    · have hnone : ((methods x).filter fun m => m = method).length = 0 := by
        rw [List.length_eq_zero_iff, List.filter_eq_nil_iff]
        intro m hm heq
        exact h (of_decide_eq_true heq ▸ hm)
      simp [hnone, h]

end Blocks

end Relations

end InterfaceAtlas
