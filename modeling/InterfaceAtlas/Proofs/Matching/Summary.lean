import InterfaceAtlas.Matching.Relations
import InterfaceAtlas.Proofs.Container.OrderedMap
import InterfaceAtlas.Proofs.Json.RoundTrip

/-!
# The summary of a package on the wire

Relations are filled match by match, and their two maps remember in which order names came. The
summary forgets this order and nothing else: `encode_toJson_eq_iff`. It is put together from three
facts:

* the maps of relations are filled maps, so no key stands in them twice
  (`implementations_ofMatches`, `interfaceOf_ofMatches`);
* sorted by their keys, two maps are the same exactly if they hold the same
  (`OrderedMap.mergeSort_key_eq_iff`);
* the text of a JSON value determines it (`Json.eq_of_encode_eq`).
-/

namespace InterfaceAtlas

/-! ## Members made from entries -/

namespace Json

variable {α : Type} {f : α → Json}

lemma areFloatFree_map_text (names : List String) : areFloatFree (names.map text) := by
  induction names with
  | nil => rfl
  | cons name more ih => exact ih

lemma membersFloatFree_map (h : ∀ a, (f a).isFloatFree) (entries : List (String × α)) :
    membersFloatFree (entries.map fun e => (e.1, f e.2)) := by
  induction entries with
  | nil => rfl
  | cons e more ih => rw [List.map_cons, membersFloatFree, ih, h, Bool.and_true]

/-- Lists of names are written apart. -/
lemma texts_injective : Function.Injective texts := by
  intro names others h
  rw [texts, texts, list.injEq] at h
  exact List.map_injective_iff.mpr (fun _ _ heq => text.inj heq) h

lemma map_members_injective (h : Function.Injective f) :
    Function.Injective fun entries : List (String × α) => entries.map fun e => (e.1, f e.2) := by
  refine List.map_injective_iff.mpr fun ⟨key, a⟩ ⟨key', b⟩ heq => ?_
  rw [Prod.mk.injEq] at heq
  exact Prod.ext heq.1 (h heq.2)

end Json

namespace Relations

/-! ## Relations as filled maps -/

/-- For each interface the methods that were matched with it, one after the other. -/
lemma implementations_ofMatches (ms : List (String × String)) :
    (ofMatches ms).implementations
      = ms.foldl (fun m x => m.alter x.1 fun held => held.getD [] ++ [x.2]) ⟨[]⟩ :=
  (List.foldl_hom implementations fun _ _ => rfl).symm

/-- For each method the interface that it was last matched with. -/
lemma interfaceOf_ofMatches (ms : List (String × String)) :
    (ofMatches ms).interfaceOf = ms.foldl (fun m x => m.alter x.2 fun _ => x.1) ⟨[]⟩ :=
  (List.foldl_hom interfaceOf fun _ _ => rfl).symm

lemma nodup_keys_implementations (ms : List (String × String)) :
    (ofMatches ms).implementations.keys.Nodup := by
  rw [implementations_ofMatches, OrderedMap.keys_foldl_alter]
  exact nodup_eraseDups _

lemma nodup_keys_interfaceOf (ms : List (String × String)) :
    (ofMatches ms).interfaceOf.keys.Nodup := by
  rw [interfaceOf_ofMatches, OrderedMap.keys_foldl_alter]
  exact nodup_eraseDups _

/-! ## The summary -/

/-- The members of the summary: the interfaces with their methods, and the methods with their
interface. -/
lemma toJson_eq (r : Relations) :
    r.toJson = .object [
      ("interfaceImplementations",
        .object ((sorted r.implementations).map fun e => (e.1, Json.texts e.2))),
      ("methodToInterface", .object ((sorted r.interfaceOf).map fun e => (e.1, Json.text e.2)))] :=
  rfl

/-- Relations hold nothing but names. -/
lemma isFloatFree_toJson (r : Relations) : r.toJson.isFloatFree := by
  have himplementations := Json.membersFloatFree_map (f := Json.texts) Json.areFloatFree_map_text
    (sorted r.implementations)
  have hinterfaces := Json.membersFloatFree_map (f := Json.text) (fun _ => rfl)
    (sorted r.interfaceOf)
  simp [toJson_eq, Json.isFloatFree, Json.membersFloatFree, himplementations, hinterfaces]

/-- The summary holds the two maps in the order of their keys. -/
lemma toJson_eq_iff (r q : Relations) :
    r.toJson = q.toJson
      ↔ sorted r.implementations = sorted q.implementations
        ∧ sorted r.interfaceOf = sorted q.interfaceOf := by
  have himplementations := (Json.map_members_injective Json.texts_injective).eq_iff
    (a := sorted r.implementations) (b := sorted q.implementations)
  have hinterfaces := (Json.map_members_injective fun _ _ => Json.text.inj).eq_iff
    (a := sorted r.interfaceOf) (b := sorted q.interfaceOf)
  simp [toJson_eq, himplementations, hinterfaces]

/-- The keys are written in strictly increasing order. -/
lemma pairwise_keys_sorted {α β : Type} {m : OrderedMap String α} (h : m.keys.Nodup) (f : α → β) :
    (((sorted m).map fun e => (e.1, f e.2)).map Prod.fst).Pairwise (· < ·) := by
  rw [List.map_map]
  exact List.pairwise_map.mpr (pairwise_mergeSort_key h)

/-- **The summary is canonical and loses nothing.** Two relations that were filled by any matches
have the same text exactly if they hold the same methods for each interface and the same interface
for each method, in whatever order the names came; and in the text the keys of both maps are
strictly increasing. -/
theorem encode_toJson_eq_iff (ms ns : List (String × String)) :
    ((ofMatches ms).toJson.encode = (ofMatches ns).toJson.encode
        ↔ (∀ interface, (ofMatches ms).implementations.get? interface
              = (ofMatches ns).implementations.get? interface)
          ∧ ∀ method, (ofMatches ms).interfaceOf.get? method
              = (ofMatches ns).interfaceOf.get? method)
      ∧ ∃ implementations interfaces : List (String × Json),
        Json.decode? (ofMatches ms).toJson.encode
            = some (.object [("interfaceImplementations", .object implementations),
                ("methodToInterface", .object interfaces)])
          ∧ (implementations.map Prod.fst).Pairwise (· < ·)
          ∧ (interfaces.map Prod.fst).Pairwise (· < ·) := by
  refine ⟨?_, _, _, ?_, pairwise_keys_sorted (nodup_keys_implementations ms) Json.texts,
    pairwise_keys_sorted (nodup_keys_interfaceOf ms) Json.text⟩
  · rw [← OrderedMap.mergeSort_key_eq_iff (nodup_keys_implementations ms)
        (nodup_keys_implementations ns),
      ← OrderedMap.mergeSort_key_eq_iff (nodup_keys_interfaceOf ms) (nodup_keys_interfaceOf ns)]
    refine Iff.trans ⟨fun h => ?_, congrArg Json.encode⟩ (toJson_eq_iff _ _)
    exact Json.eq_of_encode_eq (isFloatFree_toJson _) (isFloatFree_toJson _) h
  · rw [Json.decode?_encode (isFloatFree_toJson _), toJson_eq]

end Relations

end InterfaceAtlas
