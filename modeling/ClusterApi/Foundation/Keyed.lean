import Mathlib.Data.List.Nodup
import Mathlib.Data.List.Perm.Subperm

namespace ClusterApi.Foundation

open List

/-!
# Objects by key

A server keeps its objects by key: no two objects of a collection have the
same one.  The operations keep this by construction, so that a key that is
found belongs to one object only.
-/

universe u v

structure Keyed (Object : Type u) {Key : Type v} (key : Object → Key) where
  list : List Object
  distinct : (list.map key).Nodup

namespace Keyed

variable {Object : Type u} {Key : Type v} {key : Object → Key}

instance : Membership Object (Keyed Object key) where
  mem objects object := object ∈ objects.list

variable {objects : Keyed Object key} {object new : Object} {wanted : Key}

theorem eq_of_key_eq {first second : Object} (firstInside : first ∈ objects)
    (secondInside : second ∈ objects) (same : key first = key second) : first = second :=
  inj_on_of_nodup_map objects.distinct firstInside secondInside same

/-- Keep the objects that meet a condition. -/
def keep (objects : Keyed Object key) (condition : Object → Bool) : Keyed Object key where
  list := objects.list.filter condition
  distinct := objects.distinct.sublist (List.filter_sublist.map _)

theorem mem_keep {condition : Object → Bool} :
    object ∈ objects.keep condition ↔ object ∈ objects ∧ condition object = true :=
  mem_filter

theorem length_le {keys : List Key} (known : ∀ object ∈ objects, key object ∈ keys) :
    objects.list.length ≤ keys.length := by
  have subset : objects.list.map key ⊆ keys := by
    intro _ inside
    rcases mem_map.mp inside with ⟨object, member, rfl⟩
    exact known object member
  have bound := (subperm_of_subset objects.distinct subset).length_le
  rwa [length_map] at bound

variable [DecidableEq Key] {after : Keyed Object key}

def find? (objects : Keyed Object key) (wanted : Key) : Option Object :=
  objects.list.find? fun object => key object = wanted

theorem find?_eq_some : objects.find? wanted = some object ↔ object ∈ objects ∧ key object = wanted := by
  constructor
  · intro found
    exact ⟨mem_of_find?_eq_some found, by simpa using find?_some found⟩
  · rintro ⟨inside, isWanted⟩
    cases found : objects.find? wanted with
    | none =>
      rw [find?, find?_eq_none] at found
      exact absurd isWanted (by simpa using found object inside)
    | some other =>
      have otherInside : other ∈ objects := mem_of_find?_eq_some found
      have otherWanted : key other = wanted := by simpa using find?_some found
      rw [eq_of_key_eq otherInside inside (otherWanted.trans isWanted.symm)]

/-- Change the object of a key, in a way that keeps the key. -/
def update (objects : Keyed Object key) (wanted : Key) (change : Object → Object)
    (keepsKey : ∀ object, key (change object) = key object) : Keyed Object key where
  list := objects.list.map fun object => if key object = wanted then change object else object
  distinct := by
    rw [List.map_map]
    have same : key ∘ (fun object => if key object = wanted then change object else object) = key := by
      funext object
      rw [Function.comp_apply]
      split_ifs
      · exact keepsKey object
      · rfl
    rw [same]
    exact objects.distinct

theorem mem_update {change : Object → Object} {keepsKey : ∀ object, key (change object) = key object} :
    object ∈ objects.update wanted change keepsKey ↔
      (object ∈ objects ∧ key object ≠ wanted) ∨ ∃ old ∈ objects, key old = wanted ∧ object = change old := by
  change object ∈ objects.list.map _ ↔ _
  rw [mem_map]
  constructor
  · rintro ⟨old, inside, rfl⟩
    split_ifs with isWanted
    · exact .inr ⟨old, inside, isWanted, rfl⟩
    · exact .inl ⟨inside, isWanted⟩
  · rintro (⟨inside, other⟩ | ⟨old, inside, isWanted, rfl⟩)
    · exact ⟨object, inside, if_neg other⟩
    · exact ⟨old, inside, if_pos isWanted⟩

theorem find?_update {change : Object → Object} {keepsKey : ∀ object, key (change object) = key object} {other : Key} :
    (objects.update wanted change keepsKey).find? other =
      if other = wanted then (objects.find? wanted).map change else objects.find? other := by
  change List.find? _ (objects.list.map _) = _
  rw [find?_map]
  have sameKey : ((fun object => decide (key object = other)) ∘ fun object =>
      if key object = wanted then change object else object) = fun object => decide (key object = other) := by
    funext object
    rw [Function.comp_apply]
    split_ifs
    · rw [keepsKey]
    · rfl
  rw [sameKey]
  split_ifs with isWanted
  · subst isWanted
    apply Option.map_congr
    intro object found
    exact if_pos (by simpa using find?_some found)
  · calc
      _ = Option.map id (objects.list.find? fun object => key object = other) := by
        apply Option.map_congr
        intro object found
        have isOther : key object = other := by simpa using find?_some found
        exact if_neg (isOther ▸ isWanted)
      _ = objects.find? other := Option.map_id_apply

theorem countP_update (inside : object ∈ objects) (change : Object → Object)
    (keepsKey : ∀ object, key (change object) = key object) (meets : Object → Bool) :
    (objects.update (key object) change keepsKey).list.countP meets + (if meets object then 1 else 0) =
      objects.list.countP meets + if meets (change object) then 1 else 0 := by
  rcases append_of_mem (show object ∈ objects.list from inside) with ⟨before, after, split⟩
  have distinct := objects.distinct
  rw [split, map_append, map_cons, nodup_append, nodup_cons] at distinct
  have unchanged : ∀ part : List Object, (∀ other ∈ part, key other ≠ key object) →
      part.map (fun other => if key other = key object then change other else other) = part := by
    intro part others
    apply (map_congr_left fun other member => if_neg (others other member)).trans
    exact map_id' part
  have beforeSame := unchanged before fun other member same =>
    distinct.2.2 (key other) (mem_map_of_mem member) (key object) mem_cons_self same
  have afterSame := unchanged after fun other member same =>
    distinct.2.1.1 (same ▸ mem_map_of_mem member)
  have listed : (objects.update (key object) change keepsKey).list = before ++ change object :: after := by
    change objects.list.map _ = _
    rw [split, map_append, map_cons, beforeSame, afterSame, if_pos rfl]
  rw [listed, split, countP_append, countP_append, countP_cons, countP_cons]
  omega

/-- A key that is taken is refused. -/
def insert (objects : Keyed Object key) (new : Object) : Option (Keyed Object key) :=
  if fresh : key new ∉ objects.list.map key then
    some { list := new :: objects.list, distinct := List.nodup_cons.mpr ⟨fresh, objects.distinct⟩ }
  else none

theorem list_insert (inserted : objects.insert new = some after) : after.list = new :: objects.list := by
  unfold insert at inserted
  split at inserted
  · cases inserted
    rfl
  · cases inserted

theorem insert_eq_some (inserted : objects.insert new = some after) :
    ∀ object, object ∈ after ↔ object = new ∨ object ∈ objects := by
  intro object
  change object ∈ after.list ↔ _
  rw [list_insert inserted]
  exact mem_cons

/-- Store an object; one with the same key is replaced. -/
def put (objects : Keyed Object key) (new : Object) : Keyed Object key where
  list := new :: objects.list.filter fun object => key object ≠ key new
  distinct := by
    rw [List.map_cons, List.nodup_cons]
    refine ⟨?_, objects.distinct.sublist (List.filter_sublist.map _)⟩
    intro taken
    rcases List.mem_map.mp taken with ⟨object, inside, same⟩
    exact of_decide_eq_true (List.mem_filter.mp inside).2 same

theorem mem_put : object ∈ objects.put new ↔ object = new ∨ (object ∈ objects ∧ key object ≠ key new) := by
  change object ∈ new :: objects.list.filter _ ↔ _
  rw [mem_cons, mem_filter, decide_eq_true_eq]
  rfl

end Keyed

end ClusterApi.Foundation
