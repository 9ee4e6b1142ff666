import Mathlib.Data.List.Nodup

namespace ClusterApi.Foundation

open List

/-!
# Merge patches between objects

A merge patch holds the fields that differ between two JSON objects, with null
for a field that is gone.  It descends into a field that is an object on both
sides; a field that is new stands in the patch with its whole value.

A change is described by the paths of the leaves of the patch.  An object
without fields has no leaves, so a new field whose value is an empty object is
a change that leaves no path.  Values other than objects are kept by their
text.
-/

mutual

inductive Json
  | scalar (text : String)
  | object (fields : Fields)
  deriving DecidableEq

inductive Fields
  | nil
  | cons (key : String) (value : Json) (rest : Fields)
  deriving DecidableEq

end

namespace Fields

def append : Fields → Fields → Fields
  | .nil, second => second
  | .cons key value rest, second => .cons key value (rest.append second)

def lookup (key : String) : Fields → Option Json
  | .nil => none
  | .cons found value rest => if found = key then some value else rest.lookup key

/-- The fields that have a value. -/
def ofList : List (String × Option Json) → Fields
  | [] => .nil
  | (_, none) :: rest => ofList rest
  | (key, some value) :: rest => .cons key value (ofList rest)

/-- The fields of `old` that are gone, as null. -/
def deleted (new : Fields) : Fields → Fields
  | .nil => .nil
  | .cons key _ rest =>
    if new.lookup key = none then .cons key (.scalar "null") (deleted new rest) else deleted new rest

/-- The fields that are new or have another value. -/
def changed (old : Fields) : Fields → Fields
  | .nil => .nil
  | .cons key (.scalar text) rest =>
    if old.lookup key = some (.scalar text) then changed old rest else .cons key (.scalar text) (changed old rest)
  | .cons key (.object after) rest =>
    match old.lookup key with
    | some (.object before) =>
      if before = after then changed old rest
      else
        match (changed before after).append (deleted after before) with
        | .nil => changed old rest
        | patch => .cons key (.object patch) (changed old rest)
    | _ => .cons key (.object after) (changed old rest)

/-- The merge patch from one object to another. -/
def mergePatch (old new : Fields) : Fields := (changed old new).append (deleted new old)

/-- The paths of all leaves, behind a path. -/
def paths (path : List String) : Fields → List (List String)
  | .nil => []
  | .cons key (.object nested) rest => paths (path ++ [key]) nested ++ paths path rest
  | .cons key (.scalar _) rest => (path ++ [key]) :: paths path rest

example : (mergePatch (ofList [("a", some (.scalar "1")), ("b", some (.object .nil)), ("c", some (.scalar "2"))])
    (ofList [("a", some (.scalar "1")), ("b", some (.object (ofList [("d", some (.scalar "3"))]))),
      ("e", some (.object .nil))])).paths [] = [["b", "d"], ["c"]] := by decide

/-! ## Appending -/

theorem append_nil : ∀ fields : Fields, fields.append .nil = fields
  | .nil => rfl
  | .cons key value rest => congrArg (Fields.cons key value) (append_nil rest)

theorem append_assoc (second third : Fields) : ∀ first : Fields,
    (first.append second).append third = first.append (second.append third)
  | .nil => rfl
  | .cons key value rest => congrArg (Fields.cons key value) (append_assoc second third rest)

theorem paths_append (path : List String) (second : Fields) : ∀ first : Fields,
    (first.append second).paths path = first.paths path ++ second.paths path
  | .nil => rfl
  | .cons key (.object nested) rest => by
      simp only [append, paths]
      rw [paths_append path second rest, List.append_assoc]
  | .cons key (.scalar text) rest => by
      simp only [append, paths]
      rw [paths_append path second rest, List.cons_append]

theorem paths_eq_map : ∀ (path : List String) (fields : Fields), fields.paths path = (fields.paths []).map (path ++ ·)
  | _, .nil => rfl
  | path, .cons key (.object nested) rest => by
      simp only [paths, List.nil_append]
      rw [paths_eq_map (path ++ [key]) nested, paths_eq_map [key] nested, paths_eq_map path rest]
      simp [Function.comp_def]
  | path, .cons key (.scalar text) rest => by
      simp only [paths, List.nil_append, List.map_cons]
      rw [paths_eq_map path rest]

theorem paths_cons_object (key : String) (nested rest : Fields) :
    (Fields.cons key (.object nested) rest).paths [] = (nested.paths []).map (key :: ·) ++ rest.paths [] := by
  rw [paths, nil_append, paths_eq_map]
  rfl

theorem deleted_append (new second : Fields) : ∀ first : Fields,
    deleted new (first.append second) = (deleted new first).append (deleted new second)
  | .nil => rfl
  | .cons key value rest => by
      simp only [append, deleted]
      split_ifs
      · rw [append, deleted_append new second rest]
      · exact deleted_append new second rest

theorem changed_cons (old : Fields) (key : String) (value : Json) (rest : Fields) :
    changed old (.cons key value rest) = (changed old (.cons key value .nil)).append (changed old rest) := by
  cases value with
  | scalar =>
    rw [changed, changed]
    split_ifs
    · rfl
    · rfl
  | object =>
    rw [changed, changed]
    split
    · split_ifs
      · rfl
      · split
        · rfl
        · rfl
    · rfl

theorem changed_append (old second : Fields) : ∀ first : Fields,
    changed old (first.append second) = (changed old first).append (changed old second)
  | .nil => rfl
  | .cons key value rest => by
      rw [append, changed_cons, changed_append old second rest, changed_cons old key value rest, append_assoc]

/-! ## Objects given by a list of fields -/

theorem ofList_append (second : List (String × Option Json)) : ∀ first : List
    (String × Option Json), ofList (first ++ second) = (ofList first).append (ofList second)
  | [] => rfl
  | (_, none) :: rest => ofList_append second rest
  | (key, some value) :: rest => congrArg (Fields.cons key value) (ofList_append second rest)

section Lists

variable {entries : List (String × Option Json)} {key : String} {value : Option Json}

theorem lookup_ofList_of_notMem (missing : key ∉ entries.map Prod.fst) : (ofList entries).lookup key = none := by
  induction entries with
  | nil => rfl
  | cons entry _ ih =>
    rcases entry with ⟨found, _ | _⟩
    · apply ih
      intro member
      exact missing (mem_cons_of_mem _ member)
    · have different : found ≠ key := by
        rintro rfl
        exact missing mem_cons_self
      rw [ofList, lookup, if_neg different]
      apply ih
      intro member
      exact missing (mem_cons_of_mem _ member)

theorem lookup_ofList (distinct : (entries.map Prod.fst).Nodup) (member : (key, value) ∈ entries) :
    (ofList entries).lookup key = value := by
  induction entries with
  | nil => cases member
  | cons entry _ ih =>
    rcases nodup_cons.mp distinct with ⟨fresh, restDistinct⟩
    rcases mem_cons.mp member with rfl | later
    · cases value with
      | none =>
        rw [ofList]
        exact lookup_ofList_of_notMem fresh
      | some => rw [ofList, lookup, if_pos rfl]
    · have different : entry.1 ≠ key := fun same => fresh (same ▸ mem_map_of_mem later)
      rcases entry with ⟨_, _ | _⟩
      · exact ih restDistinct later
      · rw [ofList, lookup, if_neg different]
        exact ih restDistinct later

theorem lookup_ofList_singleton (key : String) (value : Option Json) : (ofList [(key, value)]).lookup key = value :=
  lookup_ofList (nodup_singleton key) (mem_singleton_self (key, value))

theorem changed_ofList_eq_nil {old : Fields} (same : ∀ entry ∈ entries, old.lookup entry.1 = entry.2) :
    changed old (ofList entries) = .nil := by
  induction entries with
  | nil => rfl
  | cons entry _ ih =>
    have restSame := ih fun later member => same later (mem_cons_of_mem _ member)
    have headSame := same entry mem_cons_self
    rcases entry with ⟨_, _ | stored⟩
    · exact restSame
    · rw [ofList, changed_cons, restSame, append_nil]
      cases stored with
      | scalar | object => simp [changed, headSame]

theorem deleted_ofList_eq_nil {new : Fields} (same : ∀ entry ∈ entries, new.lookup entry.1 = entry.2) :
    deleted new (ofList entries) = .nil := by
  induction entries with
  | nil => rfl
  | cons entry _ ih =>
    have restSame := ih fun later member => same later (mem_cons_of_mem _ member)
    have headSame := same entry mem_cons_self
    rcases entry with ⟨_, _ | _⟩
    · exact restSame
    · rw [ofList, deleted, headSame, if_neg (by simp), restSame]

end Lists

/-! ## Field by field -/

/-- The patch of a single field. -/
def fieldPatch (key : String) (old new : Option Json) : Fields := mergePatch (ofList [(key, old)]) (ofList [(key, new)])

variable {key : String} {first entries : List (String × Option Json)} {path : List String} {second : Fields}

section

variable {first : Fields} (same : first.lookup key = second.lookup key) (value : Option Json)
include same

theorem changed_field_congr : changed first (ofList [(key, value)]) = changed second (ofList [(key, value)]) := by
  cases value with
  | none => rfl
  | some stored =>
    rw [ofList, ofList]
    cases stored with
    | scalar | object => rw [changed, changed, same, changed, changed]

theorem deleted_field_congr : deleted first (ofList [(key, value)]) = deleted second (ofList [(key, value)]) := by
  cases value with
  | none => rfl
  | some => rw [ofList, ofList, deleted, deleted, same, deleted, deleted]

end

theorem mem_paths_changed {old : Fields} :
    path ∈ (changed old (ofList entries)).paths [] ↔
      ∃ entry ∈ entries, path ∈ (changed old (ofList [entry])).paths [] := by
  induction entries with
  | nil => simp [ofList, changed, paths]
  | cons _ _ ih =>
    rw [← singleton_append, ofList_append, changed_append, paths_append, mem_append, ih,
      singleton_append, exists_mem_cons_iff]

theorem mem_paths_deleted {new : Fields} :
    path ∈ (deleted new (ofList entries)).paths [] ↔
      ∃ entry ∈ entries, path ∈ (deleted new (ofList [entry])).paths [] := by
  induction entries with
  | nil => simp [ofList, deleted, paths]
  | cons _ _ ih =>
    rw [← singleton_append, ofList_append, deleted_append, paths_append, mem_append, ih,
      singleton_append, exists_mem_cons_iff]

section FieldByField

variable {first second : List (String × Option Json)} {key : String}

theorem exists_field (keys : second.map Prod.fst = first.map Prod.fst) {value : Option Json}
    (member : (key, value) ∈ first) : ∃ other, (key, other) ∈ second := by
  have inSecond : key ∈ second.map Prod.fst := keys ▸ mem_map_of_mem member
  rcases mem_map.mp inSecond with ⟨⟨_, other⟩, inside, same⟩
  subst same
  exact ⟨other, inside⟩

theorem mem_paths_mergePatch (distinct : (first.map Prod.fst).Nodup)
    (keys : second.map Prod.fst = first.map Prod.fst) {path : List String} :
    path ∈ (mergePatch (ofList first) (ofList second)).paths [] ↔
      ∃ key old new, (key, old) ∈ first ∧ (key, new) ∈ second ∧ path ∈ (fieldPatch key old new).paths [] := by
  have secondDistinct : (second.map Prod.fst).Nodup := keys ▸ distinct
  have changedEq : ∀ {key old} new, (key, old) ∈ first →
      changed (ofList first) (ofList [(key, new)]) = changed (ofList [(key, old)]) (ofList [(key, new)]) :=
    fun new member => changed_field_congr
      ((lookup_ofList distinct member).trans (lookup_ofList_singleton _ _).symm) new
  have deletedEq : ∀ {key new} old, (key, new) ∈ second →
      deleted (ofList second) (ofList [(key, old)]) = deleted (ofList [(key, new)]) (ofList [(key, old)]) :=
    fun old member => deleted_field_congr
      ((lookup_ofList secondDistinct member).trans (lookup_ofList_singleton _ _).symm) old
  rw [mergePatch, paths_append, mem_append, mem_paths_changed, mem_paths_deleted]
  constructor
  · rintro (⟨⟨key, new⟩, inSecond, shown⟩ | ⟨⟨key, old⟩, inFirst, shown⟩)
    · rcases exists_field keys.symm inSecond with ⟨old, inFirst⟩
      refine ⟨key, old, new, inFirst, inSecond, ?_⟩
      rw [changedEq new inFirst] at shown
      rw [fieldPatch, mergePatch, paths_append]
      exact mem_append_left _ shown
    · rcases exists_field keys inFirst with ⟨new, inSecond⟩
      refine ⟨key, old, new, inFirst, inSecond, ?_⟩
      rw [deletedEq old inSecond] at shown
      rw [fieldPatch, mergePatch, paths_append]
      exact mem_append_right _ shown
  · rintro ⟨key, old, new, inFirst, inSecond, shown⟩
    rw [fieldPatch, mergePatch, paths_append, mem_append] at shown
    rcases shown with shown | shown
    · exact .inl ⟨(key, new), inSecond, by rwa [changedEq new inFirst]⟩
    · exact .inr ⟨(key, old), inFirst, by rwa [deletedEq old inSecond]⟩

end FieldByField

@[simp]
theorem fieldPatch_same (key : String) (value : Option Json) : fieldPatch key value value = .nil := by
  have same : ∀ entry ∈ [(key, value)], (ofList [(key, value)]).lookup entry.1 = entry.2 := by
    intro _ member
    rw [mem_singleton.mp member]
    exact lookup_ofList_singleton key value
  rw [fieldPatch, mergePatch, changed_ofList_eq_nil same, deleted_ofList_eq_nil same]
  rfl

theorem mergePatch_self (distinct : (entries.map Prod.fst).Nodup) :
    mergePatch (ofList entries) (ofList entries) = .nil := by
  have same : ∀ entry ∈ entries, (ofList entries).lookup entry.1 = entry.2 :=
    fun entry member => lookup_ofList distinct member
  rw [mergePatch, changed_ofList_eq_nil same, deleted_ofList_eq_nil same]
  rfl

theorem fieldPatch_nested (key : String) (distinct : (first.map Prod.fst).Nodup) (new : Fields) :
    (fieldPatch key (some (.object (ofList first))) (some (.object new))).paths [] =
      ((mergePatch (ofList first) new).paths []).map (key :: ·) := by
  by_cases different : ofList first = new
  · rw [← different, fieldPatch_same, mergePatch_self distinct]
    rfl
  · simp only [fieldPatch, mergePatch, ofList, changed, deleted, lookup, if_true, reduceCtorEq,
      if_false, append_nil, if_neg different]
    split
    case h_1 none =>
      rw [none]
      rfl
    case h_2 => rw [paths_cons_object, paths, List.append_nil]

theorem mem_paths_of_nested {second old new : List (String × Option Json)}
    (shown : path ∈ (mergePatch (ofList old) (ofList new)).paths []) (distinct : (first.map Prod.fst).Nodup)
    (oldDistinct : (old.map Prod.fst).Nodup) (keys : second.map Prod.fst = first.map Prod.fst)
    (inFirst : (key, some (.object (ofList old))) ∈ first) (inSecond : (key, some (.object (ofList new))) ∈ second) :
    key :: path ∈ (mergePatch (ofList first) (ofList second)).paths [] := by
  apply (mem_paths_mergePatch distinct keys).mpr
  refine ⟨key, _, _, inFirst, inSecond, ?_⟩
  rw [fieldPatch_nested key oldDistinct]
  exact mem_map_of_mem shown

theorem mem_paths_of_deleted {second : List (String × Option Json)} (value : Json)
    (distinct : (first.map Prod.fst).Nodup) (keys : second.map Prod.fst = first.map Prod.fst)
    (inFirst : (key, some value) ∈ first) (inSecond : (key, none) ∈ second) :
    [key] ∈ (mergePatch (ofList first) (ofList second)).paths [] := by
  apply (mem_paths_mergePatch distinct keys).mpr
  refine ⟨key, _, _, inFirst, inSecond, ?_⟩
  exact mem_singleton_self [key]

theorem fieldPatch_scalar {old new : String}
    (shown : path ∈ (fieldPatch key (some (.scalar old)) (some (.scalar new))).paths []) : path = [key] := by
  by_cases same : old = new
  · rw [same, fieldPatch_same] at shown
    cases shown
  · have whole : fieldPatch key (some (.scalar old)) (some (.scalar new)) = .cons key (.scalar new) .nil := by
      simp [fieldPatch, mergePatch, ofList, changed, deleted, lookup, append, same]
    rw [whole] at shown
    exact mem_singleton.mp shown

/-! ## Bounding a patch -/

/-- The patch of a field stays within a set of paths. -/
def FieldWithin (allowed : List String → Prop) (old new : String × Option Json) : Prop :=
  new.1 = old.1 ∧ ∀ path ∈ (fieldPatch old.1 old.2 new.2).paths [], allowed path

theorem FieldWithin.same {allowed : List String → Prop} (entry : String × Option Json) :
    FieldWithin allowed entry entry := by
  refine ⟨rfl, ?_⟩
  rw [fieldPatch_same]
  intro _ shown
  cases shown

section Bounds

variable {allowed : List String → Prop} {first second : List (String × Option Json)}

theorem FieldWithin.keys (within : Forall₂ (FieldWithin allowed) first second) :
    second.map Prod.fst = first.map Prod.fst := by
  induction within with
  | nil => rfl
  | cons head _ ih => rw [map_cons, map_cons, head.1, ih]

section

variable (distinct : (first.map Prod.fst).Nodup) (within : Forall₂ (FieldWithin allowed) first second)
include distinct within

theorem FieldWithin.of_mem {key : String} {old new : Option Json} (inFirst : (key, old) ∈ first)
    (inSecond : (key, new) ∈ second) : FieldWithin allowed (key, old) (key, new) := by
  induction within with
  | nil => cases inFirst
  | cons head rest ih =>
    rcases nodup_cons.mp distinct with ⟨fresh, restDistinct⟩
    rcases mem_cons.mp inFirst with rfl | laterFirst
    · rcases mem_cons.mp inSecond with rfl | laterSecond
      · exact head
      · have found := mem_map_of_mem (f := Prod.fst) laterSecond
        rw [keys rest] at found
        exact absurd found fresh
    · rcases mem_cons.mp inSecond with rfl | laterSecond
      · have found := mem_map_of_mem (f := Prod.fst) laterFirst
        dsimp only at found
        rw [show key = _ from head.1] at found
        exact absurd found fresh
      · exact ih restDistinct laterFirst laterSecond

theorem mergePatch_within : ∀ path ∈ (mergePatch (ofList first) (ofList second)).paths [], allowed path := by
  intro path shown
  rcases (mem_paths_mergePatch distinct (FieldWithin.keys within)).mp shown with
    ⟨key, old, new, inFirst, inSecond, atField⟩
  exact (FieldWithin.of_mem distinct within inFirst inSecond).2 path atField

end

theorem FieldWithin.nested (key : String) (distinct : (first.map Prod.fst).Nodup)
    (within : Forall₂ (FieldWithin fun path => allowed (key :: path)) first second) :
    FieldWithin allowed (key, some (.object (ofList first))) (key, some (.object (ofList second))) := by
  refine ⟨rfl, ?_⟩
  rw [fieldPatch_nested key distinct]
  intro _ shown
  rcases mem_map.mp shown with ⟨below, inside, rfl⟩
  exact mergePatch_within distinct within below inside

end Bounds

end Fields

end ClusterApi.Foundation
