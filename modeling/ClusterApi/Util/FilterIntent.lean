import ClusterApi.Foundation.Leaves

namespace ClusterApi.Ssa

open Foundation List

/-!
# Filtering an intent

An intent holds the fields on which the controller has an opinion.  Fields that
are not allowed, or that are ignored, are taken out, and so are objects that
lose their last field.

The fields of an object stand in the order in which they are visited.
-/

abbrev Path := List String

def isParentOf (path other : Path) : Bool := path.length < other.length && path.isPrefixOf other

def overlaps (path other : Path) : Bool := other = path || isParentOf other path || isParentOf path other

def isPathAllowed (allowedPaths : List Path) (path : Path) : Bool :=
  allowedPaths.any fun allowed => overlaps path allowed

def isPathNotAllowed (allowedPaths : List Path) (path : Path) : Bool := !isPathAllowed allowedPaths path

def isPathIgnored (ignorePaths : List Path) (path : Path) : Bool := ignorePaths.any fun ignored => path = ignored

mutual

/-- What is left of a value, and whether a field was taken out of it. -/
def filterIntent (shouldFilter : Path → Bool) (path : Path) : Json → Json × Bool
  | .scalar text => (.scalar text, false)
  | .object fields =>
    let (left, gotDeletions) := filterFields shouldFilter path fields
    (.object left, gotDeletions)

/-- The loop over the fields. -/
def filterFields (shouldFilter : Path → Bool) (path : Path) : Fields → Fields × Bool
  | .nil => (.nil, false)
  | .cons field value rest =>
    let (others, gotDeletions) := filterFields shouldFilter path rest
    if shouldFilter (path ++ [field]) then (others, true)
    else
      let (left, nestedDeletions) := filterIntent shouldFilter (path ++ [field]) value
      -- No empty objects are left around.
      if nestedDeletions ∧ left = .object .nil then (others, true) else (.cons field left others, gotDeletions)

end

def filterObject (allowedPaths ignorePaths : List Path) (object : Fields) : Fields :=
  let object := if allowedPaths = [] then object else (filterFields (isPathNotAllowed allowedPaths) [] object).1
  if ignorePaths = [] then object else (filterFields (isPathIgnored ignorePaths) [] object).1

/-! ## What is left -/

section

variable {shouldFilter : Path → Bool}

theorem filterFields_eq_nil {path : Path} {fields : Fields} (kept : (filterFields shouldFilter path fields).2 = false)
    (isNil : (filterFields shouldFilter path fields).1 = .nil) : fields = .nil := by
  cases fields with
  | nil => rfl
  | cons =>
    rw [filterFields] at kept isNil
    dsimp only at kept isNil
    split_ifs at kept isNil

mutual

theorem leaves_filterIntent (shouldFilter : Path → Bool) (path : Path) : ∀ value : Json,
    (if (filterIntent shouldFilter path value).2 ∧ (filterIntent shouldFilter path value).1 = .object .nil then []
      else (filterIntent shouldFilter path value).1.leaves) =
        value.leaves.filter fun leaf => !hits shouldFilter path leaf.1
  | .scalar text => by simp [filterIntent, Json.leaves, hits]
  | .object fields => by
      have ih := leaves_filterFields shouldFilter path fields
      simp only [filterIntent, Json.leaves, Json.object.injEq]
      by_cases isNil : fields = .nil
      · simp [isNil, filterFields, hits]
      · rw [if_neg isNil, ← ih]
        by_cases empty : (filterFields shouldFilter path fields).1 = .nil
        · have deleted : (filterFields shouldFilter path fields).2 = true := by
            by_contra kept
            exact isNil (filterFields_eq_nil (Bool.eq_false_iff.mpr kept) empty)
          rw [if_pos ⟨deleted, empty⟩, empty, Fields.leaves]
        · rw [if_neg fun both => empty both.2, if_neg empty]

theorem leaves_filterFields (shouldFilter : Path → Bool) (path : Path) : ∀ fields : Fields,
    (filterFields shouldFilter path fields).1.leaves = fields.leaves.filter fun leaf => !hits shouldFilter path leaf.1
  | .nil => rfl
  | .cons field value rest => by
      have below := leaves_filterIntent shouldFilter (path ++ [field]) value
      have behind := leaves_filterFields shouldFilter path rest
      simp only [filterFields, Fields.leaves, filter_append, filter_map, Function.comp_def, hits]
      split_ifs with filtered empty
      · simp [filtered, behind]
      · rw [if_pos empty] at below
        simp only [filtered, Bool.false_or]
        rw [← below, behind]
        rfl
      · rw [if_neg empty] at below
        simp only [filtered, Bool.false_or]
        rw [← below, ← behind, Fields.leaves]

end

mutual

/-- Where no leaf is hit, nothing is taken out. -/
theorem filterIntent_eq_self (path : Path) : ∀ value : Json,
    (∀ leaf ∈ value.leaves, hits shouldFilter path leaf.1 = false) →
      filterIntent shouldFilter path value = (value, false)
  | .scalar text, _ => rfl
  | .object fields, missed => by
      rw [Json.leaves] at missed
      rw [filterIntent, filterFields_eq_self path fields]
      intro leaf inside
      split_ifs at missed with isNil
      · rw [isNil] at inside
        cases inside
      · exact missed leaf inside

theorem filterFields_eq_self (path : Path) : ∀ fields : Fields,
    (∀ leaf ∈ fields.leaves, hits shouldFilter path leaf.1 = false) →
      filterFields shouldFilter path fields = (fields, false)
  | .nil, _ => rfl
  | .cons field value rest, missed => by
      rw [Fields.leaves, List.forall_mem_append, List.forall_mem_map] at missed
      simp only [hits, Bool.or_eq_false_iff] at missed
      rcases List.exists_mem_of_ne_nil _ value.leaves_ne_nil with ⟨leaf, inside⟩
      simp [filterFields, filterFields_eq_self path rest missed.2, (missed.1 leaf inside).1,
        filterIntent_eq_self _ value fun leaf inside => (missed.1 leaf inside).2]

end

end

/-! ## The filter -/

variable {allowedPaths ignorePaths : List Path} {path : Path}

theorem overlaps_iff {other : Path} : overlaps path other = true ↔ path <+: other ∨ other <+: path := by
  simp only [overlaps, isParentOf, Bool.or_eq_true, Bool.and_eq_true, decide_eq_true_eq, isPrefixOf_iff_prefix]
  constructor
  · rintro ((rfl | ⟨_, below⟩) | ⟨_, above⟩)
    · exact .inl (prefix_refl _)
    · exact .inr below
    · exact .inl above
  · rintro (above | below)
    · rcases Nat.eq_or_lt_of_le above.length_le with same | shorter
      · exact .inl (.inl (above.eq_of_length same).symm)
      · exact .inr ⟨shorter, above⟩
    · rcases Nat.eq_or_lt_of_le below.length_le with same | shorter
      · exact .inl (.inl (below.eq_of_length same))
      · exact .inl (.inr ⟨shorter, below⟩)

/-- An allowed path has a part in common with the path, in other words one of them begins the other. -/
def Allowed (allowedPaths : List Path) (path : Path) : Prop :=
  allowedPaths = [] ∨ ∃ allowed ∈ allowedPaths, path <+: allowed ∨ allowed <+: path

/-- A part of the path is ignored. -/
def Ignored (ignorePaths : List Path) (path : Path) : Prop := ∃ ignored ∈ ignorePaths, ignored ≠ [] ∧ ignored <+: path

instance (allowedPaths : List Path) (path : Path) : Decidable (Allowed allowedPaths path) :=
  inferInstanceAs (Decidable (_ ∨ _))

instance (ignorePaths : List Path) (path : Path) : Decidable (Ignored ignorePaths path) :=
  inferInstanceAs (Decidable (∃ _ ∈ _, _))

/-- The test of the first pass, which is left out if nothing is allowed by name. -/
def blocked (allowedPaths : List Path) (path : Path) : Bool :=
  !allowedPaths.isEmpty && isPathNotAllowed allowedPaths path

theorem hits_blocked {allowedPaths : List Path} (nonempty : path ≠ []) :
    hits (blocked allowedPaths) [] path = false ↔ Allowed allowedPaths path := by
  have allowed_iff : ∀ path, blocked allowedPaths path = false ↔ Allowed allowedPaths path := by
    intro path
    by_cases none : allowedPaths = [] <;> simp [blocked, isPathNotAllowed, isPathAllowed, Allowed, none, overlaps_iff]
  rw [Bool.eq_false_iff, ne_eq, hits_iff]
  simp only [nil_append, not_exists, not_and, Bool.not_eq_true, allowed_iff]
  constructor
  · exact fun allowed => allowed path nonempty (prefix_refl path)
  · intro isAllowed _ _ isPart
    refine isAllowed.imp_right ?_
    rintro ⟨allowed, inside, above | below⟩
    · exact ⟨allowed, inside, .inl (isPart.trans above)⟩
    · exact ⟨allowed, inside, prefix_or_prefix_of_prefix isPart below⟩

theorem hits_ignored {ignorePaths : List Path} :
    hits (isPathIgnored ignorePaths) [] path = false ↔ ¬ Ignored ignorePaths path := by
  rw [Bool.eq_false_iff, ne_eq, hits_iff, not_iff_not]
  constructor
  · rintro ⟨part, nonempty, isPart, isIgnored⟩
    rcases any_eq_true.mp isIgnored with ⟨ignored, inside, same⟩
    rw [nil_append, decide_eq_true_eq] at same
    exact ⟨part, same ▸ inside, nonempty, isPart⟩
  · rintro ⟨ignored, inside, nonempty, isPart⟩
    exact ⟨ignored, nonempty, isPart, any_eq_true.mpr ⟨ignored, inside, by simp⟩⟩

theorem filterObject_eq (object : Fields) :
    filterObject allowedPaths ignorePaths object =
      (filterFields (isPathIgnored ignorePaths) [] (filterFields (blocked allowedPaths) [] object).1).1 := by
  have first : (if allowedPaths = [] then object else (filterFields (isPathNotAllowed allowedPaths) [] object).1) =
      (filterFields (blocked allowedPaths) [] object).1 := by
    split_ifs with none
    · rw [filterFields_eq_self _ _ fun leaf inside => (hits_blocked (Fields.path_ne_nil inside)).mpr (.inl none)]
    · have same : blocked allowedPaths = isPathNotAllowed allowedPaths := by
        funext path
        simp [blocked, none]
      rw [same]
  rw [filterObject, first]
  split_ifs with none
  · rw [filterFields_eq_self _ (filterFields _ _ _).1 fun leaf _ => hits_ignored.mpr (by simp [Ignored, none])]
  · rfl

theorem leaves_filterObject (object : Fields) :
    (filterObject allowedPaths ignorePaths object).leaves =
      object.leaves.filter fun leaf => Allowed allowedPaths leaf.1 ∧ ¬ Ignored ignorePaths leaf.1 := by
  rw [filterObject_eq, leaves_filterFields, leaves_filterFields, filter_filter]
  apply filter_congr
  intro _ inside
  rw [Bool.eq_iff_iff, Bool.and_eq_true, Bool.not_eq_true', Bool.not_eq_true', decide_eq_true_eq,
    hits_ignored, hits_blocked (Fields.path_ne_nil inside), and_comm]

theorem filterObject_eq_self {object : Fields}
    (stay : ∀ leaf ∈ object.leaves, Allowed allowedPaths leaf.1 ∧ ¬ Ignored ignorePaths leaf.1) :
    filterObject allowedPaths ignorePaths object = object := by
  rw [filterObject_eq, filterFields_eq_self _ object, filterFields_eq_self]
  · exact fun leaf inside => hits_ignored.mpr (stay leaf inside).2
  · exact fun leaf inside => (hits_blocked (Fields.path_ne_nil inside)).mpr (stay leaf inside).1

/-- The leaves that are allowed and not ignored stay as they are, in particular no other object is empty afterwards.
What is left passes the filter, and two orders in which the fields are visited leave the same. -/
theorem filterObject_exact (allowedPaths ignorePaths : List Path) (object : Fields) :
    (filterObject allowedPaths ignorePaths object).leaves =
        object.leaves.filter (fun leaf => Allowed allowedPaths leaf.1 ∧ ¬ Ignored ignorePaths leaf.1) ∧
      filterObject allowedPaths ignorePaths (filterObject allowedPaths ignorePaths object) =
        filterObject allowedPaths ignorePaths object ∧
      ∀ other, other.leaves.Perm object.leaves →
        (filterObject allowedPaths ignorePaths other).leaves.Perm
          (filterObject allowedPaths ignorePaths object).leaves := by
  refine ⟨leaves_filterObject object, filterObject_eq_self ?_, fun other same => ?_⟩
  · intro _ inside
    rw [leaves_filterObject, mem_filter] at inside
    exact of_decide_eq_true inside.2
  · rw [leaves_filterObject, leaves_filterObject]
    exact same.filter _

end ClusterApi.Ssa
