import ClusterApi.Conditions.Aggregate
import ClusterApi.Foundation.Runs
import ClusterApi.Foundation.Tables

namespace ClusterApi.Conditions.Setter

open Foundation

/-!
# Setting and deleting conditions

A list of conditions of the later API version has one condition for each type
and is sorted: Available and Ready come first, Paused and Deleting last, all
others by name.  `Set` and `Delete` keep it so.

Times are nanoseconds since the zero time.  A condition is put into the list by
a library of which only the documented behaviour is used.  An allocation with a
negative capacity panics, which is `none` here.
-/

structure Condition extends Aggregate.Condition where
  observedGeneration : Int := 0
  deriving DecidableEq

/-! ## The order -/

def first (type : String) : Option Nat :=
  if type = "Available" then some 0 else if type = "Ready" then some 1 else none

def last (type : String) : Option Nat :=
  if type = "Paused" then some 0 else if type = "Deleting" then some 1 else none

def defaultSortLessFunc (i j : Condition) : Bool :=
  match first i.type, first j.type with
  | some _, none => true
  | none, some _ => false
  | some fi, some fj => fi < fj
  | none, none =>
    match last i.type, last j.type with
    | some _, none => false
    | none, some _ => true
    | some li, some lj => li < lj
    | none, none => i.type < j.type

/-- The place of a type: its group, and its name among the types that are sorted by name. -/
def place (type : String) : Nat ×ₗ String :=
  match first type, last type with
  | some rank, _ => toLex (rank, "")
  | none, none => toLex (2, type)
  | none, some rank => toLex (3 + rank, "")

theorem first_lt (type : String) : ∀ rank ∈ first type, rank < 2 := by
  unfold first
  split_ifs <;> simp

theorem defaultSortLessFunc_comparesBy : ComparesBy defaultSortLessFunc fun condition => place condition.type := by
  intro i j
  have firstLow := first_lt i.type
  have secondLow := first_lt j.type
  simp only [defaultSortLessFunc, place]
  revert firstLow secondLow
  -- Each condition is in one of the three groups.
  rcases first i.type with _ | fi <;> rcases first j.type with _ | fj <;> rcases last i.type with _ | li <;>
    rcases last j.type with _ | lj <;> simp [Prod.Lex.toLex_lt_toLex] <;> omega

/-! ## Set and Delete -/

abbrev get (conditions : List Condition) (type : String) : Option Condition := entry (·.type) conditions type

def second : Nat := 1000000000

/-- `Truncate(1 * time.Second)`. -/
def truncate (time : Nat) : Nat := time - time % second

/-- `time.Now` stands in for the zero time. -/
def orNow (now time : Nat) : Nat := if time = 0 then now else time

/-- `meta.SetStatusCondition`, which answers whether anything has changed, with what is documented of it. -/
structure Library where
  setStatusCondition (now : Nat) (conditions : List Condition) (new : Condition) : List Condition × Bool
  /-- What becomes of the condition with the same type, if there is one. -/
  written (now : Nat) (new : Condition) (old : Option Condition) : Condition
  sets : ∀ now conditions new, (conditions.map (·.type)).Nodup → ∀ type,
    get (setStatusCondition now conditions new).1 type =
      if type = new.type then some (written now new (get conditions new.type)) else get conditions type
  distinct : ∀ now conditions new, (conditions.map (·.type)).Nodup →
    ((setStatusCondition now conditions new).1.map (·.type)).Nodup
  unchanged : ∀ now conditions new, (setStatusCondition now conditions new).2 = false →
    (setStatusCondition now conditions new).1 = conditions
  writesStatus : ∀ now new old, (written now new old).status = new.status
  /-- The time of the last transition is kept unless the status changes. -/
  keepsTime : ∀ now new old, old.status = new.status →
    (written now new (some old)).lastTransitionTime = old.lastTransitionTime

def truncated (now : Nat) (condition : Condition) : Condition :=
  { condition with lastTransitionTime := truncate (orNow now condition.lastTransitionTime) }

def setStatusCondition (library : Library) (now : Nat) (conditions : List Condition)
    (condition : Condition) : List Condition × Bool :=
  library.setStatusCondition now conditions (truncated now condition)

/-- `Set` with default options, on an object whose generation is known if it has metadata. -/
def set (library : Library) (generation : Option Int) (now : Nat) (conditions : List Condition)
    (condition : Condition) : List Condition :=
  let condition := { condition with observedGeneration := generation.getD condition.observedGeneration }
  let (updated, changed) := setStatusCondition library now conditions condition
  if changed then stableSort defaultSortLessFunc updated else conditions

/-- A new list is allocated with room for one condition less. -/
def delete (conditions : List Condition) (conditionType : String) : Option (List Condition) :=
  if conditions.length = 0 then none else some (conditions.filter fun condition => condition.type ≠ conditionType)

inductive Call
  | set (generation : Option Int) (now : Nat) (condition : Condition)
  | delete (conditionType : String)

namespace Call

def type : Call → String
  | set _ _ condition => condition.type
  | delete conditionType => conditionType

def deletes : Call → Bool
  | set _ _ _ => false
  | delete _ => true

def perform (library : Library) (conditions : List Condition) : Call → Option (List Condition)
  | set generation now condition => some (Setter.set library generation now conditions condition)
  | delete conditionType => Setter.delete conditions conditionType

end Call

/-! ## What every call does -/

structure WellFormed (conditions : List Condition) : Prop where
  distinct : (conditions.map (·.type)).Nodup
  sorted : conditions.Pairwise fun earlier later => defaultSortLessFunc later earlier = false

/-- The result of a call, compared with the list before. -/
structure Lawful (before : List Condition) (call : Call) (after : List Condition) : Prop where
  wellFormed : WellFormed after
  others : ∀ type, type ≠ call.type → get after type = get before type
  deleted : call.deletes = true → get after call.type = none
  transition : ∀ type old new, get before type = some old → get after type = some new →
    new.lastTransitionTime ≠ old.lastTransitionTime → new.status ≠ old.status

variable {library : Library} {conditions : List Condition}

/-- What a call makes of the condition with its type. -/
def Call.effect (library : Library) (old : Option Condition) : Call → Option Condition
  | set generation now condition =>
    let condition := { condition with observedGeneration := generation.getD condition.observedGeneration }
    some (library.written now (truncated now condition) old)
  | delete _ => none

section

variable (wellFormed : WellFormed conditions)
include wellFormed

theorem set_spec (generation : Option Int) (now : Nat) (condition : Condition) :
    WellFormed (set library generation now conditions condition) ∧
      ∀ type, get (set library generation now conditions condition) type =
        if type = condition.type then (Call.set generation now condition).effect library (get conditions type)
        else get conditions type := by
  unfold set setStatusCondition Call.effect
  dsimp only
  generalize isNew : truncated now _ = new
  have sameType : condition.type = new.type := by rw [← isNew, truncated]
  have distinct := library.distinct now conditions new wellFormed.distinct
  have found : ∀ type, get (library.setStatusCondition now conditions new).1 type =
      if type = condition.type then some (library.written now new (get conditions type))
      else get conditions type := by
    intro type
    rw [library.sets now conditions new wellFormed.distinct, sameType]
    split_ifs with same
    · rw [same]
    · rfl
  split_ifs with changed
  · have perm := stableSort_perm defaultSortLessFunc (library.setStatusCondition now conditions new).1
    refine ⟨⟨(perm.map (·.type)).nodup_iff.mpr distinct, ?_⟩, fun type => ?_⟩
    · exact (stableSort_sorted defaultSortLessFunc_comparesBy _).imp
        fun below => defaultSortLessFunc_comparesBy.eq_false_iff.mpr below
    · exact (entry_eq_of_perm distinct perm type).trans (found type)
  · have same := library.unchanged now conditions new (Bool.eq_false_iff.mpr changed)
    exact ⟨wellFormed, fun type => by rw [← found type, same]⟩

theorem set_lawful (generation : Option Int) (now : Nat) (condition : Condition) :
    Lawful conditions (.set generation now condition) (set library generation now conditions condition) := by
  rcases @set_spec library _ wellFormed generation now condition with ⟨afterWellFormed, found⟩
  refine ⟨afterWellFormed, ?_, ?_, ?_⟩
  · exact fun type different => (found type).trans (if_neg different)
  · intro deletes
    cases deletes
  · intro type old other isOld isOther times
    rw [found] at isOther
    split_ifs at isOther with same
    · rw [isOld] at isOther
      cases isOther
      intro sameStatus
      rw [library.writesStatus] at sameStatus
      exact times (library.keepsTime now _ old sameStatus.symm)
    · rw [isOld] at isOther
      cases isOther
      exact absurd rfl times

theorem delete_lawful (type : String) :
    Lawful conditions (.delete type) (conditions.filter fun condition => condition.type ≠ type) := by
  have sublist : (conditions.filter fun condition => condition.type ≠ type).Sublist conditions := List.filter_sublist
  have found : ∀ other, get (conditions.filter fun condition => condition.type ≠ type) other =
      if other = type then none else get conditions other := entry_filter type
  refine ⟨⟨wellFormed.distinct.sublist (sublist.map _), wellFormed.sorted.sublist sublist⟩, ?_, ?_, ?_⟩
  · exact fun other different => (found other).trans (if_neg different)
  · exact fun _ => (found type).trans (if_pos rfl)
  · intro other old new isOld isNew times
    rw [found] at isNew
    split_ifs at isNew
    rw [isOld] at isNew
    cases isNew
    exact absurd rfl times

theorem perform_lawful_iff (call : Call) :
    (∃ after, call.perform library conditions = some after ∧ Lawful conditions call after) ↔
      (conditions = [] → call.deletes = false) := by
  cases call with
  | set generation now condition =>
    exact iff_of_true ⟨_, rfl, set_lawful wellFormed generation now condition⟩ fun _ => rfl
  | delete type =>
    constructor
    · rintro ⟨after, performed, _⟩ rfl
      cases performed
    · intro allowed
      have nonempty : conditions.length ≠ 0 := by
        intro none
        cases allowed (List.length_eq_zero_iff.mp none)
      exact ⟨_, if_neg nonempty, delete_lawful wellFormed type⟩

end

/-- All calls of a sequence are lawful as long as nothing is deleted from an empty list. -/
theorem calls_lawful_iff (library : Library) (conditions : List Condition) (calls : List Call)
    (wellFormed : WellFormed conditions) :
    Meets (Call.perform library) (fun before call =>
        ∃ after, call.perform library before = some after ∧ Lawful before call after) conditions calls ↔
      Meets (Call.perform library) (fun before call => before = [] → call.deletes = false) conditions calls := by
  apply meets_congr WellFormed _ (fun _ call wellFormed => perform_lawful_iff wellFormed call) wellFormed
  intro before call after wellFormed allowed performed
  rcases (perform_lawful_iff wellFormed call).mpr allowed with ⟨lawful, isLawful, isAfter⟩
  rw [performed] at isLawful
  cases isLawful
  exact isAfter.wellFormed

namespace Example

/-- The condition that is found keeps its time unless the status changes. -/
def written (now : Nat) (new : Condition) (old : Option Condition) : Condition :=
  { new with
    lastTransitionTime :=
      match old with
      | none => orNow now new.lastTransitionTime
      | some old => if old.status = new.status then old.lastTransitionTime else orNow now new.lastTransitionTime }

/-- The condition is changed at its place or added at the end. -/
def inPlace : Library where
  setStatusCondition now conditions new :=
    let updated := upsert (fun old => old.type = new.type) (written now new) conditions
    (updated, updated ≠ conditions)
  written := written
  sets now conditions new _ := @entry_upsert _ _ _ _ conditions (written now new) _ fun _ => rfl
  distinct now conditions new := @nodup_upsert _ _ _ _ conditions (written now new) _ fun _ => rfl
  unchanged _ _ _ same := by simpa using same
  writesStatus _ _ _ := rfl
  keepsTime _ _ _ same := if_pos same

end Example

theorem calls_lawful_ready :
    Meets (Call.perform Example.inPlace) (fun before call =>
        ∃ after, call.perform Example.inPlace before = some after ∧ Lawful before call after)
      [] [.set none 5 { type := "Ready", status := .isTrue }, .delete "Ready"] :=
  (calls_lawful_iff _ [] _ ⟨List.nodup_nil, .nil⟩).mpr (by decide)

/-! ## Interleaved calls -/

theorem perform_get {call : Call} {after : List Condition} (wellFormed : WellFormed conditions)
    (performed : call.perform library conditions = some after) :
    WellFormed after ∧ ∀ type, get after type =
      if type = call.type then call.effect library (get conditions type) else get conditions type := by
  cases call with
  | delete deleted =>
    simp only [Call.perform, delete] at performed
    split_ifs at performed
    cases performed
    exact ⟨(delete_lawful wellFormed deleted).wellFormed, entry_filter deleted⟩
  | set generation now condition =>
    cases performed
    exact set_spec wellFormed generation now condition

theorem execute_get {calls : List Call} {after : List Condition} (wellFormed : WellFormed conditions)
    (executed : execute (Call.perform library) conditions calls = some after) :
    WellFormed after ∧ ∀ type, get after type =
      (calls.filter fun call => call.type = type).foldl (Call.effect library) (get conditions type) := by
  induction calls generalizing conditions with
  | nil =>
    cases executed
    exact ⟨wellFormed, fun _ => rfl⟩
  | cons call calls ih =>
    rcases execute_cons_eq_some.mp executed with ⟨next, performed, executed⟩
    rcases perform_get wellFormed performed with ⟨nextWellFormed, found⟩
    refine ⟨(ih nextWellFormed executed).1, fun type => ?_⟩
    rw [(ih nextWellFormed executed).2 type, found, List.filter_cons]
    by_cases same : call.type = type
    · simp [same]
    · simp [same, Ne.symm same]

theorem place_injective : Function.Injective place := by
  intro first second same
  simp only [place, Setter.first, Setter.last] at same
  split_ifs at same <;> simp_all [Prod.ext_iff]

theorem WellFormed.ext {others : List Condition} (wellFormed : WellFormed conditions) (otherWellFormed : WellFormed others)
    (same : ∀ type, get conditions type = get others type) : conditions = others := by
  have found : ∀ {list : List Condition} {condition}, WellFormed list →
      (condition ∈ list ↔ get list condition.type = some condition) := by
    intro list condition wellFormed
    rw [get, entry_eq_some wellFormed.distinct, and_iff_left rfl]
  have perm : conditions.Perm others := by
    refine (List.perm_ext_iff_of_nodup wellFormed.distinct.of_map otherWellFormed.distinct.of_map).mpr ?_
    intro condition
    rw [found wellFormed, found otherWellFormed, same]
  have sorted : ∀ {list : List Condition}, WellFormed list → stableSort defaultSortLessFunc list = list :=
    fun wellFormed => stableSort_eq_self defaultSortLessFunc_comparesBy
      (wellFormed.sorted.imp defaultSortLessFunc_comparesBy.eq_false_iff.mp)
  rw [← sorted wellFormed, ← sorted otherWellFormed]
  apply stableSort_eq_of_perm defaultSortLessFunc_comparesBy perm
  intro _ leftInside _ rightInside samePlace
  exact List.inj_on_of_nodup_map wellFormed.distinct leftInside rightInside (place_injective samePlace)

/-- Calls for different types do not interfere: two runs that make the same
calls for each type, in whichever order, end with the same conditions. -/
theorem calls_interleave {library : Library} {conditions after other : List Condition}
    {calls others : List Call} (wellFormed : WellFormed conditions)
    (executed : execute (Call.perform library) conditions calls = some after)
    (otherExecuted : execute (Call.perform library) conditions others = some other)
    (same : ∀ type, (calls.filter fun call => call.type = type) = others.filter fun call => call.type = type) :
    after = other := by
  rcases execute_get wellFormed executed with ⟨afterWellFormed, found⟩
  rcases execute_get wellFormed otherExecuted with ⟨otherWellFormed, otherFound⟩
  apply afterWellFormed.ext otherWellFormed
  intro type
  rw [found, otherFound, same]

theorem calls_interleave_ready :
    let ready := Call.set none 5 { type := "Ready", status := .isTrue }
    let paused := Call.set none 7 { type := "Paused", status := .isFalse }
    execute (Call.perform Example.inPlace) [] [ready, paused] =
      execute (Call.perform Example.inPlace) [] [paused, ready] := by
  intro ready paused
  have same : ∀ type, ([ready, paused].filter fun call => call.type = type) =
      [paused, ready].filter fun call => call.type = type := by
    intro type
    by_cases isReady : "Ready" = type
    · subst isReady
      rfl
    · simp [ready, paused, Call.type, isReady, List.filter_cons]
  exact congrArg some (@calls_interleave _ [] _ _ _ _ ⟨List.nodup_nil, .nil⟩ rfl rfl same)

/-- Deleting from an object without conditions panics. -/
theorem delete_empty_panics :
    WellFormed [] ∧ ∀ library, (Call.delete "Ready").perform library [] = none :=
  ⟨⟨List.nodup_nil, .nil⟩, fun _ => rfl⟩

end ClusterApi.Conditions.Setter
