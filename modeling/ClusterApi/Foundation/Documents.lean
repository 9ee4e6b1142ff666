import ClusterApi.Foundation.Leaves

namespace ClusterApi.Foundation

open List

/-!
# Documents by their paths

What an object says is told by the entries at its paths: a value that is no
object, or an object whose own entries stand at the longer paths.
-/

inductive Entry
  | scalar (text : String)
  | object
  deriving DecidableEq

def Json.entryAt : List String → Json → Option Entry
  | [], .scalar text => some (.scalar text)
  | [], .object _ => some .object
  | _ :: _, .scalar _ => none
  | key :: rest, .object fields => (fields.lookup key).bind (Json.entryAt rest)

namespace Fields

def entryAt (path : List String) (fields : Fields) : Option Entry := Json.entryAt path (.object fields)

@[simp]
theorem entryAt_cons (key : String) (rest : List String) (fields : Fields) :
    fields.entryAt (key :: rest) = (fields.lookup key).bind (Json.entryAt rest) := rfl

/-- What is left when the values at some paths are left out, told by its values that are no objects. -/
def erase (erased : List String → Bool) (fields : Fields) (path : List String) : Option Entry :=
  if hits erased [] path then none else (fields.entryAt path).filter (· ≠ .object)

/-! ## What a patch shows -/

variable {path : List String} {old new : Fields} {text key : String}

theorem mem_paths_changed_of_lookup {value : Json} (shown : path ∈ (changed old (.cons key value .nil)).paths []) :
    ∀ {new : Fields}, new.lookup key = some value →
      path ∈ (changed old new).paths []
  | .nil, found => by cases found
  | .cons other stored rest, found => by
      rw [changed_cons, paths_append, List.mem_append]
      rw [lookup] at found
      split_ifs at found with same
      · cases found
        exact .inl (same ▸ shown)
      · exact .inr (mem_paths_changed_of_lookup shown found)

theorem changed_nil : ∀ new : Fields, changed .nil new = new
  | .nil => rfl
  | .cons key (.scalar text) rest => by rw [changed, if_neg (by simp [lookup]), changed_nil rest]
  | .cons key (.object nested) rest => by
      rw [changed, changed_nil rest]
      rfl

theorem mem_paths_of_entryAt {fields : Fields} (found : fields.entryAt path = some (.scalar text)) :
    path ∈ fields.paths [] := by
  induction path generalizing fields with
  | nil => cases found
  | cons key rest ih =>
    rw [entryAt_cons, Option.bind_eq_some_iff] at found
    rcases found with ⟨value, isValue, found⟩
    rw [← changed_nil fields]
    apply mem_paths_changed_of_lookup _ isValue
    rw [changed_nil]
    cases value with
    | scalar stored =>
      cases rest with
      | nil => exact mem_singleton_self _
      | cons next rest => cases found
    | object nested =>
      rw [paths_cons_object]
      exact mem_append_left _ (mem_map_of_mem (ih found))

theorem mem_paths_deleted_of_lookup (gone : new.lookup key = none) :
    ∀ {old : Fields}, old.lookup key ≠ none → [key] ∈ (deleted new old).paths []
  | .nil, found => absurd rfl found
  | .cons other stored rest, found => by
      rw [lookup] at found
      split_ifs at found with same
      · rw [same, deleted, if_pos gone]
        exact List.mem_cons_self
      · have inRest := mem_paths_deleted_of_lookup gone found
        rw [deleted]
        split_ifs
        · exact mem_cons_of_mem _ inRest
        · exact inRest

/-- A value that is no object does not become one. -/
def KeepsScalars (old new : Fields) : Prop :=
  ∀ path text, old.entryAt path = some (.scalar text) → new.entryAt path ≠ some .object

theorem keepsScalars_of_paths (checked : ∀ path ∈ old.paths [], new.entryAt path ≠ some .object) :
    KeepsScalars old new :=
  fun path _ found => checked path (mem_paths_of_entryAt found)

theorem exists_shown (keeps : KeepsScalars old new)
    (differs : ¬ (old.entryAt path = some (.scalar text) ↔ new.entryAt path = some (.scalar text))) :
    ∃ shown ∈ (mergePatch old new).paths [], shown ≠ [] ∧ shown <+: path := by
  induction path generalizing old new with
  | nil => exact absurd Iff.rfl differs
  | cons key rest ih =>
    have isPart : [key] <+: key :: rest := cons_prefix_cons.mpr ⟨rfl, nil_prefix⟩
    rw [mergePatch, paths_append]
    simp only [mem_append]
    rw [entryAt_cons, entryAt_cons] at differs
    cases isNew : new.lookup key with
    | none =>
      -- The value is gone, with everything above it up to here.
      refine ⟨[key], .inr (mem_paths_deleted_of_lookup isNew ?_), cons_ne_nil _ _, isPart⟩
      intro isOld
      rw [isNew, isOld] at differs
      exact differs Iff.rfl
    | some value =>
      cases value with
      | scalar stored =>
        refine ⟨[key], .inl (mem_paths_changed_of_lookup ?_ isNew), cons_ne_nil _ _, isPart⟩
        rw [changed, if_neg]
        · exact mem_singleton_self _
        · intro isOld
          rw [isNew, isOld] at differs
          exact differs Iff.rfl
      | object after =>
        -- A patch inside the object shows behind its key.
        have below : ∀ {shown patch}, shown ∈ patch.paths [] → shown <+: rest →
            changed old (.cons key (.object after) .nil) = .cons key (.object patch) .nil →
            ∃ shown, (shown ∈ (changed old new).paths [] ∨ shown ∈ (deleted new old).paths []) ∧
              shown ≠ [] ∧ shown <+: key :: rest := by
          intro shown patch inside isBelow isPatch
          refine ⟨key :: shown, .inl (mem_paths_changed_of_lookup ?_ isNew), cons_ne_nil _ _,
            cons_prefix_cons.mpr ⟨rfl, isBelow⟩⟩
          rw [isPatch, paths_cons_object]
          exact mem_append_left _ (mem_map_of_mem inside)
        cases isOld : old.lookup key with
        | none =>
          rw [isNew, isOld] at differs
          have found : after.entryAt rest = some (.scalar text) := by
            by_contra missing
            exact differs (iff_of_false (by rintro ⟨⟩) missing)
          apply below (mem_paths_of_entryAt found) (prefix_refl rest)
          rw [changed, isOld]
          rfl
        | some before =>
          cases before with
          | scalar stored =>
            exact absurd (by simp [isNew, Json.entryAt]) (keeps [key] stored (by simp [isOld, Json.entryAt]))
          | object before =>
            rw [isNew, isOld] at differs
            have keepsBelow : KeepsScalars before after := by
              intro path stored wasStored
              have kept := keeps (key :: path) stored (by rw [entryAt_cons, isOld]; exact wasStored)
              rwa [entryAt_cons, isNew] at kept
            rcases ih keepsBelow differs with ⟨shown, inside, _, isBelow⟩
            apply below inside isBelow
            rw [changed, isOld]
            dsimp only
            rw [if_neg]
            · rw [mergePatch] at inside
              split
              · next empty =>
                  rw [empty] at inside
                  cases inside
              · rfl
            · rintro rfl
              exact differs Iff.rfl

theorem erase_eq {erased : List String → Bool} (keeps : KeepsScalars old new)
    (shows : ∀ shown ∈ (mergePatch old new).paths [], shown = [] ∨ erased shown = true) :
    old.erase erased = new.erase erased := by
  funext path
  unfold erase
  split_ifs with isErased
  · rfl
  · apply Option.ext
    intro entry
    cases entry with
    | object => simp
    | scalar text =>
      simp only [Option.filter_eq_some_iff, ne_eq, reduceCtorEq, not_false_eq_true, decide_true, and_true]
      by_contra differs
      rcases exists_shown keeps differs with ⟨shown, inPatch, nonempty, isPart⟩
      exact isErased (hits_iff.mpr ⟨shown, nonempty, isPart, (shows shown inPatch).resolve_left nonempty⟩)

end Fields

end ClusterApi.Foundation
