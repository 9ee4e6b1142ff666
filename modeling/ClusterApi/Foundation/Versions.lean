import Mathlib.Data.List.Basic
import Mathlib.Data.Nat.Init

namespace ClusterApi.Foundation

open List

/-!
# Versions of an object

A reader that lags behind sees an old version of an object.  The versions are
listed here in their order, and a version is known by its position.

The keys that a version uses are taken from the version before, or never used
earlier.  Then a key is used without interruption, and a reader that has seen
a key in use once can only miss it after the object has let go of it.
-/

universe u v

variable {Version : Type u} {Key : Type v}

section

variable (uses : Version → Key → Prop)

def UsedAt (versions : List Version) (position : Nat) (key : Key) : Prop :=
  ∃ version ∈ versions[position]?, uses version key

/-- A version uses keys of the version before, or new ones. -/
def GrowsFreshly (versions : List Version) : Prop :=
  ∀ position key, UsedAt uses versions (position + 1) key →
    UsedAt uses versions position key ∨ ∀ earlier ≤ position, ¬ UsedAt uses versions earlier key

/-- Once a version has a property, the following ones have it as well. -/
def Lasting (property : Version → Prop) (versions : List Version) : Prop :=
  ∀ position, ∀ version ∈ versions[position]?, property version →
    ∀ next ∈ versions[position + 1]?, property next

end

variable {uses : Version → Key → Prop} {versions : List Version} {last : Version} {position : Nat} {key : Key}

theorem usedAt_append :
    UsedAt uses (versions ++ [last]) position key ↔
      UsedAt uses versions position key ∨ (position = versions.length ∧ uses last key) := by
  unfold UsedAt
  rcases Nat.lt_trichotomy position versions.length with before | rfl | after
  · rw [getElem?_append_left before]
    have different : position ≠ versions.length := by omega
    simp only [different, false_and, or_false]
  · simp
  · have beyond : versions[position]? = none := getElem?_eq_none (by omega)
    have beyondToo : (versions ++ [last])[position]? = none := by
      apply getElem?_eq_none
      rw [length_append, length_singleton]
      omega
    have different : position ≠ versions.length := by omega
    rw [beyond, beyondToo]
    simp only [different, false_and, or_false]

theorem UsedAt.lt_length (used : UsedAt uses versions position key) : position < versions.length := by
  rcases used with ⟨_, found, _⟩
  exact (List.getElem?_eq_some_iff.mp found).1

/-- A key that is used by two versions is used by every version in between. -/
theorem GrowsFreshly.between (grows : GrowsFreshly uses versions) {first middle last : Nat}
    (firstUses : UsedAt uses versions first key) (lastUses : UsedAt uses versions last key) (le : first ≤ middle)
    (middleLe : middle ≤ last) : UsedAt uses versions middle key := by
  induction last, middleLe using Nat.le_induction with
  | base => exact lastUses
  | succ last middleLe ih =>
    rcases grows last key lastUses with previous | fresh
    · exact ih previous
    · exact absurd firstUses (fresh first (Nat.le_trans le middleLe))

theorem GrowsFreshly.concat (grows : GrowsFreshly uses versions)
    (fresh : ∀ key, uses last key → UsedAt uses versions (versions.length - 1) key ∨
      ∀ position, ¬ UsedAt uses versions position key) : GrowsFreshly uses (versions ++ [last]) := by
  intro position key used
  have unchanged : ∀ earlier ≤ position,
      UsedAt uses (versions ++ [last]) earlier key → position + 1 ≤ versions.length →
        UsedAt uses versions earlier key := by
    intro earlier le earlierUses inside
    rcases usedAt_append.mp earlierUses with known | ⟨rfl, _⟩
    · exact known
    · omega
  rcases usedAt_append.mp used with known | ⟨isLast, lastUses⟩
  · have inside := known.lt_length
    rcases grows position key known with previous | never
    · exact .inl (usedAt_append.mpr (.inl previous))
    · refine .inr fun earlier le earlierUses => ?_
      exact never earlier le (unchanged earlier le earlierUses (by omega))
  · rcases fresh key lastUses with previous | never
    · refine .inl (usedAt_append.mpr (.inl ?_))
      rwa [← isLast, Nat.add_sub_cancel] at previous
    · refine .inr fun earlier le earlierUses => ?_
      exact never earlier (unchanged earlier le earlierUses (by omega))

section

variable {property : Version → Prop} {last : Version}

theorem Lasting.le (lasting : Lasting property versions) {earlier later : Nat} {version : Version}
    (found : versions[earlier]? = some version) (holds : property version) (le : earlier ≤ later)
    (lastFound : versions[later]? = some last) : property last := by
  induction later, le using Nat.le_induction generalizing last with
  | base =>
    rw [found, Option.some.injEq] at lastFound
    exact lastFound ▸ holds
  | succ later _ ih =>
    have inside := (List.getElem?_eq_some_iff.mp lastFound).1
    have previous : versions[later]? = some versions[later] := getElem?_eq_getElem (by omega)
    exact lasting later _ previous (ih previous) last lastFound

theorem Lasting.concat (lasting : Lasting property versions)
    (lasts : ∀ previous ∈ versions.getLast?, property previous → property last) :
    Lasting property (versions ++ [last]) := by
  intro position version found holds next nextFound
  have inside := (List.getElem?_eq_some_iff.mp nextFound).1
  rw [length_append, length_singleton] at inside
  rw [Option.mem_def, getElem?_append_left (by omega)] at found
  by_cases isLast : position + 1 = versions.length
  · rw [isLast, Option.mem_def, getElem?_concat_length, Option.some.injEq] at nextFound
    rw [← nextFound]
    apply lasts version _ holds
    rw [Option.mem_def, getLast?_eq_getElem?, ← isLast, Nat.add_sub_cancel]
    exact found
  · rw [Option.mem_def, getElem?_append_left (by omega)] at nextFound
    exact lasting position version found holds next nextFound

end

end ClusterApi.Foundation
