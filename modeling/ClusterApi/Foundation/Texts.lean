import Mathlib.Data.List.TakeWhile
import Mathlib.Data.String.Basic

namespace ClusterApi.Foundation

open List

/-!
# Texts that are joined

Texts are joined with a separator between them.  Two joined texts are different
as soon as their lists fork, which means that the first texts in which they
differ have different characters at the same place.
-/

def joinTexts (separator : String) : List String → String
  | [] => ""
  | [last] => last
  | first :: second :: rest => first ++ separator ++ joinTexts separator (second :: rest)

theorem toList_joinTexts_cons (separator first : String) (rest : List String) :
    (joinTexts separator (first :: rest)).toList =
      first.toList ++ if rest = [] then [] else separator.toList ++ (joinTexts separator rest).toList := by
  cases rest with
  | nil => simp [joinTexts]
  | cons => simp [joinTexts, String.toList_append]

/-- `strings.Split`: a text without the separator is one part, and so is the empty text. -/
def splitText (separator : Char) (text : String) : List String := (text.toList.splitOn separator).map String.ofList

theorem toList_joinTexts (separator : String) (texts : List String) :
    (joinTexts separator texts).toList = separator.toList.intercalate (texts.map String.toList) := by
  induction texts with
  | nil => rfl
  | cons _ rest ih =>
    rw [toList_joinTexts_cons, ih]
    cases rest with
    | nil => simp
    | cons => simp [intercalate]

theorem joinTexts_splitText (separator : Char) (text : String) :
    joinTexts (String.singleton separator) (splitText separator text) = text := by
  apply String.toList_inj.mp
  rw [toList_joinTexts, splitText, map_map]
  have same : String.toList ∘ String.ofList = id := by
    funext characters
    exact String.toList_ofList
  rw [same, map_id, String.toList_singleton]
  exact intercalate_splitOn _

theorem head?_splitText_eq_empty {separator : Char} {text : String} :
    (splitText separator text).head? = some "" ↔ ∀ character ∈ text.toList.head?, character = separator := by
  rw [splitText, head?_map, Option.map_eq_some_iff]
  cases text.toList with
  | nil => simp [splitOn_nil]
  | cons character rest =>
    rw [splitOn, splitOnP_cons_eq_if_modifyHead]
    by_cases same : character = separator
    · simp [same]
    · cases splitOnP (fun other => other == separator) rest with
      | nil => simp [same]
      | cons => simp [same, String.ext_iff]

theorem joinTexts_append_singleton (separator last : String) {texts : List String} (nonempty : texts ≠ []) :
    joinTexts separator (texts ++ [last]) = joinTexts separator texts ++ separator ++ last := by
  induction texts with
  | nil => exact absurd rfl nonempty
  | cons _ rest ih =>
    cases rest with
    | nil => rfl
    | cons second rest =>
      have appended := ih (cons_ne_nil second rest)
      rw [cons_append] at appended
      rw [cons_append, cons_append, joinTexts, appended, joinTexts]
      simp only [String.append_assoc]

/-! ## Texts that differ, whatever follows -/

def Diverges (first second : List Char) : Prop :=
  ∃ common left right firstRest secondRest, left ≠ right ∧
    first = common ++ left :: firstRest ∧ second = common ++ right :: secondRest

namespace Diverges

variable {first second : List Char}

variable (diverges : Diverges first second)
include diverges

theorem ne : first ≠ second := by
  rcases diverges with ⟨_, _, _, _, _, different, rfl, rfl⟩
  intro same
  have tails := append_cancel_left same
  exact different (cons.inj tails).1

theorem append_left (front : List Char) : Diverges (front ++ first) (front ++ second) := by
  rcases diverges with ⟨common, left, right, firstRest, secondRest, different, rfl, rfl⟩
  exact ⟨front ++ common, left, right, firstRest, secondRest, different, by simp, by simp⟩

theorem append_right (firstEnd secondEnd : List Char) : Diverges (first ++ firstEnd) (second ++ secondEnd) := by
  rcases diverges with ⟨common, left, right, firstRest, secondRest, different, rfl, rfl⟩
  exact ⟨common, left, right, firstRest ++ firstEnd, secondRest ++ secondEnd, different, by simp, by simp⟩

end Diverges

theorem diverges_of_terminated {isEnd : Char → Bool} {first second : List Char}
    (firstInner : ∀ character ∈ first, isEnd character = false)
    (secondInner : ∀ character ∈ second, isEnd character = false) (different : first ≠ second)
    {firstEnd secondEnd : Char} (firstEnds : isEnd firstEnd = true) (secondEnds : isEnd secondEnd = true)
    (firstRest secondRest : List Char) :
    Diverges (first ++ firstEnd :: firstRest) (second ++ secondEnd :: secondRest) := by
  have apart : ∀ {inner terminator : Char}, isEnd inner = false → isEnd terminator = true → inner ≠ terminator := by
    rintro inner terminator isInner isTerminator rfl
    rw [isInner] at isTerminator
    cases isTerminator
  induction first generalizing second with
  | nil =>
    cases second with
    | nil => exact absurd rfl different
    | cons head second =>
      have inner := secondInner head mem_cons_self
      exact
        ⟨[], firstEnd, head, firstRest, second ++ secondEnd :: secondRest, (apart inner firstEnds).symm, rfl, rfl⟩
  | cons head first ih =>
    have inner := firstInner head mem_cons_self
    cases second with
    | nil => exact ⟨[], head, secondEnd, first ++ firstEnd :: firstRest, secondRest, apart inner secondEnds, rfl, rfl⟩
    | cons other second =>
      by_cases same : head = other
      · subst same
        have diverges := ih
          (fun character inside => firstInner character (mem_cons_of_mem head inside))
          (fun character inside => secondInner character (mem_cons_of_mem head inside))
          (fun equal => different (congrArg (head :: ·) equal))
        exact diverges.append_left [head]
      · exact ⟨[], head, other, first ++ firstEnd :: firstRest, second ++ secondEnd :: secondRest, same, rfl, rfl⟩

/-! ## Lists that fork -/

/-- The first texts in which the lists differ diverge. -/
def Forks (first second : List String) : Prop :=
  ∃ front left right firstRest secondRest, Diverges left.toList right.toList ∧
    first = front ++ left :: firstRest ∧ second = front ++ right :: secondRest

namespace Forks

variable {first second : List String}

variable (forks : Forks first second)
include forks

theorem append_left (front : List String) : Forks (front ++ first) (front ++ second) := by
  rcases forks with ⟨common, left, right, firstRest, secondRest, diverges, rfl, rfl⟩
  exact ⟨front ++ common, left, right, firstRest, secondRest, diverges, by simp, by simp⟩

theorem append_right (firstEnd secondEnd : List String) : Forks (first ++ firstEnd) (second ++ secondEnd) := by
  rcases forks with ⟨common, left, right, firstRest, secondRest, diverges, rfl, rfl⟩
  exact ⟨common, left, right, firstRest ++ firstEnd, secondRest ++ secondEnd, diverges, by simp, by simp⟩

theorem joinTexts_ne (separator : String) : joinTexts separator first ≠ joinTexts separator second := by
  rcases forks with ⟨front, left, right, firstRest, secondRest, diverges, rfl, rfl⟩
  have joined : Diverges (joinTexts separator (front ++ left :: firstRest)).toList
      (joinTexts separator (front ++ right :: secondRest)).toList := by
    induction front with
    | nil =>
      rw [nil_append, nil_append, toList_joinTexts_cons, toList_joinTexts_cons]
      exact diverges.append_right _ _
    | cons _ _ ih =>
      rw [cons_append, cons_append, toList_joinTexts_cons, toList_joinTexts_cons, if_neg (by simp), if_neg (by simp)]
      exact (ih.append_left _).append_left _
  intro same
  exact joined.ne (congrArg String.toList same)

end Forks

theorem exists_first_difference {Item : Type} {first second : List Item}
    (sameLength : first.length = second.length) (different : first ≠ second) :
    ∃ front left right firstRest secondRest, left ≠ right ∧ first = front ++ left :: firstRest ∧
      second = front ++ right :: secondRest := by
  induction first generalizing second with
  | nil =>
    cases second with
    | nil => exact absurd rfl different
    | cons => cases sameLength
  | cons head first ih =>
    cases second with
    | nil => cases sameLength
    | cons other second =>
      by_cases same : head = other
      · subst same
        have restDifferent := fun equal => different (congrArg (head :: ·) equal)
        rcases ih (Nat.succ.inj sameLength) restDifferent with
          ⟨front, left, right, firstRest, secondRest, apart, rfl, rfl⟩
        exact ⟨head :: front, left, right, firstRest, secondRest, apart, rfl, rfl⟩
      · exact ⟨[], head, other, first, second, same, rfl, rfl⟩

/-- The lists are equal if the condition holds, and fork otherwise. -/
def EqualOrFork (condition : Prop) (first second : List String) : Prop :=
  condition ∧ first = second ∨ ¬ condition ∧ Forks first second

namespace EqualOrFork

variable {condition other : Prop} {first second : List String}

theorem append (start : EqualOrFork condition first second) {firstEnd secondEnd : List String}
    (ending : EqualOrFork other firstEnd secondEnd) :
    EqualOrFork (condition ∧ other) (first ++ firstEnd) (second ++ secondEnd) := by
  rcases start with ⟨holds, rfl⟩ | ⟨fails, forks⟩
  · rcases ending with ⟨otherHolds, rfl⟩ | ⟨otherFails, forks⟩
    · exact .inl ⟨⟨holds, otherHolds⟩, rfl⟩
    · exact .inr ⟨fun both => otherFails both.2, forks.append_left first⟩
  · exact .inr ⟨fun both => fails both.1, forks.append_right firstEnd secondEnd⟩

theorem flatMap {Block : Type} {blocks : List Block} {holds : Block → Prop} {left right : Block → List String}
    (each : ∀ block ∈ blocks, EqualOrFork (holds block) (left block) (right block)) :
    EqualOrFork (∀ block ∈ blocks, holds block) (blocks.flatMap left) (blocks.flatMap right) := by
  induction blocks with
  | nil => exact .inl ⟨fun _ inside => absurd inside not_mem_nil, rfl⟩
  | cons block _ ih =>
    rw [forall_mem_cons, flatMap_cons, flatMap_cons]
    exact (each block mem_cons_self).append
      (ih fun block inside => each block (mem_cons_of_mem _ inside))

theorem joinTexts_eq_iff (equalOrFork : EqualOrFork condition first second) (separator : String) :
    joinTexts separator first = joinTexts separator second ↔ condition := by
  rcases equalOrFork with ⟨holds, rfl⟩ | ⟨fails, forks⟩
  · exact iff_of_true rfl holds
  · exact iff_of_false (forks.joinTexts_ne separator) fails

end EqualOrFork

/-! ## Words without the separator -/

theorem head_eq_of_joinTexts_eq {separator : Char} {first second : String} {firstRest secondRest : List String}
    (firstPlain : separator ∉ first.toList) (secondPlain : separator ∉ second.toList)
    (same : joinTexts (String.singleton separator) (first :: firstRest) =
      joinTexts (String.singleton separator) (second :: secondRest)) : first = second := by
  have word : ∀ {text : String} (rest : List String), separator ∉ text.toList →
      ((joinTexts (String.singleton separator) (text :: rest)).toList.takeWhile (· ≠ separator)) = text.toList := by
    intro text _ plain
    have inner : ∀ character ∈ text.toList, decide (character ≠ separator) = true := by
      intro _ inside
      apply decide_eq_true
      rintro rfl
      exact plain inside
    rw [toList_joinTexts_cons, takeWhile_append_of_pos inner]
    split_ifs <;> simp
  apply String.toList_inj.mp
  rw [← word firstRest firstPlain, ← word secondRest secondPlain, same]

/-- The value of decimal digits. -/
def decimal (digits : List Char) : Nat :=
  digits.foldl (fun value digit => 10 * value + (digit.toNat - '0'.toNat)) 0

end ClusterApi.Foundation
