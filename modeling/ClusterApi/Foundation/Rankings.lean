import ClusterApi.Foundation.Sorting

namespace ClusterApi.Foundation

open List

/-!
# Rankings by keys that are not fixed

Items are ranked by their keys, and only the first ones are used.  The key of
an item is chosen among several admissible ones.  The first items do not depend
on the choice exactly if every item that can be among them compares in the same
way with all others, whatever is chosen.
-/

universe u v

variable {Item : Type u} {Key : Type v} [LinearOrder Key]

/-! ## The place of an item -/

def ranking (key : Item → Key) (items : List Item) : List Item :=
  stableSort (fun first second => key first < key second) items

/-- The number of items in front. -/
def rank (key : Item → Key) (items : List Item) (item : Item) : Nat := items.countP fun other => key other < key item

theorem comparesBy_key (key : Item → Key) : ComparesBy (fun first second => decide (key first < key second)) key := by
  intro _ _
  exact decide_eq_true_iff

/-- In a list in strict order an item stands behind as many items as have a smaller key. -/
theorem getElem?_eq_some_iff_rank {key : Item → Key} {list : List Item}
    (ordered : list.Pairwise fun first second => key first < key second) {item : Item} (index : Nat) :
    list[index]? = some item ↔ item ∈ list ∧ rank key list item = index := by
  induction list generalizing index with
  | nil => simp
  | cons first rest ih =>
    rw [pairwise_cons] at ordered
    have atFirst : rank key (first :: rest) first = 0 := by
      rw [rank, countP_eq_zero]
      intro other inside
      rcases mem_cons.mp inside with rfl | later
      · simp
      · simpa using (ordered.1 other later).le
    have behind : ∀ other ∈ rest, rank key (first :: rest) other = rank key rest other + 1 := by
      intro other later
      exact countP_cons_of_pos (by simpa using ordered.1 other later)
    cases index with
    | zero =>
      rw [getElem?_cons_zero, Option.some.injEq, mem_cons]
      constructor
      · rintro rfl
        exact ⟨.inl rfl, atFirst⟩
      · rintro ⟨rfl | later, noneBefore⟩
        · rfl
        · rw [behind item later] at noneBefore
          cases noneBefore
    | succ =>
      rw [getElem?_cons_succ, ih ordered.2, mem_cons]
      constructor
      · rintro ⟨later, place⟩
        exact ⟨.inr later, by rw [behind item later, place]⟩
      · rintro ⟨rfl | later, place⟩
        · rw [atFirst] at place
          cases place
        · rw [behind item later, Nat.add_right_cancel_iff] at place
          exact ⟨later, place⟩

section

variable {key : Item → Key} {items : List Item} (distinct : items.Nodup)
  (apart : ∀ first ∈ items, ∀ second ∈ items, key first = key second → first = second)

include distinct apart

theorem ranking_ordered : (ranking key items).Pairwise fun first second => key first < key second := by
  have perm := stableSort_perm (fun first second => decide (key first < key second)) items
  have distinctSorted : (ranking key items).Nodup := perm.nodup_iff.mpr distinct
  refine (distinctSorted.and (stableSort_sorted (comparesBy_key key) items)).imp_of_mem ?_
  rintro first second firstInside secondInside ⟨different, le⟩
  apply lt_of_le_of_ne le
  intro same
  exact different (apart first (perm.mem_iff.mp firstInside) second (perm.mem_iff.mp secondInside) same)

theorem ranking_congr {other : Item → Key} (agree : ∀ item ∈ items, other item = key item) :
    ranking other items = ranking key items := by
  have perm := stableSort_perm (fun first second => decide (key first < key second)) items
  refine stableSort_eq_of_ordered (comparesBy_key other) perm.symm ?_
  refine (ranking_ordered distinct apart).imp_of_mem ?_
  intro first second firstInside secondInside _
  rwa [agree first (perm.mem_iff.mp firstInside), agree second (perm.mem_iff.mp secondInside)]

theorem getElem?_ranking {item : Item} (index : Nat) :
    (ranking key items)[index]? = some item ↔ item ∈ items ∧ rank key items item = index := by
  have perm := stableSort_perm (fun first second => decide (key first < key second)) items
  rw [getElem?_eq_some_iff_rank (ranking_ordered distinct apart)]
  exact and_congr perm.mem_iff (by rw [rank, rank, ranking, perm.countP_eq])

end

theorem imp_of_countP_eq {strong weak : Item → Bool} {items : List Item}
    (implies : ∀ item ∈ items, strong item = true → weak item = true)
    (equal : items.countP strong = items.countP weak) : ∀ item ∈ items, weak item = true → strong item = true := by
  have split := countP_eq_countP_filter_add items weak strong
  rw [countP_filter, countP_filter] at split
  have both : items.countP (fun item => weak item && strong item) = items.countP strong := by
    refine countP_congr fun item inside => ?_
    rw [Bool.and_eq_true]
    exact and_iff_right_of_imp (implies item inside)
  have none : items.countP (fun item => weak item && !strong item) = 0 := by omega
  intro item inside isWeak
  simpa [isWeak] using countP_eq_zero.mp none item inside

/-! ## Admissible keys -/

variable (admissible : Item → Set Key)

/-- The first item comes before the second, whatever keys they have. -/
def Always (first second : Item) : Prop := ∀ left ∈ admissible first, ∀ right ∈ admissible second, left < right

def Chooses (items : List Item) (key : Item → Key) : Prop := ∀ item ∈ items, key item ∈ admissible item

open Classical in
/-- The number of items that come before an item, whatever keys they have. -/
noncomputable def alwaysBefore (items : List Item) (item : Item) : Nat :=
  items.countP fun other => decide (Always admissible other item)

/-- Every item that can be among the first ones compares in the same way with all others. -/
def Settled (items : List Item) (limit : Nat) : Prop :=
  ∀ item ∈ items, limit ≤ alwaysBefore admissible items item ∨
    ∀ other ∈ items, other ≠ item → Always admissible item other ∨ Always admissible other item

/-- Admissible keys of different items are different. -/
def KeysApart (items : List Item) : Prop :=
  ∀ first ∈ items, ∀ second ∈ items, ∀ key, key ∈ admissible first → key ∈ admissible second → first = second

section

variable {admissible} {items : List Item} {key : Item → Key} {item : Item} {limit : Nat}

omit [LinearOrder Key] in
theorem Chooses.apart (chooses : Chooses admissible items key) (keysApart : KeysApart admissible items) :
    ∀ first ∈ items, ∀ second ∈ items, key first = key second → first = second := by
  intro first firstInside second secondInside same
  apply keysApart first firstInside second secondInside (key first) (chooses first firstInside)
  rw [same]
  exact chooses second secondInside

theorem alwaysBefore_le_rank (chooses : Chooses admissible items key) (inside : item ∈ items) :
    alwaysBefore admissible items item ≤ rank key items item := by
  classical
  apply countP_mono_left
  intro other otherInside before
  exact decide_eq_true
    (of_decide_eq_true before (key other) (chooses other otherInside) (key item) (chooses item inside))

theorem rank_eq_alwaysBefore (chooses : Chooses admissible items key) (inside : item ∈ items)
    (compares : ∀ other ∈ items, key other < key item → Always admissible other item) :
    rank key items item = alwaysBefore admissible items item := by
  classical
  apply countP_congr
  intro other otherInside
  constructor
  · intro less
    exact decide_eq_true (compares other otherInside (of_decide_eq_true less))
  · intro before
    exact decide_eq_true
      (of_decide_eq_true before (key other) (chooses other otherInside) (key item) (chooses item inside))

/-- Where the first items are settled, they are the same for all choices of keys. -/
theorem Settled.take_ranking_eq (settled : Settled admissible items limit) (distinct : items.Nodup)
    (keysApart : KeysApart admissible items) {first second : Item → Key} (firstChooses : Chooses admissible items first)
    (secondChooses : Chooses admissible items second) :
    (ranking first items).take limit = (ranking second items).take limit := by
  have moves : ∀ {key other : Item → Key}, Chooses admissible items key → Chooses admissible items other →
      ∀ index < limit, ∀ item, (ranking key items)[index]? = some item → (ranking other items)[index]? = some item := by
    intro _ _ keyChooses otherChooses index below item placed
    rw [getElem?_ranking distinct (keyChooses.apart keysApart)] at placed
    rw [getElem?_ranking distinct (otherChooses.apart keysApart)]
    rcases placed with ⟨inside, place⟩
    refine ⟨inside, ?_⟩
    have compares := (settled item inside).resolve_left (by
      have bound := alwaysBefore_le_rank keyChooses inside
      omega)
    have fixed : ∀ {chosen : Item → Key}, Chooses admissible items chosen →
        rank chosen items item = alwaysBefore admissible items item := by
      intro chosen chooses
      apply rank_eq_alwaysBefore chooses inside
      intro another anotherInside less
      have different : another ≠ item := by
        rintro rfl
        exact lt_irrefl _ less
      rcases compares another anotherInside different with before | after
      · exact absurd less (not_lt.mpr
          (before (chosen item) (chooses item inside) (chosen another) (chooses another anotherInside)).le)
      · exact after
    rw [fixed otherChooses, ← fixed keyChooses, place]
  apply ext_getElem?
  intro index
  by_cases below : index < limit
  · rw [getElem?_take_of_lt below, getElem?_take_of_lt below]
    apply Option.ext
    intro item
    exact ⟨moves firstChooses secondChooses index below item, moves secondChooses firstChooses index below item⟩
  · rw [getElem?_take_eq_none (not_lt.mp below), getElem?_take_eq_none (not_lt.mp below)]

theorem exists_rank_eq_alwaysBefore
    (least : ∀ item ∈ items, ∃ key ∈ admissible item, ∀ other ∈ admissible item, key ≤ other) (inside : item ∈ items) :
    ∃ key, Chooses admissible items key ∧ rank key items item = alwaysBefore admissible items item := by
  classical
  rcases least item inside with ⟨smallest, isAdmissible, isLeast⟩
  have choice : ∀ other ∈ items, ∃ key ∈ admissible other,
      (other = item → key = smallest) ∧ (key < smallest → Always admissible other item) := by
    intro other otherInside
    by_cases same : other = item
    · subst same
      exact ⟨smallest, isAdmissible, fun _ => rfl, fun less => absurd less (lt_irrefl _)⟩
    · by_cases late : ∃ key ∈ admissible other, ¬ key < smallest
      · rcases late with ⟨key, keyAdmissible, notLess⟩
        exact ⟨key, keyAdmissible, fun isItem => absurd isItem same, fun less => absurd less notLess⟩
      · push Not at late
        rcases least other otherInside with ⟨key, keyAdmissible, -⟩
        refine ⟨key, keyAdmissible, fun isItem => absurd isItem same, fun _ => ?_⟩
        intro left leftAdmissible right rightAdmissible
        exact (late left leftAdmissible).trans_le (isLeast right rightAdmissible)
  let key : Item → Key := fun other =>
    if otherInside : other ∈ items then (choice other otherInside).choose else smallest
  have chosen : ∀ other ∈ items, key other ∈ admissible other ∧
      (other = item → key other = smallest) ∧ (key other < smallest → Always admissible other item) := by
    intro other otherInside
    have spec := (choice other otherInside).choose_spec
    simpa only [key, dif_pos otherInside] using spec
  have chooses : Chooses admissible items key := fun other otherInside => (chosen other otherInside).1
  refine ⟨key, chooses, rank_eq_alwaysBefore chooses inside ?_⟩
  intro other otherInside less
  rw [(chosen item inside).2.1 rfl] at less
  exact (chosen other otherInside).2.2 less

theorem settled_of_take_ranking_eq (distinct : items.Nodup) (keysApart : KeysApart admissible items)
    (least : ∀ item ∈ items, ∃ key ∈ admissible item, ∀ other ∈ admissible item, key ≤ other)
    (same : ∀ first second, Chooses admissible items first → Chooses admissible items second →
      (ranking first items).take limit = (ranking second items).take limit) : Settled admissible items limit := by
  classical
  intro item inside
  apply or_iff_not_imp_left.mpr
  intro reachable other otherInside different
  by_contra neither
  rw [not_or] at neither
  rcases exists_rank_eq_alwaysBefore least inside with ⟨first, firstChooses, place⟩
  -- A second choice puts the other item in front.
  have second : ∃ second, Chooses admissible items second ∧ second other < second item := by
    have notBefore := neither.1
    unfold Always at notBefore
    push Not at notBefore
    rcases notBefore with ⟨left, leftAdmissible, right, rightAdmissible, le⟩
    have less : right < left := by
      apply lt_of_le_of_ne le
      rintro rfl
      exact different (keysApart other otherInside item inside right rightAdmissible leftAdmissible)
    refine ⟨fun another => if another = item then left else if another = other then right else first another, ?_, ?_⟩
    · intro another anotherInside
      dsimp only
      split_ifs with isItem isOther
      · exact isItem ▸ leftAdmissible
      · exact isOther ▸ rightAdmissible
      · exact firstChooses another anotherInside
    · simpa [different] using less
  rcases second with ⟨second, secondChooses, less⟩
  have placedFirst := (getElem?_ranking distinct (firstChooses.apart keysApart) _).mpr ⟨inside, place⟩
  have placedSecond : (ranking second items)[alwaysBefore admissible items item]? = some item := by
    rw [← getElem?_take_of_lt (not_le.mp reachable), ← same first second firstChooses secondChooses,
      getElem?_take_of_lt (not_le.mp reachable)]
    exact placedFirst
  have samePlace := ((getElem?_ranking distinct (secondChooses.apart keysApart) _).mp placedSecond).2
  have before : decide (Always admissible other item) = true := by
    refine imp_of_countP_eq ?_ samePlace.symm other otherInside (decide_eq_true less)
    intro another anotherInside always
    exact decide_eq_true (of_decide_eq_true always (second another) (secondChooses another anotherInside) (second item)
      (secondChooses item inside))
  exact neither.2 (of_decide_eq_true before)

end

end ClusterApi.Foundation
