import Mathlib.Data.List.Nodup

namespace ClusterApi.Foundation

open List

/-!
# Loops that may be left early

A loop over a list of items that passes a state along.  The body ends with
`yield` to go on with the next item and with `done` to leave the loop.

Most loops of a controller are local: every item has a key, and the body reads
and writes only what the state holds under the key of its item.  The outcome
for one item then depends on the items before it in one way only, namely
whether one of them leaves the loop.
-/

universe u v w

variable {State : Type u} {Item : Type v} {body : State → Item → ForInStep State} {state : State} {item : Item}

def loop (body : State → Item → ForInStep State) : State → List Item → ForInStep State
  | state, [] => .yield state
  | state, item :: rest =>
    match body state item with
    | .done final => .done final
    | .yield next => loop body next rest

def leaves (body : State → Item → ForInStep State) (state : State) (item : Item) : Bool :=
  match body state item with
  | .done _ => true
  | .yield _ => false

theorem forall_split_cons {holds : List Item → Item → Prop} {first : Item} {rest : List Item} :
    (∀ before item after, first :: rest = before ++ item :: after → holds before item) ↔
      holds [] first ∧
        ∀ before item after, rest = before ++ item :: after → holds (first :: before) item := by
  constructor
  · intro everywhere
    refine ⟨everywhere [] first rest rfl, ?_⟩
    intro before item after split
    exact everywhere (first :: before) item after (by rw [split, cons_append])
  · rintro ⟨atFront, behind⟩ before item after split
    cases before with
    | nil =>
      rw [nil_append, cons.injEq] at split
      rw [← split.1]
      exact atFront
    | cons _ before =>
      rw [cons_append, cons.injEq] at split
      rw [← split.1]
      exact behind before item after split.2

theorem leaves_of_done {final : State} (ran : body state item = .done final) : leaves body state item = true := by
  rw [leaves, ran]

theorem leaves_of_yield {next : State} (ran : body state item = .yield next) : leaves body state item = false := by
  rw [leaves, ran]

section

variable {body : State → Item → ForInStep State} {state : State} {rest : List Item} {item : Item}

theorem loop_cons_of_done {final : State} (ran : body state item = .done final) :
    loop body state (item :: rest) = .done final := by
  rw [loop, ran]

theorem loop_cons_of_yield {next : State} (ran : body state item = .yield next) :
    loop body state (item :: rest) = loop body next rest := by
  rw [loop, ran]

end

/-! ## Local loops -/

section

variable {Key : Type w} {View : Type*}

/-- The body depends on, and changes, only what the state shows under the key of its item. -/
structure Local (body : State → Item → ForInStep State) (key : Item → Key) (view : State → Key → View) : Prop where
  frame : ∀ state item other, other ≠ key item → view (body state item).run other = view state other
  leaves_congr : ∀ first second item, view first (key item) = view second (key item) →
    leaves body first item = leaves body second item
  view_congr : ∀ first second item, view first (key item) = view second (key item) →
    view (body first item).run (key item) = view (body second item).run (key item)

variable {body : State → Item → ForInStep State} {key : Item → Key} {view : State → Key → View} {items : List Item}

theorem Local.of_result (ends : Item → View → Bool) (result : Item → View → View)
    (leaves_eq : ∀ state item, leaves body state item = ends item (view state (key item)))
    (view_self : ∀ state item, view (body state item).run (key item) = result item (view state (key item)))
    (view_other : ∀ state item other, other ≠ key item → view (body state item).run other = view state other) :
    Local body key view where
  frame := view_other
  leaves_congr := by
    intro first second item same
    rw [leaves_eq, leaves_eq, same]
  view_congr := by
    intro _ _ _ same
    rw [view_self, view_self, same]

theorem Local.view_loop_of_notMem (isLocal : Local body key view) {other : Key} (outside : other ∉ items.map key)
    (state : State) : view (loop body state items).run other = view state other := by
  induction items generalizing state with
  | nil => rfl
  | cons item _ ih =>
    rw [map_cons, mem_cons, not_or] at outside
    have framed := isLocal.frame state item other outside.1
    cases ran : body state item with
    | done =>
      rw [loop_cons_of_done ran]
      rwa [ran] at framed
    | yield next =>
      rw [loop_cons_of_yield ran, ih outside.2 next]
      rwa [ran] at framed

/-- An item is untouched if an item before it leaves the loop, and otherwise
treated as if it were the only one. -/
theorem Local.view_loop (isLocal : Local body key view) {item : Item} {after : List Item}
    (before : List Item) (distinct : ((before ++ item :: after).map key).Nodup) (state : State) :
    view (loop body state (before ++ item :: after)).run (key item) =
      if before.any (leaves body state) then view state (key item) else view (body state item).run (key item) := by
  induction before generalizing state with
  | nil =>
    rw [nil_append, map_cons, nodup_cons] at distinct
    rw [nil_append, any_nil, if_neg Bool.false_ne_true]
    cases ran : body state item with
    | done => rw [loop_cons_of_done ran]
    | yield =>
      rw [loop_cons_of_yield ran, isLocal.view_loop_of_notMem distinct.1]
      rfl
  | cons head rest ih =>
    rw [cons_append, map_cons, nodup_cons, mem_map] at distinct
    have apart : ∀ other ∈ rest ++ item :: after, key other ≠ key head := by
      intro other inside same
      exact distinct.1 ⟨other, inside, same⟩
    have framed : ∀ other ∈ rest ++ item :: after,
        view (body state head).run (key other) = view state (key other) := by
      intro other inside
      exact isLocal.frame state head (key other) (apart other inside)
    have itemInside : item ∈ rest ++ item :: after := by simp
    rw [cons_append, any_cons]
    cases ran : body state head with
    | done =>
      rw [loop_cons_of_done ran, leaves_of_done ran, Bool.true_or, if_pos rfl, ← framed item itemInside, ran]
    | yield next =>
      simp only [ran, ForInStep.run] at framed
      have sameLeaves : rest.any (leaves body next) = rest.any (leaves body state) := by
        rw [Bool.eq_iff_iff, any_eq_true, any_eq_true]
        apply exists_congr
        intro other
        apply and_congr_right
        intro inside
        rw [isLocal.leaves_congr next state other (framed other (mem_append_left _ inside))]
      rw [loop_cons_of_yield ran, leaves_of_yield ran, Bool.false_or, ih distinct.2 next,
        sameLeaves, isLocal.view_congr next state item (framed item itemInside), framed item itemInside]

theorem Local.view_loop_of_goesOn (isLocal : Local body key view)
    (goesOn : ∀ state item, leaves body state item = false) (distinct : (items.map key).Nodup) {item : Item}
    (inside : item ∈ items) (state : State) :
    view (loop body state items).run (key item) = view (body state item).run (key item) := by
  rcases append_of_mem inside with ⟨before, _, rfl⟩
  rw [isLocal.view_loop before distinct state, if_neg]
  rw [any_eq_true]
  rintro ⟨_, -, left⟩
  rw [goesOn] at left
  exact Bool.false_ne_true left

theorem Local.fold_loop (isLocal : Local body key view) (goesOn : ∀ state item, leaves body state item = false)
    {Collected : Type*} (collected : State → Collected) (collect : Collected → Item → View → Collected)
    (collects : ∀ state item, collected (body state item).run = collect (collected state) item (view state (key item)))
    (distinct : (items.map key).Nodup) (state : State) :
    collected (loop body state items).run =
      items.foldl (fun current item => collect current item (view state (key item))) (collected state) := by
  induction items generalizing state with
  | nil => rfl
  | cons item _ ih =>
    rw [map_cons, nodup_cons, mem_map] at distinct
    have collectsItem := collects state item
    have framed := isLocal.frame state item
    cases ran : body state item with
    | done => exact absurd (leaves_of_done ran) (Bool.eq_false_iff.mp (goesOn state item))
    | yield next =>
      simp only [ran, ForInStep.run] at collectsItem framed
      rw [loop_cons_of_yield ran, ih distinct.2 next, foldl_cons, collectsItem]
      apply foldl_ext
      intro _ other inside
      rw [framed (key other) (fun same => distinct.1 ⟨other, inside, same⟩)]

end

/-! ## The last write -/

theorem foldl_or_eq_findSome? {Value : Type*} (write : Item → Option Value) (items : List Item)
    (initial : Option Value) :
    items.foldl (fun current item => (write item).or current) initial = (items.reverse.findSome? write).or initial := by
  induction items generalizing initial with
  | nil => rfl
  | cons item _ ih =>
    rw [foldl_cons, ih, reverse_cons, findSome?_append, Option.or_assoc]
    cases found : write item <;> simp [found]

/-! ## Loops that change all elements of a list -/

theorem foldl_map_eq_map_foldl {Element : Type*} (change : Item → Element → Element)
    (items : List Item) (elements : List Element) :
    items.foldl (fun elements item => elements.map (change item)) elements =
      elements.map fun element => items.foldl (fun element item => change item element) element := by
  induction items generalizing elements with
  | nil => exact (map_id elements).symm
  | cons _ _ ih =>
    rw [foldl_cons, ih, map_map]
    rfl

end ClusterApi.Foundation
