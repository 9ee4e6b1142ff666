import Mathlib
import ClusterApi.Conditions.Aggregate
import ClusterApi.Foundation.Rankings

namespace ClusterApi.Conditions.Aggregate

open Foundation List

/-!
# Aggregate conditions and the order of the objects

Objects whose conditions changed at the same time are taken in the order in
which they are listed, and messages of equally many objects are ranked by the
names of the objects in that order.  The message of an aggregate is therefore
the same for all orders of the objects exactly if the messages it shows are
settled: every message that can be shown compares in the same way with all
others.
-/

/-! ## The messages of one kind -/

section

variable (ofKind : List ConditionWithOwnerInfo)

def messages : List String := (ofKind.map fun condition => condition.message).dedup

/-- The conditions that report a message. -/
def reports (message : String) : List ConditionWithOwnerInfo :=
  ofKind.filter fun condition => condition.message = message

/-- Messages are ranked by descending number of objects, then by the joined names. -/
def namesKey (conditions : List ConditionWithOwnerInfo) : ℕᵒᵈ ×ₗ String :=
  toLex (OrderDual.toDual conditions.length,
    joinTexts "," (conditions.map fun condition => condition.ownerResource.name.text))

def messageKey (message : String) : ℕᵒᵈ ×ₗ String := namesKey (reports ofKind message)

def SortedByTime (conditions : List ConditionWithOwnerInfo) : Prop :=
  conditions.Pairwise fun first second => first.lastTransitionTime ≤ second.lastTransitionTime

/-- The conditions of a kind as they are found in a run: sorted by time. -/
structure Arranges (arranged ofKind : List ConditionWithOwnerInfo) : Prop where
  perm : arranged.Perm ofKind
  sorted : SortedByTime arranged

/-- The keys that a message can have: the reports are sorted by time, in any order otherwise. -/
def admissibleKeys (message : String) : Set (ℕᵒᵈ ×ₗ String) :=
  Set.image namesKey { conditions | Arranges conditions (reports ofKind message) }

/-- Different objects have different names. -/
def NamesDistinct : Prop :=
  ∀ first ∈ ofKind, ∀ second ∈ ofKind,
    first.ownerResource.name.text = second.ownerResource.name.text → first = second

end

section

variable {ofKind other : List ConditionWithOwnerInfo}

theorem mem_messages {message : String} : message ∈ messages ofKind ↔ reports ofKind message ≠ [] := by
  simp [messages, reports]

theorem nodup_messages : (messages ofKind).Nodup := nodup_dedup _

theorem messages_perm (same : other.Perm ofKind) : (messages other).Perm (messages ofKind) := (same.map _).dedup

theorem reports_perm (same : other.Perm ofKind) (message : String) :
    (reports other message).Perm (reports ofKind message) :=
  same.filter _

theorem messageLess_comparesBy (ofKind : List ConditionWithOwnerInfo) :
    ComparesBy (messageLess ofKind) (messageKey ofKind) := by
  intro _ _
  simp only [messageKey, namesKey, Prod.Lex.toLex_lt_toLex, OrderDual.toDual_lt_toDual, messageLess,
    objectNames, reports, length_map, Bool.or_eq_true, Bool.and_eq_true, decide_eq_true_eq]
  exact or_congr_right (and_congr_right fun _ => decide_eq_true_iff)

/-! ### Admissible keys -/

theorem chooses_messageKey (arranges : Arranges other ofKind) :
    Chooses (admissibleKeys ofKind) (messages ofKind) (messageKey other) := by
  intro message _
  exact ⟨reports other message, ⟨reports_perm arranges.perm message, arranges.sorted.filter _⟩, rfl⟩

theorem admissibleKeys_least (message : String) :
    ∃ key ∈ admissibleKeys ofKind message, ∀ other ∈ admissibleKeys ofKind message, key ≤ other := by
  have finite : { conditions | Arranges conditions (reports ofKind message) }.Finite := by
    apply (finite_toSet (reports ofKind message).permutations).subset
    intro conditions arranges
    exact mem_permutations.mpr arranges.perm
  have byTime : ComparesBy (fun first second : ConditionWithOwnerInfo =>
      decide (first.lastTransitionTime < second.lastTransitionTime)) fun condition => condition.lastTransitionTime := by
    intro _ _
    exact decide_eq_true_iff
  have nonempty : { conditions | Arranges conditions (reports ofKind message) }.Nonempty :=
    ⟨_, stableSort_perm _ _, stableSort_sorted byTime _⟩
  rcases Set.exists_min_image _ namesKey finite nonempty with ⟨conditions, isAdmissible, isLeast⟩
  refine ⟨namesKey conditions, ⟨conditions, isAdmissible, rfl⟩, ?_⟩
  rintro _ ⟨others, othersAdmissible, rfl⟩
  exact isLeast others othersAdmissible

theorem admissibleKeys_apart (distinct : NamesDistinct ofKind) :
    KeysApart (admissibleKeys ofKind) (messages ofKind) := by
  rintro first firstInside second secondInside _ ⟨firstReports, ⟨firstPerm, -⟩, rfl⟩
    ⟨secondReports, ⟨secondPerm, -⟩, same⟩
  rw [mem_messages] at firstInside secondInside
  have headInside : ∀ {message : String} {condition : ConditionWithOwnerInfo} {rest : List ConditionWithOwnerInfo},
      (condition :: rest).Perm (reports ofKind message) → condition ∈ ofKind ∧ condition.message = message := by
    intro _ _ _ perm
    simpa [reports] using perm.mem_iff.mp mem_cons_self
  cases firstReports with
  | nil => exact absurd firstPerm.symm.eq_nil firstInside
  | cons left =>
    cases secondReports with
    | nil => exact absurd secondPerm.symm.eq_nil secondInside
    | cons right =>
      have joined := congrArg (fun key => (ofLex key).2) same
      have sameName := head_eq_of_joinTexts_eq right.ownerResource.name.plain.1 left.ownerResource.name.plain.1 joined
      rcases headInside firstPerm with ⟨leftInside, rfl⟩
      rcases headInside secondPerm with ⟨rightInside, rfl⟩
      rw [distinct right rightInside left leftInside sameName]

theorem messageIndex_eq_ranking (visited : MapOrder) (distinct : NamesDistinct ofKind)
    (arranges : Arranges other ofKind) : messageIndex visited other = ranking (messageKey other) (messages ofKind) := by
  have perm : (visited.keys (messages other)).Perm (messages ofKind) :=
    (visited.perm _).trans (messages_perm arranges.perm)
  have apart := (chooses_messageKey arranges).apart (admissibleKeys_apart distinct)
  calc
    messageIndex visited other = stableSort (messageLess other) (visited.keys (messages other)) := rfl
    _ = stableSort (messageLess other) (messages ofKind) := by
        apply stableSort_eq_of_perm (messageLess_comparesBy other) perm
        intro left leftInside right rightInside
        exact apart left (perm.mem_iff.mp leftInside) right (perm.mem_iff.mp rightInside)
    _ = ranking (messageKey other) (messages ofKind) := by
        rw [ranking, stableSort_eq_insertionSort (messageLess_comparesBy other),
          stableSort_eq_insertionSort (comparesBy_key (messageKey other))]

end

/-! ## The lines of one kind -/

section

variable (pluralize : String → String) (kind : String)

/-- What is shown of a kind. -/
def kindLines (visited : MapOrder) (ofKind : List ConditionWithOwnerInfo) (n : Nat)
    (otherMessage : String) : List String :=
  ((messageIndex visited ofKind).take n).map (messageText pluralize kind ofKind) ++
    otherText pluralize kind
      (((messageIndex visited ofKind).drop n).map fun message => (objectNames ofKind message).length).sum otherMessage

theorem foldl_pick (ofKind : List ConditionWithOwnerInfo) (index : List String)
    (picking : Picking) : index.foldl (pick pluralize kind ofKind) picking =
      { messages := picking.messages ++ (index.take picking.n).map (messageText pluralize kind ofKind)
        n := picking.n - index.length
        other :=
          picking.other + ((index.drop picking.n).map fun message => (objectNames ofKind message).length).sum } := by
  induction index generalizing picking with
  | nil => simp
  | cons _ _ ih =>
    rw [foldl_cons, ih]
    rcases picking with ⟨_, n, _⟩
    cases n with
    | zero => simp [pick, Nat.add_assoc]
    | succ => simp [pick]

theorem aggregateKind_eq (visited : MapOrder) (reported : List ConditionWithOwnerInfo)
    (otherMessage : String) (aggregated : List String × Nat) :
    aggregateKind pluralize visited reported otherMessage aggregated kind =
      let ofKind := reported.filter fun condition => condition.ownerResource.kind = kind
      (aggregated.1 ++ kindLines pluralize kind visited ofKind aggregated.2 otherMessage,
        aggregated.2 - (messages ofKind).length) := by
  rw [aggregateKind, foldl_pick,
    show (messageIndex _ _).length = (messages _).length from ((stableSort_perm _ _).trans (visited.perm _)).length_eq]
  simp [kindLines]

/-! ### The text of a message -/

/-- What ends the first name in the text of a message. -/
def endsName (character : Char) : Bool := character = ',' || character = ':'

theorem endsName_eq_false (name : ObjectName) : ∀ character ∈ name.text.toList, endsName character = false := by
  intro _ inside
  unfold endsName
  rw [Bool.or_eq_false_iff, decide_eq_false_iff_not, decide_eq_false_iff_not]
  constructor
  · rintro rfl
    exact name.plain.1 inside
  · rintro rfl
    exact name.plain.2 inside

theorem toList_objectsText (first : String) (rest : List String) :
    ∃ terminator tail, endsName terminator = true ∧
      (objectsText pluralize kind (first :: rest)).toList =
        ("* " ++ (if rest = [] then kind else pluralize kind) ++ " ").toList ++
          (first.toList ++ terminator :: tail) := by
  cases rest with
  | nil => exact ⟨':', [], rfl, by simp [objectsText, joinTexts, String.toList_append]⟩
  | cons second rest =>
    have several : ∃ shown ending, objectsText pluralize kind (first :: second :: rest) =
        "* " ++ pluralize kind ++ " " ++ joinTexts ", " (first :: second :: shown) ++ ending := by
      by_cases few : rest.length ≤ 1
      · refine ⟨rest, ":", ?_⟩
        rw [objectsText, if_neg (by simp), if_neg (by simp), if_pos (by simp only [length_cons]; omega)]
      · refine ⟨rest.take 1, ", ... (" ++ toString (rest.length - 1) ++ " more):", ?_⟩
        rw [objectsText, if_neg (by simp), if_neg (by simp), if_neg (by simp only [length_cons]; omega)]
        simp [String.append_assoc]
    rcases several with ⟨shown, ending, text⟩
    refine ⟨',', ' ' :: ((joinTexts ", " (second :: shown)).toList ++ ending.toList), rfl, ?_⟩
    rw [text, if_neg (cons_ne_nil _ _), String.toList_append, String.toList_append,
      toList_joinTexts_cons, if_neg (cons_ne_nil _ _)]
    simp

end

section

variable {ofKind one two : List ConditionWithOwnerInfo}

theorem objectNames_perm (same : one.Perm two) (message : String) :
    (objectNames one message).Perm (objectNames two message) :=
  (same.filter _).map _

theorem sortStrings_perm (texts : List String) : (sortStrings texts).Perm texts := stableSort_perm _ texts

theorem sortStrings_eq_of_perm {first second : List String} (same : first.Perm second) :
    sortStrings first = sortStrings second := by
  have byText : ComparesBy (fun first second : String => decide (first < second)) id := by
    intro _ _
    exact decide_eq_true_iff
  exact stableSort_eq_of_perm byText same fun left _ right _ equal => equal

theorem messageText_diverges (pluralize : String → String) (kind : String) (distinct : NamesDistinct ofKind)
    {first second : String} (firstInside : first ∈ messages ofKind) (secondInside : second ∈ messages ofKind)
    (sameCount : (objectNames ofKind first).length = (objectNames ofKind second).length) (different : first ≠ second) :
    Diverges (messageText pluralize kind ofKind first).toList (messageText pluralize kind ofKind second).toList := by
  have sorted : ∀ {message : String}, message ∈ messages ofKind → ∃ condition ∈ ofKind, condition.message = message ∧
      ∃ rest, sortStrings (objectNames ofKind message) = condition.ownerResource.name.text :: rest := by
    intro message inside
    cases names : sortStrings (objectNames ofKind message) with
    | nil =>
      have none : objectNames ofKind message = [] := by
        have perm := sortStrings_perm (objectNames ofKind message)
        rw [names] at perm
        exact perm.symm.eq_nil
      rw [objectNames, map_eq_nil_iff] at none
      exact absurd none (mem_messages.mp inside)
    | cons name rest =>
      have member : name ∈ objectNames ofKind message := by
        rw [← (sortStrings_perm _).mem_iff, names]
        exact mem_cons_self
      simp only [objectNames, mem_map, mem_filter, decide_eq_true_eq] at member
      rcases member with ⟨condition, ⟨conditionInside, reports⟩, rfl⟩
      exact ⟨condition, conditionInside, reports, rest, rfl⟩
  rcases sorted firstInside with ⟨left, leftInside, leftReports, leftRest, leftNames⟩
  rcases sorted secondInside with ⟨right, rightInside, rightReports, rightRest, rightNames⟩
  have sameEmpty : leftRest = [] ↔ rightRest = [] := by
    have leftLength := (sortStrings_perm (objectNames ofKind first)).length_eq
    have rightLength := (sortStrings_perm (objectNames ofKind second)).length_eq
    rw [leftNames, length_cons] at leftLength
    rw [rightNames, length_cons] at rightLength
    rw [← length_eq_zero_iff, ← length_eq_zero_iff]
    omega
  have namesDiffer : left.ownerResource.name.text.toList ≠ right.ownerResource.name.text.toList := by
    intro equal
    have same := distinct left leftInside right rightInside (String.toList_inj.mp equal)
    rw [same, rightReports] at leftReports
    exact different leftReports.symm
  rcases toList_objectsText pluralize kind left.ownerResource.name.text leftRest with
    ⟨leftEnd, leftTail, leftEnds, leftText⟩
  rcases toList_objectsText pluralize kind right.ownerResource.name.text rightRest with
    ⟨rightEnd, rightTail, rightEnds, rightText⟩
  rw [messageText, messageText, leftNames, rightNames, String.toList_append, String.toList_append, leftText, rightText]
  simp only [sameEmpty]
  have words := diverges_of_terminated (endsName_eq_false left.ownerResource.name)
    (endsName_eq_false right.ownerResource.name) namesDiffer leftEnds rightEnds leftTail rightTail
  exact (words.append_left _).append_right _ _

end

/-! ### Two runs -/

section

variable {ofKind one two : List ConditionWithOwnerInfo}

theorem messageIndex_perm (visited : MapOrder) (arranges : Arranges one ofKind) :
    (messageIndex visited one).Perm (messages ofKind) :=
  ((stableSort_perm _ _).trans (visited.perm _)).trans (messages_perm arranges.perm)

theorem messageIndex_counts (visited other : MapOrder) (first : Arranges one ofKind) (second : Arranges two ofKind) :
    ((messageIndex visited one).map fun message => (objectNames ofKind message).length) =
      (messageIndex other two).map fun message => (objectNames ofKind message).length := by
  have descending : ∀ {arranged : List ConditionWithOwnerInfo} (order : MapOrder), Arranges arranged ofKind →
      ((messageIndex order arranged).map fun message => (objectNames ofKind message).length).Pairwise (· ≥ ·) := by
    intro arranged _ arranges
    rw [pairwise_map]
    apply (stableSort_sorted (messageLess_comparesBy arranged) _).imp
    intro before after le
    have fewer : (reports arranged after).length ≤ (reports arranged before).length :=
      OrderDual.toDual_le_toDual.mp (Prod.Lex.monotone_fst _ _ le)
    have sameLength : ∀ message, (objectNames ofKind message).length = (reports arranged message).length := by
      intro message
      rw [objectNames, length_map]
      exact (reports_perm arranges.perm message).length_eq.symm
    rw [ge_iff_le, sameLength, sameLength]
    exact fewer
  refine Perm.eq_of_pairwise (fun _ _ _ _ above below => le_antisymm below above)
    (descending visited first) (descending other second) ?_
  exact ((messageIndex_perm visited first).trans (messageIndex_perm other second).symm).map _

theorem kindLines_equalOrFork (pluralize : String → String) (kind : String) (distinct : NamesDistinct ofKind)
    (visited other : MapOrder) (first : Arranges one ofKind) (second : Arranges two ofKind) (n : Nat)
    (otherMessage : String) :
    EqualOrFork ((messageIndex visited one).take n = (messageIndex other two).take n)
      (kindLines pluralize kind visited one n otherMessage) (kindLines pluralize kind other two n otherMessage) := by
  have counts := messageIndex_counts visited other first second
  have texts : ∀ {arranged}, Arranges arranged ofKind →
      messageText pluralize kind arranged = messageText pluralize kind ofKind := by
    intro arranged arranges
    funext message
    rw [messageText, messageText, sortStrings_eq_of_perm (objectNames_perm arranges.perm message)]
  have lengths : ∀ {arranged}, Arranges arranged ofKind →
      (fun message => (objectNames arranged message).length) = fun message => (objectNames ofKind message).length := by
    intro arranged arranges
    funext message
    exact (objectNames_perm arranges.perm message).length_eq
  unfold kindLines
  rw [texts first, texts second, lengths first, lengths second]
  by_cases same : (messageIndex visited one).take n = (messageIndex other two).take n
  · refine .inl ⟨same, ?_⟩
    rw [same, map_drop, map_drop, counts]
  · refine .inr ⟨same, Forks.append_right ?_ _ _⟩
    have sameLength : ((messageIndex visited one).take n).length = ((messageIndex other two).take n).length := by
      rw [length_take, length_take, (messageIndex_perm visited first).length_eq,
        (messageIndex_perm other second).length_eq]
    rcases exists_first_difference sameLength same with
      ⟨front, left, right, leftRest, rightRest, different, leftSplit, rightSplit⟩
    have inside : ∀ {arranged} (order : MapOrder), Arranges arranged ofKind →
        ∀ message ∈ (messageIndex order arranged).take n, message ∈ messages ofKind := by
      intro _ order arranges _ member
      exact (messageIndex_perm order arranges).mem_iff.mp (mem_of_mem_take member)
    have leftInside := inside visited first left (by simp [leftSplit])
    have rightInside := inside other second right (by simp [rightSplit])
    have sameCount : (objectNames ofKind left).length = (objectNames ofKind right).length := by
      have taken := congrArg (take n) counts
      rw [← map_take, ← map_take, leftSplit, rightSplit, map_append, map_append] at taken
      exact (cons.inj (append_cancel_left taken)).1
    have diverges := messageText_diverges pluralize kind distinct leftInside rightInside sameCount different
    rw [leftSplit, rightSplit, map_append, map_append, map_cons, map_cons]
    exact ⟨_, _, _, _, _, diverges, rfl, rfl⟩

end

/-! ## The blocks of a message

The message of an aggregate shows the issues kind by kind, then the unknowns,
or the infos where there is nothing else.  How much may be shown of a kind
follows from the number of messages before it.
-/

def MergePriority.dropsEmpty : MergePriority → Bool
  | .issue => false
  | .unknown => false
  | .info => true

def MergePriority.otherMessage : MergePriority → String
  | .issue => "with other issues"
  | .unknown => "with status unknown"
  | .info => "with additional info"

structure Block where
  priority : MergePriority
  kind : String
  /-- How many messages may be shown. -/
  budget : Nat

section

variable (getPriority : Condition → MergePriority) (conditions : List ConditionWithOwnerInfo)

/-- The conditions of a priority whose message is reported. -/
def reported (priority : MergePriority) : List ConditionWithOwnerInfo :=
  reporting priority.dropsEmpty (ofPriority getPriority priority conditions)

/-- The conditions of one kind among them. -/
def members (priority : MergePriority) (kind : String) : List ConditionWithOwnerInfo :=
  (reported getPriority conditions priority).filter fun condition => condition.ownerResource.kind = kind

def size (priority : MergePriority) (kind : String) : Nat :=
  (messages (members getPriority conditions priority kind)).length

def kinds (priority : MergePriority) : List String :=
  sortStrings ((reported getPriority conditions priority).map fun condition => condition.ownerResource.kind).dedup

def blocksFrom (priority : MergePriority) : List String → Nat → List Block
  | [], _ => []
  | kind :: rest, n => ⟨priority, kind, n⟩ :: blocksFrom priority rest (n - size getPriority conditions priority kind)

def leftOver (priority : MergePriority) : List String → Nat → Nat
  | [], n => n
  | kind :: rest, n => leftOver priority rest (n - size getPriority conditions priority kind)

def blocksOf (priority : MergePriority) (n : Nat) : List Block :=
  blocksFrom getPriority conditions priority (kinds getPriority conditions priority) n

/-- What a message is made of. -/
def blocks : List Block :=
  if ofPriority getPriority .issue conditions = [] ∧ ofPriority getPriority .unknown conditions = [] then
    blocksOf getPriority conditions .info 3
  else
    blocksOf getPriority conditions .issue 3 ++
      blocksOf getPriority conditions .unknown
        (leftOver getPriority conditions .issue (kinds getPriority conditions .issue) 3)

variable (pluralize : String → String) (visited : MapOrder)

def blockLines (block : Block) : List String :=
  kindLines pluralize block.kind visited (members getPriority conditions block.priority block.kind) block.budget
    block.priority.otherMessage

variable {getPriority conditions pluralize visited}

theorem foldl_aggregateKind (priority : MergePriority) (ofKinds : List String)
    (aggregated : List String × Nat) : ofKinds.foldl
        (aggregateKind pluralize visited (reported getPriority conditions priority) priority.otherMessage) aggregated =
      (aggregated.1 ++ (blocksFrom getPriority conditions priority ofKinds aggregated.2).flatMap
          (blockLines getPriority conditions pluralize visited),
        leftOver getPriority conditions priority ofKinds aggregated.2) := by
  induction ofKinds generalizing aggregated with
  | nil => simp [blocksFrom, leftOver]
  | cons _ _ ih =>
    rw [foldl_cons, ih, aggregateKind_eq]
    simp [blocksFrom, leftOver, blockLines, size, members]

theorem aggregateMessages_eq (priority : MergePriority) (n : Nat) :
    aggregateMessages pluralize visited
        (ofPriority getPriority priority conditions) n priority.dropsEmpty priority.otherMessage =
      ((blocksOf getPriority conditions priority n).flatMap (blockLines getPriority conditions pluralize visited),
        leftOver getPriority conditions priority (kinds getPriority conditions priority) n) := by
  have visitedKinds : sortStrings (visited.keys
      ((reported getPriority conditions priority).map fun condition => condition.ownerResource.kind).dedup) =
        kinds getPriority conditions priority :=
    sortStrings_eq_of_perm (visited.perm _)
  rw [aggregateMessages, show reporting priority.dropsEmpty (ofPriority getPriority priority conditions) =
      reported getPriority conditions priority from rfl, visitedKinds, foldl_aggregateKind, nil_append]
  rfl

theorem aggregateMessage_eq :
    aggregateMessage pluralize visited (ofPriority getPriority .issue conditions)
        (ofPriority getPriority .unknown conditions) (ofPriority getPriority .info conditions) =
      joinTexts "\n" ((blocks getPriority conditions).flatMap (blockLines getPriority conditions pluralize visited)) := by
  have guarded : ∀ priority n,
      (if ofPriority getPriority priority conditions ≠ [] then
          aggregateMessages pluralize visited
            (ofPriority getPriority priority conditions) n priority.dropsEmpty priority.otherMessage
        else ([], n)) =
      ((blocksOf getPriority conditions priority n).flatMap (blockLines getPriority conditions pluralize visited),
        leftOver getPriority conditions priority (kinds getPriority conditions priority) n) := by
    intro _ _
    rw [← aggregateMessages_eq]
    split_ifs with none
    · rfl
    · rw [not_not.mp none, aggregateMessages]
      have noKinds : visited.keys [] = [] := (visited.perm []).eq_nil
      simp [reporting, noKinds, sortStrings, stableSort]
  have issues := guarded .issue 3
  have unknowns := guarded .unknown (leftOver getPriority conditions .issue (kinds getPriority conditions .issue) 3)
  have infos := guarded .info 3
  simp only [MergePriority.dropsEmpty, MergePriority.otherMessage] at issues unknowns infos
  unfold aggregateMessage blocks
  dsimp only
  rw [issues, unknowns]
  by_cases nothing : ofPriority getPriority .issue conditions = [] ∧ ofPriority getPriority .unknown conditions = []
  · rw [nothing.1, if_neg (not_not_intro rfl), Prod.mk.injEq] at issues
    rw [nothing.2, if_neg (not_not_intro rfl), Prod.mk.injEq, ← issues.2] at unknowns
    rw [if_pos nothing, ← issues.1, ← issues.2, ← unknowns.1, ← unknowns.2]
    simp only [nothing, true_and, infos, nil_append]
  · rw [if_neg nothing, if_neg fun all => nothing ⟨all.1, all.2.1⟩, append_nil, flatMap_append]

end

/-! ## Runs over the same objects -/

section

variable {getPriority : Condition → MergePriority} {conditions other : List ConditionWithOwnerInfo}

section

variable (same : other.Perm conditions)
include same

theorem reported_perm (priority : MergePriority) :
    (reported getPriority other priority).Perm (reported getPriority conditions priority) :=
  (same.filter _).filter _

theorem members_perm (priority : MergePriority) (kind : String) :
    (members getPriority other priority kind).Perm (members getPriority conditions priority kind) :=
  (reported_perm same priority).filter _

theorem size_eq_of_perm : size getPriority other = size getPriority conditions := by
  funext priority kind
  exact (messages_perm (members_perm same priority kind)).length_eq

theorem kinds_eq_of_perm : kinds getPriority other = kinds getPriority conditions := by
  funext priority
  exact sortStrings_eq_of_perm ((reported_perm same priority).map _).dedup

theorem blocksFrom_eq_of_perm (priority : MergePriority) (ofKinds : List String) (n : Nat) :
    blocksFrom getPriority other priority ofKinds n = blocksFrom getPriority conditions priority ofKinds n := by
  induction ofKinds generalizing n with
  | nil => rfl
  | cons _ _ ih => rw [blocksFrom, blocksFrom, size_eq_of_perm same, ih]

theorem leftOver_eq_of_perm (priority : MergePriority) (ofKinds : List String) (n : Nat) :
    leftOver getPriority other priority ofKinds n = leftOver getPriority conditions priority ofKinds n := by
  induction ofKinds generalizing n with
  | nil => rfl
  | cons _ _ ih => rw [leftOver, leftOver, size_eq_of_perm same, ih]

theorem ofPriority_eq_nil_iff (priority : MergePriority) :
    ofPriority getPriority priority other = [] ↔ ofPriority getPriority priority conditions = [] := by
  rw [← length_eq_zero_iff, ← length_eq_zero_iff, ofPriority, ofPriority, (same.filter _).length_eq]

theorem blocks_eq_of_perm : blocks getPriority other = blocks getPriority conditions := by
  unfold blocks blocksOf
  simp only [ofPriority_eq_nil_iff same, kinds_eq_of_perm same, blocksFrom_eq_of_perm same, leftOver_eq_of_perm same]

end

/-- What a condition has to be to be among the members of a block. -/
def belongs (getPriority : Condition → MergePriority) (priority : MergePriority) (kind : String)
    (condition : ConditionWithOwnerInfo) : Bool :=
  condition.ownerResource.kind = kind && !(priority.dropsEmpty && condition.message = "") &&
    getPriority condition.toCondition = priority

theorem members_eq_filter (priority : MergePriority) (kind : String) :
    members getPriority conditions priority kind = conditions.filter (belongs getPriority priority kind) := by
  rw [members, reported, reporting, ofPriority, filter_filter, filter_filter]
  rfl

theorem conditionLess_comparesBy (type : String) :
    ComparesBy (conditionLess [type]) fun condition => condition.lastTransitionTime := by
  intro _ _
  have order : ∀ other, conditionOrder [type] other = 0 := by
    simp [conditionOrder]
  simp [conditionLess, order]

end

section

variable (getPriority : Condition → MergePriority) (type : String)

def blockMembers (conditions : List ConditionWithOwnerInfo) (block : Block) : List ConditionWithOwnerInfo :=
  members getPriority conditions block.priority block.kind

/-- The members of a block in the order in which a run finds them. -/
def arranged (listed : List ConditionWithOwnerInfo) (block : Block) : List ConditionWithOwnerInfo :=
  blockMembers getPriority (sortConditions listed [type]) block

/-- The messages of a block that a run shows. -/
def shown (visited : MapOrder) (listed : List ConditionWithOwnerInfo) (block : Block) : List String :=
  (messageIndex visited (arranged getPriority type listed block)).take block.budget

/-- The message of a run. -/
def runMessage (pluralize : String → String) (visited : MapOrder) (listed : List ConditionWithOwnerInfo) : String :=
  aggregateMessage pluralize visited (ofPriority getPriority .issue (sortConditions listed [type]))
    (ofPriority getPriority .unknown (sortConditions listed [type]))
    (ofPriority getPriority .info (sortConditions listed [type]))

/-- All messages that can be shown compare in the same way with the others of their kind, whatever the order of the
objects. -/
def BlocksSettled (conditions : List ConditionWithOwnerInfo) : Prop :=
  ∀ block ∈ blocks getPriority conditions,
    Settled (admissibleKeys (blockMembers getPriority conditions block))
      (messages (blockMembers getPriority conditions block)) block.budget

end

section

variable {getPriority : Condition → MergePriority} {type : String} {conditions one two : List ConditionWithOwnerInfo}

theorem sortConditions_perm (same : one.Perm conditions) : (sortConditions one [type]).Perm conditions :=
  (stableSort_perm _ one).trans same

theorem arranges_arranged (same : one.Perm conditions) (block : Block) :
    Arranges (arranged getPriority type one block) (blockMembers getPriority conditions block) where
  perm := members_perm (sortConditions_perm same) block.priority block.kind
  sorted := by
    rw [arranged, blockMembers, members_eq_filter]
    exact (stableSort_sorted (conditionLess_comparesBy type) one).filter _

theorem reports_blockMembers (block : Block) (message : String) :
    reports (blockMembers getPriority conditions block) message =
      conditions.filter fun condition =>
        decide (condition.message = message) && belongs getPriority block.priority block.kind condition := by
  rw [reports, blockMembers, members_eq_filter, filter_filter]

section

variable (distinct : (conditions.map fun condition => condition.ownerResource).Nodup)

include distinct

theorem namesDistinct_blockMembers (block : Block) : NamesDistinct (blockMembers getPriority conditions block) := by
  intro _ firstInside _ secondInside sameName
  simp only [blockMembers, members_eq_filter, mem_filter, belongs, Bool.and_eq_true,
    decide_eq_true_eq] at firstInside secondInside
  apply inj_on_of_nodup_map distinct firstInside.1 secondInside.1
  apply ConditionOwnerInfo.ext
  · exact firstInside.2.1.1.trans secondInside.2.1.1.symm
  · exact ObjectName.ext sameName

theorem runMessage_eq_iff (pluralize : String → String) (visited other : MapOrder)
    (first : one.Perm conditions) (second : two.Perm conditions) :
    runMessage getPriority type pluralize visited one =
      runMessage getPriority type pluralize other two ↔ ∀ block ∈ blocks getPriority conditions,
        shown getPriority type visited one block = shown getPriority type other two block := by
  rw [runMessage, runMessage, aggregateMessage_eq, aggregateMessage_eq,
    blocks_eq_of_perm (sortConditions_perm first), blocks_eq_of_perm (sortConditions_perm second)]
  apply EqualOrFork.joinTexts_eq_iff
  apply EqualOrFork.flatMap
  intro block _
  exact kindLines_equalOrFork pluralize block.kind (namesDistinct_blockMembers distinct block) visited other
    (arranges_arranged first block) (arranges_arranged second block) _ _

theorem shown_eq_ranking (visited : MapOrder) (same : one.Perm conditions) (block : Block) :
    shown getPriority type visited one block =
      (ranking (messageKey (arranged getPriority type one block))
        (messages (blockMembers getPriority conditions block))).take block.budget := by
  rw [shown, messageIndex_eq_ranking visited (namesDistinct_blockMembers distinct block) (arranges_arranged same block)]

theorem BlocksSettled.shown_eq (settled : BlocksSettled getPriority conditions)
    (visited other : MapOrder) (first : one.Perm conditions) (second : two.Perm conditions) :
    ∀ block ∈ blocks getPriority conditions,
      shown getPriority type visited one block = shown getPriority type other two block := by
  intro block inside
  rw [shown_eq_ranking distinct visited first, shown_eq_ranking distinct other second]
  exact (settled block inside).take_ranking_eq nodup_messages
    (admissibleKeys_apart (namesDistinct_blockMembers distinct block))
    (chooses_messageKey (arranges_arranged first block)) (chooses_messageKey (arranges_arranged second block))

theorem exists_run_of_reports (type : String) (block : Block) {chosen : String → List ConditionWithOwnerInfo}
    (arranges : ∀ message, Arranges (chosen message) (reports (blockMembers getPriority conditions block) message)) :
    ∃ listed, listed.Perm conditions ∧
      ∀ message, reports (arranged getPriority type listed block) message = chosen message := by
  let place : ConditionWithOwnerInfo → Nat := fun condition => (chosen condition.message).idxOf condition
  have byPlace := comparesBy_key place
  refine ⟨stableSort (fun first second => decide (place first < place second)) conditions, stableSort_perm _ _, ?_⟩
  intro message
  have ordered : (chosen message).Pairwise fun first second => place first < place second := by
    have distinctReports : (chosen message).Nodup := by
      rw [(arranges message).perm.nodup_iff, reports_blockMembers]
      exact (Nodup.of_map _ distinct).filter _
    have ofMessage : ∀ condition ∈ chosen message, condition.message = message := by
      intro _ inside
      have member := (arranges message).perm.mem_iff.mp inside
      rw [reports, mem_filter, decide_eq_true_eq] at member
      exact member.2
    refine (pairwise_idxOf_lt distinctReports).imp_of_mem ?_
    intro first second firstInside secondInside less
    simpa only [place, ofMessage first firstInside, ofMessage second secondInside] using less
  rw [arranged, reports_blockMembers, sortConditions, filter_stableSort (conditionLess_comparesBy type),
    filter_stableSort byPlace, ← reports_blockMembers,
    stableSort_eq_of_ordered byPlace (arranges message).perm.symm ordered]
  exact stableSort_eq_self (conditionLess_comparesBy type) (arranges message).sorted

theorem exists_run (type : String) (block : Block) {key : String → ℕᵒᵈ ×ₗ String}
    (chooses : Chooses (admissibleKeys (blockMembers getPriority conditions block))
      (messages (blockMembers getPriority conditions block)) key) :
    ∃ listed, listed.Perm conditions ∧
      ∀ message ∈ messages (blockMembers getPriority conditions block),
        messageKey (arranged getPriority type listed block) message = key message := by
  have exists_reports : ∀ message, ∃ reported : List ConditionWithOwnerInfo,
      Arranges reported (reports (blockMembers getPriority conditions block) message) ∧
        (message ∈ messages (blockMembers getPriority conditions block) → namesKey reported = key message) := by
    intro message
    by_cases inside : message ∈ messages (blockMembers getPriority conditions block)
    · rcases chooses message inside with ⟨reported, arranges, isKey⟩
      exact ⟨reported, arranges, fun _ => isKey⟩
    · have none : reports (blockMembers getPriority conditions block) message = [] :=
        not_not.mp (mem_messages.not.mp inside)
      exact ⟨[], ⟨by rw [none], Pairwise.nil⟩, fun some => absurd some inside⟩
  choose chosen arranges isKey using exists_reports
  rcases exists_run_of_reports distinct type block arranges with ⟨listed, same, found⟩
  refine ⟨listed, same, ?_⟩
  intro message inside
  rw [messageKey, found message]
  exact isKey message inside

theorem blocksSettled_of_shown_eq (visited : MapOrder)
    (same : ∀ one two, one.Perm conditions → two.Perm conditions → ∀ block ∈ blocks getPriority conditions,
      shown getPriority type visited one block = shown getPriority type visited two block) :
    BlocksSettled getPriority conditions := by
  intro block inside
  have keysApart : KeysApart (admissibleKeys (blockMembers getPriority conditions block))
      (messages (blockMembers getPriority conditions block)) :=
    admissibleKeys_apart (namesDistinct_blockMembers distinct block)
  apply settled_of_take_ranking_eq nodup_messages keysApart
  · intro message _
    exact admissibleKeys_least message
  · intro _ _ firstChooses secondChooses
    rcases exists_run distinct type block firstChooses with ⟨one, onePerm, oneKeys⟩
    rcases exists_run distinct type block secondChooses with ⟨two, twoPerm, twoKeys⟩
    have shownSame := same one two onePerm twoPerm block inside
    rwa [shown_eq_ranking distinct visited onePerm, shown_eq_ranking distinct visited twoPerm,
      ranking_congr nodup_messages (firstChooses.apart keysApart) oneKeys,
      ranking_congr nodup_messages (secondChooses.apart keysApart) twoKeys] at shownSame

end

end

/-! ## The condition

The status and the reason only depend on which groups are empty, so that the
message alone can change with the order of the objects.
-/

section

variable {strategy : MergeStrategy} {getPriority : Condition → MergePriority} {type : String}
variable {conditions : List ConditionWithOwnerInfo}

theorem exists_mergedStatus (nonempty : conditions ≠ []) :
    ∃ status, mergedStatus strategy (ofPriority getPriority .issue conditions)
      (ofPriority getPriority .unknown conditions) (ofPriority getPriority .info conditions) = some status := by
  rcases exists_mem_of_ne_nil conditions nonempty with ⟨condition, inside⟩
  have group : ∀ priority, getPriority condition.toCondition = priority →
      ofPriority getPriority priority conditions ≠ [] := by
    intro priority hasPriority
    exact ne_nil_of_mem (mem_filter.mpr ⟨inside, decide_eq_true hasPriority⟩)
  unfold mergedStatus
  split_ifs with issues positive unknowns infos positive
  · exact ⟨_, rfl⟩
  · exact ⟨_, rfl⟩
  · exact ⟨_, rfl⟩
  · exact ⟨_, rfl⟩
  · exact ⟨_, rfl⟩
  · cases priority : getPriority condition.toCondition with
    | issue => exact absurd (group .issue priority) issues
    | unknown => exact absurd (group .unknown priority) unknowns
    | info => exact absurd (group .info priority) infos

theorem exists_merge (pluralize : String → String) (hasPriority : strategy.getPriorityFunc = some getPriority)
    (type : String) (nonempty : conditions ≠ []) :
    ∃ status reason, ∀ visited listed, listed.Perm conditions →
      merge pluralize visited strategy listed [type] =
        .ok ⟨status, reason, runMessage getPriority type pluralize visited listed⟩ := by
  rcases @exists_mergedStatus strategy getPriority conditions nonempty with ⟨status, hasStatus⟩
  refine ⟨status, strategy.computeReason (ofPriority getPriority .issue conditions)
    (ofPriority getPriority .unknown conditions), ?_⟩
  intro _ listed same
  have groups : ∀ priority, ofPriority getPriority priority (sortConditions listed [type]) = [] ↔
      ofPriority getPriority priority conditions = [] :=
    ofPriority_eq_nil_iff (sortConditions_perm same)
  have listedNonempty : listed ≠ [] := by
    rintro rfl
    exact nonempty same.symm.eq_nil
  have sameStatus : mergedStatus strategy (ofPriority getPriority .issue (sortConditions listed [type]))
      (ofPriority getPriority .unknown (sortConditions listed [type]))
      (ofPriority getPriority .info (sortConditions listed [type])) = some status := by
    rw [← hasStatus]
    simp only [mergedStatus, ne_eq, groups]
  have sameReason : strategy.computeReason (ofPriority getPriority .issue (sortConditions listed [type]))
      (ofPriority getPriority .unknown (sortConditions listed [type])) =
        strategy.computeReason (ofPriority getPriority .issue conditions)
          (ofPriority getPriority .unknown conditions) := by
    simp only [MergeStrategy.computeReason, ne_eq, groups]
  simp only [merge, if_neg listedNonempty, hasPriority, sameStatus, sameReason]
  rfl

theorem conditionsInScope_distinct (type : String) (objects : Keyed SourceObject getConditionOwnerInfo) :
    ((objects.list.map (conditionInScope type)).map fun condition => condition.ownerResource).Nodup := by
  have owners : (fun condition : ConditionWithOwnerInfo => condition.ownerResource) ∘ conditionInScope type =
      getConditionOwnerInfo := by
    funext object
    rw [Function.comp_apply]
    unfold conditionInScope
    split
    case h_1 condition found =>
      rcases mem_map.mp (mem_of_find?_eq_some found) with ⟨_, -, rfl⟩
      rfl
    case h_2 => rfl
  rw [map_map, owners]
  exact objects.distinct

theorem newAggregateCondition_runs (pluralize : String → String) (options : AggregateOptions)
    (type : String) (objects : List SourceObject) :
    (∃ getPriority status reason,
      options.polarityIsInvalid type = false ∧ (options.strategy type).getPriorityFunc =
        some getPriority ∧ ∀ visited permuted, permuted.Perm objects →
          newAggregateCondition pluralize visited options permuted type =
            .ok
              { type := options.targetConditionType.getD type
                status := status
                reason := reason
                message :=
                  runMessage getPriority type pluralize visited (permuted.map (conditionInScope type)) }) ∨
    ((options.polarityIsInvalid type = false → (options.strategy type).getPriorityFunc ≠ none → objects = []) ∧
      ∃ error, ∀ visited permuted, permuted.Perm objects →
        newAggregateCondition pluralize visited options permuted type = .error error) := by
  by_cases empty : objects = []
  · refine .inr ⟨fun _ _ => empty, "sourceObjs can't be empty", ?_⟩
    intro visited permuted same
    subst empty
    rw [newAggregateCondition, if_pos same.eq_nil]
  have listed : ∀ {permuted : List SourceObject}, permuted.Perm objects → permuted ≠ [] := by
    rintro permuted same rfl
    exact empty same.symm.eq_nil
  cases polarity : options.polarityIsInvalid type with
  | true =>
    refine .inr ⟨fun valid => absurd valid Bool.false_ne_true.symm,
      "negativePolarityConditionTypes can only be set to [" ++ quote type ++ "]", ?_⟩
    intro visited permuted same
    rw [newAggregateCondition, if_neg (listed same), if_pos polarity]
  | false =>
    cases hasPriority : (options.strategy type).getPriorityFunc with
    | none =>
      refine .inr ⟨fun _ some => absurd rfl some, "can't merge without a getPriority func", ?_⟩
      intro visited permuted same
      have inScope : permuted.map (conditionInScope type) ≠ [] := map_eq_nil_iff.not.mpr (listed same)
      simp only [newAggregateCondition, if_neg (listed same), polarity, Bool.false_eq_true,
        if_false, merge, if_neg inScope, hasPriority]
    | some getPriority =>
      have inScope : objects.map (conditionInScope type) ≠ [] := map_eq_nil_iff.not.mpr empty
      rcases exists_merge pluralize hasPriority type inScope with ⟨status, reason, merged⟩
      refine .inl ⟨getPriority, status, reason, rfl, rfl, ?_⟩
      intro visited _ same
      simp only [newAggregateCondition, if_neg (listed same), polarity, Bool.false_eq_true,
        if_false, merged visited _ (same.map _)]

end

/-- The aggregate is the same for all orders of the objects exactly if the messages that can be shown are settled. -/
theorem newAggregateCondition_orderIndependent_iff (pluralize : String → String) (options : AggregateOptions)
    (type : String) (objects : Keyed SourceObject getConditionOwnerInfo) :
    (∀ visited other permuted, permuted.Perm objects.list →
      newAggregateCondition pluralize other options permuted type =
        newAggregateCondition pluralize visited options objects.list type) ↔
      (options.polarityIsInvalid type = false →
        ∀ getPriority ∈ (options.strategy type).getPriorityFunc,
          BlocksSettled getPriority (objects.list.map (conditionInScope type))) := by
  have distinct := conditionsInScope_distinct type objects
  rcases newAggregateCondition_runs pluralize options type objects.list with
    ⟨getPriority, status, reason, valid, hasPriority, runs⟩ | ⟨nothing, error, runs⟩
  · have sameMessage : ∀ visited other permuted, permuted.Perm objects.list →
        (newAggregateCondition pluralize other options permuted type =
            newAggregateCondition pluralize visited options objects.list type ↔
          runMessage getPriority type pluralize other (permuted.map (conditionInScope type)) =
            runMessage getPriority type pluralize visited (objects.list.map (conditionInScope type))) := by
      intro visited other permuted same
      rw [runs other permuted same, runs visited objects.list (List.Perm.refl _), Except.ok.injEq]
      simp only [Condition.mk.injEq, true_and, and_true]
    rw [hasPriority]
    constructor
    · intro independent _ _ isChosen
      rcases Option.mem_some_iff.mp isChosen with rfl
      let visited : MapOrder := ⟨id, List.Perm.refl⟩
      apply @blocksSettled_of_shown_eq getPriority type _ distinct visited
      intro _ _ onePerm twoPerm
      rw [← runMessage_eq_iff distinct pluralize visited visited onePerm twoPerm]
      rcases exists_perm_map onePerm.symm with ⟨oneObjects, oneSame, rfl⟩
      rcases exists_perm_map twoPerm.symm with ⟨twoObjects, twoSame, rfl⟩
      exact ((sameMessage visited visited oneObjects oneSame).mp (independent visited visited oneObjects oneSame)).trans
        ((sameMessage visited visited twoObjects twoSame).mp (independent visited visited twoObjects twoSame)).symm
    · intro settled visited other permuted same
      rw [sameMessage visited other permuted same,
        runMessage_eq_iff distinct pluralize other visited (same.map _) (List.Perm.refl _)]
      exact (settled valid getPriority rfl).shown_eq distinct other visited (same.map _) (List.Perm.refl _)
  · constructor
    · intro _ valid _ hasPriority _ inside
      rw [nothing valid (by rw [hasPriority]; exact Option.some_ne_none _)] at inside
      exact absurd inside not_mem_nil
    · intro _ visited other permuted same
      rw [runs other permuted same, runs visited objects.list (List.Perm.refl _)]

namespace Example

def machine (name : ObjectName) (message : String) : SourceObject where
  typeName := "Machine"
  name := name
  conditions := [{ type := "Ready", status := .isFalse, message := message }]

def a : SourceObject := machine ⟨"a", by decide⟩ "disk full"

def b : SourceObject := machine ⟨"b", by decide⟩ "no network"

def c : SourceObject := machine ⟨"c", by decide⟩ "no network"

def d : SourceObject := machine ⟨"d", by decide⟩ "disk full"

def machines : Keyed SourceObject getConditionOwnerInfo where
  list := [a, b, c, d]
  distinct := by decide

def plural (kind : String) : String := kind ++ "s"

def asListed : MapOrder := ⟨id, List.Perm.refl⟩

end Example

/-- Two machines report one message and two another.  Which comes first depends on the order of the machines. -/
theorem newAggregateCondition_flips :
    [Example.d, Example.b, Example.c, Example.a].Perm Example.machines.list ∧
      newAggregateCondition Example.plural Example.asListed {} Example.machines.list "Ready" =
        .ok
          { type := "Ready"
            status := .isFalse
            reason := "IssuesReported"
            message := "* Machines a, d: disk full\n* Machines b, c: no network" } ∧
      newAggregateCondition Example.plural Example.asListed {} [Example.d, Example.b, Example.c, Example.a] "Ready" =
        .ok
          { type := "Ready"
            status := .isFalse
            reason := "IssuesReported"
            message := "* Machines b, c: no network\n* Machines a, d: disk full" } := by
  decide +kernel

end ClusterApi.Conditions.Aggregate
