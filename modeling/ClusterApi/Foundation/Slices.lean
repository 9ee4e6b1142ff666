import Mathlib
import ClusterApi.Foundation.Texts

namespace ClusterApi.Foundation

open List

/-!
# Calls that panic, slices and integers

A call returns a value or an error, or it panics.  The two operations on a
text that matter here can go wrong in these two ways: a slice whose bounds are
out of order panics, and a text that is not an integer of 64 bits is an error.
-/

/-! ## Calls -/

inductive Outcome (Error Value : Type)
  | ok (value : Value)
  | error (reason : Error)
  | panic
  deriving DecidableEq

namespace Outcome

variable {Error Value Next Other : Type} {outcome : Outcome Error Value}
  {next : Value → Outcome Error Next} {wrapped : Error → Other}

def bind (outcome : Outcome Error Value) (next : Value → Outcome Error Next) : Outcome Error Next :=
  match outcome with
  | .ok value => next value
  | .error reason => .error reason
  | .panic => .panic

def mapError {Other : Type} (wrapped : Error → Other) : Outcome Error Value → Outcome Other Value
  | .ok value => .ok value
  | .error reason => .error (wrapped reason)
  | .panic => .panic

theorem bind_eq_ok {result : Next} :
    outcome.bind next = .ok result ↔ ∃ value, outcome = .ok value ∧ next value = .ok result := by
  cases outcome <;> simp [bind]

theorem bind_eq_panic :
    outcome.bind next = .panic ↔ outcome = .panic ∨ ∃ value, outcome = .ok value ∧ next value = .panic := by
  cases outcome <;> simp [bind]

theorem mapError_eq_ok {value : Value} : outcome.mapError wrapped = .ok value ↔ outcome = .ok value := by
  cases outcome <;> simp [mapError]

theorem mapError_eq_panic : outcome.mapError wrapped = .panic ↔ outcome = .panic := by
  cases outcome <;> simp [mapError]

/-- A loop that ends with its first error or panic. -/
def loop {Item : Type} (step : Value → Item → Outcome Error Value) (state : Value) : List Item → Outcome Error Value
  | [] => .ok state
  | item :: rest => (step state item).bind fun next => loop step next rest

section

variable {Item : Type} {step : Value → Item → Outcome Error Value}
  {reach : Value → Item → Option Value} {items : List Item} {state : Value}

variable (agrees : ∀ state item next, step state item = .ok next ↔ reach state item = some next)
include agrees

theorem loop_eq_ok {last : Value} : loop step state items = .ok last ↔ items.foldlM reach state = some last := by
  induction items generalizing state with
  | nil => simp [loop]
  | cons _ _ ih =>
    rw [loop, bind_eq_ok, foldlM_cons, Option.bind_eq_bind, Option.bind_eq_some_iff]
    simp only [agrees, ih]

theorem loop_eq_panic :
    loop step state items = .panic ↔
      ∃ before item after, items = before ++ item :: after ∧
        ∃ reached, before.foldlM reach state = some reached ∧ step reached item = .panic := by
  induction items generalizing state with
  | nil => simp [loop]
  | cons item rest ih =>
    rw [loop, bind_eq_panic]
    constructor
    · rintro (panics | ⟨next, stepped, panics⟩)
      · exact ⟨[], item, rest, rfl, state, rfl, panics⟩
      · rcases ih.mp panics with ⟨before, other, after, split, reached, path, panics⟩
        refine ⟨item :: before, other, after, by rw [split, cons_append], reached, ?_, panics⟩
        rw [foldlM_cons, (agrees ..).mp stepped]
        exact path
    · rintro ⟨before, other, after, split, reached, path, panics⟩
      cases before with
      | nil =>
        cases split
        cases path
        exact .inl panics
      | cons _ before =>
        cases split
        rw [foldlM_cons, Option.bind_eq_bind, Option.bind_eq_some_iff] at path
        rcases path with ⟨next, stepped, path⟩
        exact .inr ⟨next, (agrees ..).mpr stepped,
          ih.mpr ⟨before, other, after, rfl, reached, path, panics⟩⟩

end

end Outcome

/-! ## Slices -/

/-- A slice without its value panics: its bounds are out of order or beyond the text. -/
def slice {α : Type} (text : List α) (low high : Nat) : Option (List α) :=
  if low ≤ high ∧ high ≤ text.length then some ((text.take high).drop low) else none

theorem slice_append {α : Type} (front middle back : List α) :
    slice (front ++ (middle ++ back)) front.length (front.length + middle.length) = some middle := by
  rw [slice, if_pos (by simp only [length_append]; omega), ← append_assoc, ← length_append,
    take_left, drop_left]

theorem slice_eq_none_of_lt {α : Type} (text : List α) {low high : Nat} (crossed : high < low) :
    slice text low high = none := by
  rw [slice, if_neg]
  omega

/-! ## Integers -/

/-- A sign, if there is one, and what follows. -/
def unsigned : List Char → Bool × List Char
  | '+' :: digits => (false, digits)
  | '-' :: digits => (true, digits)
  | digits => (false, digits)

/-- An integer of any size. -/
def integer? (text : List Char) : Option Int :=
  let (negative, digits) := unsigned text
  if digits ≠ [] ∧ digits.all Char.isDigit then some (if negative then -decimal digits else decimal digits) else none

inductive NumError
  | invalidSyntax
  | outOfRange
  deriving DecidableEq

/-- `strconv.Atoi`, which stops at the first digit that is too much, even if what follows is no digit. -/
def atoi (text : List Char) : Except NumError Int :=
  let (negative, digits) := unsigned text
  let leading := digits.takeWhile Char.isDigit
  if digits = [] then .error .invalidSyntax
  else if 2 ^ 64 ≤ decimal leading then .error .outOfRange
  else if leading ≠ digits then .error .invalidSyntax
  else
    let value : Int := if negative then -decimal digits else decimal digits
    if -2 ^ 63 ≤ value ∧ value < 2 ^ 63 then .ok value else .error .outOfRange

theorem atoi_eq_ok {text : List Char} {value : Int} :
    atoi text = .ok value ↔ integer? text = some value ∧ -2 ^ 63 ≤ value ∧ value < 2 ^ 63 := by
  unfold atoi integer?
  rcases unsigned text with ⟨_, digits⟩
  dsimp only
  have leading : digits.takeWhile Char.isDigit = digits ↔ digits.all Char.isDigit = true := by
    rw [takeWhile_eq_self_iff, all_eq_true]
  by_cases numeral : digits ≠ [] ∧ digits.all Char.isDigit = true
  · rw [if_neg numeral.1, leading.mpr numeral.2, if_pos numeral, if_neg (not_not_intro rfl), Option.some.injEq]
    by_cases large : 2 ^ 64 ≤ decimal digits
    · rw [if_pos large]
      refine iff_of_false nofun ?_
      rintro ⟨rfl, above, below⟩
      split_ifs at above below <;> omega
    · split_ifs with range
      all_goals simp only [Except.ok.injEq, false_iff, not_and]
      all_goals grind
  · rw [if_neg numeral]
    refine iff_of_false ?_ nofun
    intro read
    split_ifs at read with empty large partly
    all_goals simp_all

theorem integer?_repr (value : Nat) : integer? (toString (value : Int)).toList = some (value : Int) := by
  have text : (toString (value : Int)).toList = Nat.toDigits 10 value := Nat.toList_repr
  have digits : ∀ character ∈ Nat.toDigits 10 value, character.isDigit = true := by
    intro _ inside
    exact Nat.isDigit_of_mem_toDigits (by decide) (by decide) inside
  have noSign : unsigned (Nat.toDigits 10 value) = (false, Nat.toDigits 10 value) := by
    unfold unsigned
    split
    case h_1 rest isPlus =>
      have plus := digits '+' (by rw [isPlus]; exact mem_cons_self)
      exact absurd plus (by decide)
    case h_2 rest isMinus =>
      have minus := digits '-' (by rw [isMinus]; exact mem_cons_self)
      exact absurd minus (by decide)
    case h_3 => rfl
  rw [integer?, text, noSign]
  dsimp only
  rw [if_pos ⟨Nat.toDigits_ne_nil, all_eq_true.mpr digits⟩, if_neg Bool.false_ne_true]
  have value_eq : decimal (Nat.toDigits 10 value) = value := Nat.ofDigitChars_ten_toDigits
  rw [value_eq]

end ClusterApi.Foundation
