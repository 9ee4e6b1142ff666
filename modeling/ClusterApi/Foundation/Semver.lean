import ClusterApi.Foundation.Texts
import Mathlib.Data.Prod.Lex
import Mathlib.Data.String.Basic
import Mathlib.Data.Sum.Order

namespace ClusterApi.Foundation

/-!
# Semantic versions and their precedence

A version has three 64-bit numbers, a list of pre-release identifiers and a
list of build identifiers.  Precedence compares the numbers, then the
pre-release part, and never looks at the build part.  A version without a
pre-release part is above every pre-release of the same numbers.

The order is obtained by reading a version into a lexicographic product.
It is a preorder only: two versions that differ in their build part alone
have the same precedence without being equal.
-/

/-- One dot-separated identifier of a pre-release part. -/
inductive Identifier
  | numeric (value : Nat)
  | alphanumeric (text : String)
  deriving DecidableEq

/-- A parsed semantic version. -/
structure Version where
  major : UInt64
  minor : UInt64
  patch : UInt64
  pre : List Identifier := []
  build : List String := []
  deriving DecidableEq

/-- Numeric identifiers below alphanumeric ones. -/
def Identifier.key : Identifier → Lex (ℕ ⊕ String)
  | numeric value => toLex (.inl value)
  | alphanumeric text => toLex (.inr text)

/-- What reads a version from a text, such as `semver.ParseTolerant`. -/
abbrev VersionReader := String → Except String Version

namespace Version

/-- The release itself stands above all its pre-releases. -/
def preKey (version : Version) : WithTop (List (Lex (ℕ ⊕ String))) :=
  match version.pre with
  | [] => ⊤
  | first :: rest => ((first :: rest).map Identifier.key : List (Lex (ℕ ⊕ String)))

/-- The part of a version that precedence looks at. -/
def key (version : Version) : ℕ ×ₗ ℕ ×ₗ ℕ ×ₗ WithTop (List (Lex (ℕ ⊕ String))) :=
  toLex (version.major.toNat, toLex (version.minor.toNat, toLex (version.patch.toNat, version.preKey)))

instance : Preorder Version := Preorder.lift key

instance leDecidable (first second : Version) : Decidable (first ≤ second) :=
  inferInstanceAs (Decidable (first.key ≤ second.key))

/-- Three-way comparison by precedence: negative, zero or positive. -/
def compare (first second : Version) : Int :=
  if first.key < second.key then -1 else if first.key = second.key then 0 else 1

/-- The release with the given numbers. -/
def release (major minor patch : UInt64) : Version := { major, minor, patch }

variable {first second : Version}

theorem le_iff_key : first ≤ second ↔ first.key ≤ second.key := Iff.rfl

theorem lt_iff_key : first < second ↔ first.key < second.key := Iff.rfl

theorem lt_of_not_le (notLe : ¬ first ≤ second) : second < first :=
  lt_iff_key.mpr (lt_of_not_ge (mt le_iff_key.mpr notLe))

theorem compare_eq_neg_one : compare first second = -1 ↔ first < second := by
  rw [compare, lt_iff_key]
  split_ifs <;> simp_all

theorem compare_eq_zero : compare first second = 0 ↔ first.key = second.key := by
  rw [compare]
  split_ifs with below same
  · simp [below.ne]
  · simp [same]
  · simp [same]

theorem le_iff :
    first ≤ second ↔
      first.major < second.major ∨ first.major = second.major ∧
        (first.minor < second.minor ∨ first.minor = second.minor ∧
          (first.patch < second.patch ∨ first.patch = second.patch ∧ first.preKey ≤ second.preKey)) := by
  simp only [le_iff_key, key, Prod.Lex.toLex_le_toLex, UInt64.lt_iff_toNat_lt, UInt64.toNat_inj]

theorem lt_iff :
    first < second ↔
      first.major < second.major ∨ first.major = second.major ∧
        (first.minor < second.minor ∨ first.minor = second.minor ∧
          (first.patch < second.patch ∨ first.patch = second.patch ∧ first.preKey < second.preKey)) := by
  simp only [lt_iff_key, key, Prod.Lex.toLex_lt_toLex, UInt64.lt_iff_toNat_lt, UInt64.toNat_inj]

theorem major_le_of_le (le : first ≤ second) : first.major ≤ second.major := by
  rcases le_iff.mp le with above | ⟨same, -⟩
  · exact UInt64.le_of_lt above
  · exact same ▸ UInt64.le_refl _

theorem minor_le_of_le (le : first ≤ second) (same : first.major = second.major) : first.minor ≤ second.minor := by
  rcases le_iff.mp le with above | ⟨-, above | ⟨equal, -⟩⟩
  · exact absurd same (UInt64.ne_of_lt above)
  · exact UInt64.le_of_lt above
  · exact equal ▸ UInt64.le_refl _

theorem preKey_lt_top : first.preKey < ⊤ ↔ first.pre ≠ [] := by
  rw [preKey]
  cases first.pre <;> simp

/-- What it means to stay below a release of patch zero: a smaller minor, or
a pre-release of exactly that release. -/
theorem not_release_le {major minor : UInt64} {version : Version} :
    ¬ release major minor 0 ≤ version ↔
      version.major < major ∨ version.major = major ∧
        (version.minor < minor ∨ version.minor = minor ∧ version.patch = 0 ∧ version.pre ≠ []) := by
  have below : ¬ release major minor 0 ≤ version ↔ version < release major minor 0 :=
    ⟨lt_of_not_le, fun lt le => lt.not_ge le⟩
  rw [below, lt_iff]
  have top : (release major minor 0).preKey = ⊤ := rfl
  have never : ¬ version.patch < (release major minor 0).patch := UInt64.not_lt_zero
  rw [top, preKey_lt_top]
  simp only [never, false_or]
  rfl

/-! ## Reading a version -/

/-- A decimal number without a leading zero. -/
def number (digits : List Char) : Option Nat :=
  if digits ≠ [] ∧ digits.all Char.isDigit ∧ (digits.head? = some '0' → digits.length = 1) then
    some (decimal digits)
  else none

def number64 (digits : List Char) : Option UInt64 :=
  (number digits).bind fun value => if value < 2 ^ 64 then some value.toUInt64 else none

def identifierCharacter (character : Char) : Bool :=
  character.isAlphanum || character = '-'

/-- A pre-release identifier; a numeric one carries no leading zero. -/
def identifier (text : List Char) : Option Identifier :=
  if text = [] ∨ ¬ text.all identifierCharacter then none
  else if text.all Char.isDigit then (number text).map Identifier.numeric
  else some (.alphanumeric (String.ofList text))

def buildIdentifier (text : List Char) : Option String :=
  if text = [] ∨ ¬ text.all identifierCharacter then none else some (String.ofList text)

/-- Split off the part behind the first separator, if there is one. -/
def cutAt (separator : Char) (text : List Char) : List Char × Option (List Char) :=
  match text.span (· ≠ separator) with
  | (front, []) => (front, none)
  | (front, _ :: back) => (front, some back)

/-- Read `major.minor.patch[-pre][+build]`, with an optional leading `v`. -/
def parse (text : String) : Option Version := do
  let characters := text.toList
  let characters := if characters.head? = some 'v' then characters.tail else characters
  let (front, build) := cutAt '+' characters
  let (core, pre) := cutAt '-' front
  let pre ← ((pre.map (List.splitOn '.')).getD []).mapM identifier
  let build ← ((build.map (List.splitOn '.')).getD []).mapM buildIdentifier
  match core.splitOn '.' with
  | [major, minor, patch] =>
    return { major := ← number64 major, minor := ← number64 minor, patch := ← number64 patch, pre, build }
  | _ => none

/-- `parse` with an error instead of `none`. -/
def readTolerant : VersionReader := fun text =>
  match parse text with
  | none => .error "invalid version"
  | some version => .ok version

/-- The canonical text of a version. -/
def toText (version : Version) : String :=
  let numbers := toString version.major ++ "." ++ toString version.minor ++ "." ++ toString version.patch
  let pre := version.pre.map fun
    | .numeric value => toString value
    | .alphanumeric text => text
  numbers ++ (if pre = [] then "" else "-" ++ ".".intercalate pre) ++
    (if version.build = [] then "" else "+" ++ ".".intercalate version.build)

example : parse "v1.28.0-alpha.1+k3s" =
    some { major := 1, minor := 28, patch := 0, pre := [.alphanumeric "alpha", .numeric 1], build := ["k3s"] } := by
  decide

end Version

end ClusterApi.Foundation
