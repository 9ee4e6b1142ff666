import ClusterApi.Foundation.Semver

namespace ClusterApi.Util

open Foundation

/-!
# Comparing versions with build tags

`Compare` extends the precedence of the semver library by the build part,
which precedence ignores.  Two different build identifiers that are not numbers
cannot be ordered: the comparison then answers `2`.

`KubeSemver` is the expression that every version string of a Cluster topology
has to match.  Its third number is followed by a class that contains the
digits, so only the first digit of that number is constrained.
-/

/-! ## Build identifiers -/

/-- The digits of `numbers`. -/
def containsOnlyNumbers (text : String) : Bool :=
  text.toList.all fun character => "01234567890".toList.contains character

/-- `strconv.ParseUint(s, 10, 64)` with the error dropped: zero for the empty
text, the largest number on overflow. -/
def parseUint (text : String) : Nat :=
  min (decimal text.toList) (2 ^ 64 - 1)

structure BuildIdentifier where
  identifierInt : Nat
  identifierStr : String
  isNum : Bool

def newBuildIdentifier (text : String) : BuildIdentifier :=
  if containsOnlyNumbers text then
    { identifierInt := parseUint text, identifierStr := "", isNum := true }
  else
    { identifierInt := 0, identifierStr := text, isNum := false }

/-- `-1`, `0` and `1` as usual; `2` for two texts that differ. -/
def BuildIdentifier.compare (first second : BuildIdentifier) : Int :=
  if first.isNum && !second.isNum then -1
  else if !first.isNum && second.isNum then 1
  else if first.isNum && second.isNum then
    if first.identifierInt < second.identifierInt then -1
    else if first.identifierInt = second.identifierInt then 0
    else 1
  else if first.identifierStr = second.identifierStr then 0
  else 2

def newBuildIdentifiers (identifiers : List String) : List BuildIdentifier :=
  identifiers.map newBuildIdentifier

/-- The first difference decides; without one the longer list is greater. -/
def compareBuilds : List BuildIdentifier → List BuildIdentifier → Int
  | [], [] => 0
  | [], _ :: _ => -1
  | _ :: _, [] => 1
  | first :: firstRest, second :: secondRest =>
    if first.compare second ≠ 0 then first.compare second
    else compareBuilds firstRest secondRest

/-! ## Comparing versions -/

/-- The options of `Compare`. -/
structure Comparer where
  buildTags : Bool := false
  withoutPreReleases : Bool := false

def withBuildTags : Comparer := { buildTags := true }

def compare (first second : Version) (options : Comparer) : Int :=
  let first := if options.withoutPreReleases then { first with pre := [] } else first
  let second := if options.withoutPreReleases then { second with pre := [] } else second
  if options.buildTags then
    if first.compare second ≠ 0 then first.compare second
    else compareBuilds (newBuildIdentifiers first.build) (newBuildIdentifiers second.build)
  else first.compare second

theorem le_of_compare_withBuildTags {first second : Version}
    (notBelow : compare first second withBuildTags ≠ -1) : second ≤ first := by
  -- Build tags only separate versions of the same precedence.
  by_contra notLe
  have below : first.compare second = -1 := Version.compare_eq_neg_one.mpr (Version.lt_of_not_le notLe)
  exact notBelow (by simp [compare, withBuildTags, below])

/-! ## KubeSemver -/

/-- The class `[-0-9a-zA-Z_\.+]`. -/
def kubeSemverCharacter (character : Char) : Bool :=
  character.isAlphanum || "-_.+".toList.contains character

/-- Consume `(0|[1-9][0-9]*)`. -/
def kubeSemverNumber : List Char → Option (List Char)
  | '0' :: rest => some rest
  | digit :: rest => if digit.isDigit then some (rest.dropWhile Char.isDigit) else none
  | [] => none

/-- `KubeSemver.MatchString`. -/
def kubeSemver (text : String) : Bool :=
  match text.toList with
  | 'v' :: major =>
    match kubeSemverNumber major with
    | some ('.' :: minor) =>
      match kubeSemverNumber minor with
      | some ('.' :: patch) =>
        match kubeSemverNumber patch with
        | some rest => rest.all kubeSemverCharacter
        | none => false
      | _ => false
    | _ => false
  | _ => false

example : kubeSemver "v1.28.0-alpha.1+k3s" = true := by decide

example : kubeSemver "v1.028.0" = false := by decide

/-! ## Major, minor and patch -/

/-- What a number group of the expression captures, and the text behind it. -/
def kubeSemverGroup (text : List Char) : Option (List Char × List Char) :=
  (kubeSemverNumber text).map fun rest => (text.take (text.length - rest.length), rest)

/-- The three groups of `KubeSemverTolerant`, which does not require the `v`. -/
def kubeSemverTolerantGroups (text : String) : Option (List Char × List Char × List Char) :=
  let characters := if text.toList.head? = some 'v' then text.toList.tail else text.toList
  match kubeSemverGroup characters with
  | some (major, '.' :: behindMajor) =>
    match kubeSemverGroup behindMajor with
    | some (minor, '.' :: behindMinor) =>
      match kubeSemverGroup behindMinor with
      | some (patch, rest) => if rest.all kubeSemverCharacter then some (major, minor, patch) else none
      | none => none
    | _ => none
  | _ => none

/-- `strconv.ParseUint` on a captured group, which fails only on overflow. -/
def parseGroup (part text : String) (digits : List Char) : Except String UInt64 :=
  match Version.number64 digits with
  | some value => .ok value
  | none => .error ("failed to parse " ++ part ++ " version from \"" ++ text ++ "\": strconv.ParseUint: parsing \"" ++
      String.ofList digits ++ "\": value out of range")

/-- Everything behind the third number is dropped. -/
def parseMajorMinorPatchTolerant (text : String) : Except String Version :=
  match kubeSemverTolerantGroups text with
  | none => .error ("failed to parse major.minor.patch from \"" ++ text ++ "\"")
  | some (major, minor, patch) => do
    let major ← parseGroup "major" text major
    let minor ← parseGroup "minor" text minor
    let patch ← parseGroup "patch" text patch
    return Version.release major minor patch

theorem parseMajorMinorPatchTolerant_pre {text : String} {parsed : Version}
    (isParsed : parseMajorMinorPatchTolerant text = .ok parsed) : parsed.pre = [] := by
  simp only [parseMajorMinorPatchTolerant, bind, Except.bind, pure, Except.pure] at isParsed
  split at isParsed
  · cases isParsed
  · split at isParsed
    · cases isParsed
    · split at isParsed
      · cases isParsed
      · split at isParsed
        · cases isParsed
        · cases isParsed
          rfl

example : parseMajorMinorPatchTolerant "1.31.0-alpha.1+k3s" = .ok (Version.release 1 31 0) := by decide +kernel

end ClusterApi.Util
