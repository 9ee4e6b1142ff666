import ClusterApi.Foundation.Slices
import ClusterApi.Util.Errors

namespace ClusterApi.Topology

open Foundation List

/-!
# Looking up the value of a variable

A patch of a ClusterClass refers to a variable by a path such as
`workers.nodes[2].name`.  The segments of the path are read by hand: the index
is what stands between the first `[` and the first `]`, whatever their order
and whatever follows.

The values are documents of a JSON library.  How it parses, prints and looks
up a member is a parameter.  A slice has less than `2 ^ 63` elements.
-/

structure Slice (Value : Type) where
  elements : List Value
  bounded : elements.length < 2 ^ 63

structure JsonLibrary (Raw Value : Type) where
  parseBytes : Raw → Except String Value
  get : Value → String → Option Value
  array : Value → Except String (Slice Value)
  marshalTo : Value → Raw
  /-- The bytes as a text. -/
  text : Raw → String
  /-- The address of an index, which `%d` prints instead of the index. -/
  address : Int → String

inductive LookupError
  | notFound (message : String)
  | invalid (message : String)

/-! ## Segments -/

structure PathSegment where
  path : String
  index : Option Int := none

def numErrorText (text : List Char) (error : NumError) : String :=
  wrap ("strconv.Atoi: parsing " ++ quote (String.ofList text))
    (match error with
      | .invalidSyntax => "invalid syntax"
      | .outOfRange => "value out of range")

def parsePathSegment (segment : List Char) : Outcome String PathSegment :=
  let left := segment.contains '['
  let right := segment.contains ']'
  let quoted := quote (String.ofList segment)
  if left && !right || !left && right then .error ("failed to parse path segment " ++ quoted)
  else if !left && !right then .ok { path := String.ofList segment }
  else
    match slice segment (segment.idxOf '[' + 1) (segment.idxOf ']') with
    | none => .panic
    | some arrayIndexStr =>
      match atoi arrayIndexStr with
      | .error error =>
        .error (wrap ("failed to parse array index in path segment " ++ quoted) (numErrorText arrayIndexStr error))
      | .ok index =>
        if index < 0 then
          .error ("invalid array index " ++ toString index ++ " in path segment " ++ quoted)
        else
          match slice segment 0 (segment.idxOf '[') with
          | none => .panic
          | some path => .ok { path := String.ofList path, index := some index }

section

variable {Raw Value : Type} (library : JsonLibrary Raw Value)

/-! ## The lookup -/

/-- The sum `index + 1` wraps around. -/
def getVariableArrayElement (array : Value) (segment : PathSegment) (index : Int)
    (fullVariablePath : String) : Outcome LookupError Value :=
  let context := "variable " ++ quote fullVariablePath ++ " is invalid: "
  match library.array array with
  | .error error => .error (.invalid (wrap (context ++ "failed to get array " ++ quote segment.path) error))
  | .ok slice =>
    if (slice.elements.length : Int) < (index + 1).bmod (2 ^ 64) then
      .error (.invalid (context ++ "array does not have index " ++ library.address index))
    else if index < 0 then .panic
    else
      match slice.elements[index.toNat]? with
      | none => .panic
      | some element => .ok element

/-- The element a segment with an index asks for. -/
def resolveIndex (value : Value) (segment : PathSegment) (variablePath : String) : Outcome LookupError Value :=
  match segment.index with
  | none => .ok value
  | some index => getVariableArrayElement library value segment index variablePath

/-- One segment of the relative path. -/
def lookupSegment (variablePath : String) (current : Value) (text : List Char) : Outcome LookupError Value :=
  ((parsePathSegment text).mapError fun error =>
      LookupError.invalid (wrap ("variable " ++ quote variablePath ++ " has invalid syntax") error)).bind fun segment =>
    match library.get current segment.path with
    | none =>
      .error (.notFound ("variable " ++ quote variablePath ++ " does not exist: failed to lookup segment " ++
        quote segment.path))
    | some member => resolveIndex library member segment variablePath

/-- The value of a variable without an index and a relative path is not parsed. -/
def lookupVariable (values : String → Option Raw) (variablePath : String) (variableName : List Char)
    (relativePath : List (List Char)) (segment : PathSegment) : Outcome LookupError Raw :=
  match values segment.path with
  | none => .error (.notFound ("variable " ++ quote (String.ofList variableName) ++ " does not exist"))
  | some value =>
    if relativePath = [] ∧ segment.index = none then .ok value
    else
      match library.parseBytes value with
      | .error error =>
        .error (.invalid (wrap ("cannot parse variable " ++ quote (String.ofList variableName) ++ ": " ++
          library.text value) error))
      | .ok current =>
        -- Without a relative path the loop has no iteration.
        (resolveIndex library current segment variablePath).bind fun element =>
          (Outcome.loop (lookupSegment library variablePath) element relativePath).bind fun last =>
            .ok (library.marshalTo last)

def getVariableValue (values : String → Option Raw) (variablePath : String) : Outcome LookupError Raw :=
  match variablePath.toList.splitOn '.' with
  | [] => .panic
  | variableName :: relativePath =>
    ((parsePathSegment variableName).mapError fun error =>
        LookupError.invalid (wrap ("variable " ++ quote variablePath ++ " is invalid") error)).bind
      (lookupVariable library values variablePath variableName relativePath)

end

/-!
## What a path designates

A segment is a name, or a name and an index in brackets.  What the lookup takes
for a segment is more: the index may have a sign, and anything may follow it.
-/

def isDelimiter (character : Char) : Bool := character = '[' || character = ']'

/-- The index of a segment as it is written, what it says and what follows it. -/
structure Bracket where
  written : List Char
  position : Int
  trailing : List Char

structure Segment where
  name : List Char
  bracket : Option Bracket := none

namespace Segment

def position (segment : Segment) : Option Int := segment.bracket.map Bracket.position

/-- The index is a plain number, and nothing follows it. -/
def isExact (segment : Segment) : Bool :=
  segment.bracket.all fun bracket => bracket.written.all Char.isDigit && bracket.trailing.isEmpty

def scanBracket (text : List Char) : Option Bracket :=
  if ']' ∈ text then
    (integer? (text.takeWhile (· ≠ ']'))).map fun position =>
      { written := text.takeWhile (· ≠ ']'), position := position, trailing := (text.dropWhile (· ≠ ']')).tail }
  else none

/-- A name, and an index with anything behind it. -/
def scan (text : List Char) : Option Segment :=
  let name := text.takeWhile fun character => !isDelimiter character
  match text.dropWhile fun character => !isDelimiter character with
  | [] => some { name := name }
  | '[' :: rest => (scanBracket rest).map fun bracket => { name := name, bracket := some bracket }
  | _ :: _ => none

/-- A closing bracket stands before the first opening one. -/
def crossed (text : List Char) : Bool :=
  match text.dropWhile fun character => !isDelimiter character with
  | ']' :: rest => rest.contains '['
  | _ => false

/-- The text is a name, or a name and an index. -/
def wellFormed (text : List Char) : Bool := (scan text).any isExact

end Segment

/-- The map of all variables, or a value in one of them. -/
inductive Node (Value : Type)
  | root
  | value (value : Value)

section

variable {Raw Value : Type} (library : JsonLibrary Raw Value) (values : String → Option Raw)

def child (name : String) : Node Value → Option Value
  | .root => (values name).bind fun raw => (library.parseBytes raw).toOption
  | .value value => library.get value name

def element (position : Int) (value : Value) : Option Value :=
  match library.array value with
  | .error _ => none
  | .ok slice => if position < 0 then none else slice.elements[position.toNat]?

def select (segment : Segment) (value : Value) : Option Value :=
  match segment.position with
  | none => some value
  | some position => element library position value

/-- The value a segment leads to. -/
def follow (node : Node Value) (segment : Segment) : Option Value :=
  (child library values (String.ofList segment.name) node).bind (select library segment)

def reach (node : Node Value) (text : List Char) : Option Value :=
  (Segment.scan text).bind (follow library values node)

def walk (value : Value) (texts : List (List Char)) : Option Value :=
  texts.foldlM (fun value => reach library values (.value value)) value

/-- Where the segments lead to, from the map of all variables. -/
def reached : List (List Char) → Option (Node Value)
  | [] => some .root
  | first :: rest =>
    (reach library values .root first).bind fun value =>
      (walk library values value rest).map Node.value

/-- The document the segments lead to; a whole variable is taken as it is. -/
def document (texts : List (List Char)) : Option Raw :=
  match texts with
  | [text] =>
    (Segment.scan text).bind fun segment =>
      match segment.bracket with
      | none => values (String.ofList segment.name)
      | some _ => (follow library values .root segment).map library.marshalTo
  | texts =>
    match reached library values texts with
    | some (.value value) => some (library.marshalTo value)
    | _ => none

/-- The document a path designates. -/
def designated (path : String) : Option Raw :=
  let texts := path.toList.splitOn '.'
  if texts.all Segment.wellFormed then document library values texts else none

/-- The lookup neither panics nor returns anything else than the document the path designates. -/
structure SafeAndExact (path : String) : Prop where
  safe : getVariableValue library values path ≠ .panic
  exact : ∀ raw, getVariableValue library values path = .ok raw → designated library values path = some raw
  rejects : designated library values path = none → ∃ error, getVariableValue library values path = .error error

/-- A segment at which the lookup panics: the brackets are crossed, or the largest index is asked of an array. -/
def Crashes (node : Node Value) (text : List Char) : Prop :=
  Segment.crossed text = true ∨
    ∃ segment, Segment.scan text = some segment ∧ segment.position = some (2 ^ 63 - 1) ∧
      ∃ value slice, child library values (String.ofList segment.name) node = some value ∧
        library.array value = .ok slice

end

/-! ## How a segment is read

The text of a segment has one of four shapes, by its first delimiter.
-/

namespace Segment

section

variable {name : List Char} (plain : name.any isDelimiter = false)

theorem exists_shape (text : List Char) :
    ∃ name, name.any isDelimiter = false ∧
      (text = name ∨ (∃ rest, text = name ++ '[' :: rest ∧ ']' ∉ rest) ∨
        (∃ written trailing, text = name ++ '[' :: (written ++ ']' :: trailing) ∧ ']' ∉ written) ∨
        ∃ rest, text = name ++ ']' :: rest) := by
  have split := takeWhile_append_dropWhile (p := fun character => !isDelimiter character) (l := text)
  refine ⟨text.takeWhile fun character => !isDelimiter character, ?_, ?_⟩
  · rw [any_eq_false]
    intro character inside
    simpa using mem_takeWhile_imp inside
  · cases dropped : text.dropWhile fun character => !isDelimiter character with
    | nil =>
      rw [dropped, append_nil] at split
      exact .inl split.symm
    | cons first rest =>
      have delimiter := head?_dropWhile_not (fun character => !isDelimiter character) text
      rw [dropped] at split delimiter
      have one : first = '[' ∨ first = ']' := by
        apply or_iff_not_imp_left.mpr
        simpa [isDelimiter] using delimiter
      rcases one with rfl | rfl
      · by_cases closed : ']' ∈ rest
        · rcases eq_append_cons_of_mem closed with ⟨written, trailing, parts, before⟩
          exact .inr (.inr (.inl ⟨written, trailing, by rw [← parts, split], before⟩))
        · exact .inr (.inl ⟨rest, split.symm, closed⟩)
      · exact .inr (.inr (.inr ⟨rest, split.symm⟩))

include plain

theorem notMem_left : '[' ∉ name := by
  intro inside
  exact absurd (any_eq_false.mp plain '[' inside) (by decide)

theorem notMem_right : ']' ∉ name := by
  intro inside
  exact absurd (any_eq_false.mp plain ']' inside) (by decide)

theorem takeWhile_name (rest : List Char) (stops : (rest.takeWhile fun character => !isDelimiter character) = []) :
    ((name ++ rest).takeWhile fun character => !isDelimiter character) = name := by
  rw [takeWhile_append_of_pos, stops, append_nil]
  intro character inside
  simpa using any_eq_false.mp plain character inside

theorem dropWhile_name (rest : List Char) :
    ((name ++ rest).dropWhile fun character => !isDelimiter character) =
      rest.dropWhile fun character => !isDelimiter character := by
  apply dropWhile_append_of_pos
  intro character inside
  simpa using any_eq_false.mp plain character inside

theorem scan_name : scan name = some { name := name } := by
  have taken := takeWhile_name plain [] rfl
  have dropped := dropWhile_name plain []
  rw [append_nil] at taken dropped
  rw [scan, taken, dropped]
  rfl

theorem scan_left (rest : List Char) :
    scan (name ++ '[' :: rest) = (scanBracket rest).map fun bracket => { name := name, bracket := some bracket } := by
  rw [scan, takeWhile_name plain _ (by rfl), dropWhile_name plain]
  rfl

theorem scan_right (rest : List Char) : scan (name ++ ']' :: rest) = none := by
  rw [scan, takeWhile_name plain _ (by rfl), dropWhile_name plain]
  rfl

theorem crossed_name : crossed name = false := by
  have dropped := dropWhile_name plain []
  rw [append_nil] at dropped
  rw [crossed, dropped]
  rfl

theorem crossed_left (rest : List Char) : crossed (name ++ '[' :: rest) = false := by
  rw [crossed, dropWhile_name plain]
  rfl

theorem crossed_right (rest : List Char) : crossed (name ++ ']' :: rest) = rest.contains '[' := by
  rw [crossed, dropWhile_name plain]
  rfl

end

theorem scanBracket_of_closed {written trailing : List Char} (before : ']' ∉ written) :
    scanBracket (written ++ ']' :: trailing) =
      (integer? written).map fun position => { written := written, position := position, trailing := trailing } := by
  have reads : ∀ character ∈ written, decide (character ≠ ']') = true := by
    intro _ inside
    simp only [decide_eq_true_eq]
    rintro rfl
    exact before inside
  rw [scanBracket, if_pos (by simp), takeWhile_append_of_pos reads, dropWhile_append_of_pos reads]
  simp

end Segment

section

variable {name : List Char} (plain : name.any isDelimiter = false)

include plain

theorem parsePathSegment_name : parsePathSegment name = .ok { path := String.ofList name } := by
  simp [parsePathSegment, Segment.notMem_left plain, Segment.notMem_right plain]

theorem parsePathSegment_unclosed {rest : List Char} (unclosed : ']' ∉ rest) :
    ∃ error, parsePathSegment (name ++ '[' :: rest) = .error error := by
  simp [parsePathSegment, Segment.notMem_right plain, unclosed]

theorem parsePathSegment_right (rest : List Char) :
    (parsePathSegment (name ++ ']' :: rest) = .panic ∧ '[' ∈ rest) ∨
      (∃ error, parsePathSegment (name ++ ']' :: rest) = .error error) ∧ '[' ∉ rest := by
  by_cases opened : '[' ∈ rest
  · refine .inl ⟨?_, opened⟩
    have crossed : (name ++ ']' :: rest).idxOf ']' < (name ++ ']' :: rest).idxOf '[' + 1 := by
      rw [idxOf_append_of_notMem (Segment.notMem_left plain),
        idxOf_append_of_notMem (Segment.notMem_right plain), idxOf_cons_self]
      omega
    simp only [parsePathSegment, slice_eq_none_of_lt _ crossed]
    simp [opened]
  · refine .inr ⟨?_, opened⟩
    simp [parsePathSegment, Segment.notMem_left plain, opened]

theorem parsePathSegment_closed {written : List Char} (before : ']' ∉ written) (trailing : List Char) :
    (∃ index, atoi written = .ok index ∧ 0 ≤ index ∧
        parsePathSegment (name ++ '[' :: (written ++ ']' :: trailing)) =
          .ok { path := String.ofList name, index := some index }) ∨
      (∃ error, parsePathSegment (name ++ '[' :: (written ++ ']' :: trailing)) = .error error) ∧
        ∀ index, atoi written = .ok index → index < 0 := by
  have left : (name ++ '[' :: (written ++ ']' :: trailing)).idxOf '[' = name.length := by
    rw [idxOf_append_of_notMem (Segment.notMem_left plain), idxOf_cons_self, Nat.add_zero]
  have right : (name ++ '[' :: (written ++ ']' :: trailing)).idxOf ']' = name.length + 1 + written.length := by
    rw [idxOf_append_of_notMem (Segment.notMem_right plain), idxOf_cons_ne _ (by decide),
      idxOf_append_of_notMem before, idxOf_cons_self]
    omega
  have inner : slice (name ++ '[' :: (written ++ ']' :: trailing)) (name.length + 1)
      (name.length + 1 + written.length) = some written := by
    have sliced := slice_append (name ++ ['[']) written (']' :: trailing)
    rwa [append_assoc, length_append] at sliced
  have front : slice (name ++ '[' :: (written ++ ']' :: trailing)) 0 name.length = some name := by
    have sliced := slice_append [] name ('[' :: (written ++ ']' :: trailing))
    rwa [nil_append, length_nil, Nat.zero_add] at sliced
  have both : (name ++ '[' :: (written ++ ']' :: trailing)).contains '[' = true ∧
      (name ++ '[' :: (written ++ ']' :: trailing)).contains ']' = true := by
    simp
  simp only [parsePathSegment, both, left, right, inner, front]
  cases read : atoi written with
  | error => exact .inr ⟨⟨_, rfl⟩, nofun⟩
  | ok index =>
    by_cases negative : index < 0
    · refine .inr ⟨⟨_, if_pos negative⟩, ?_⟩
      rintro _ ⟨⟩
      exact negative
    · exact .inl ⟨index, rfl, by omega, if_neg negative⟩

end

/-- A segment is accepted if its index, where it has one, is a number of 64 bits that is not negative. -/
def Segment.Accepted (segment : Segment) : Prop := ∀ position ∈ segment.position, 0 ≤ position ∧ position < 2 ^ 63

def Segment.parsed (segment : Segment) : PathSegment :=
  { path := String.ofList segment.name, index := segment.position }

/-- Crossed brackets are the only panic; otherwise the segments that are accepted are returned. -/
theorem parsePathSegment_spec (text : List Char) :
    match parsePathSegment text with
    | .panic => Segment.crossed text = true ∧ Segment.scan text = none
    | .error _ => Segment.crossed text = false ∧ ∀ segment, Segment.scan text = some segment → ¬ segment.Accepted
    | .ok parsed =>
      Segment.crossed text = false ∧
        ∃ segment, Segment.scan text = some segment ∧ segment.Accepted ∧ parsed = segment.parsed := by
  rcases Segment.exists_shape text with ⟨_, plain, rfl | ⟨rest, rfl, unclosed⟩ |
    ⟨written, trailing, rfl, before⟩ | ⟨rest, rfl⟩⟩
  · rw [parsePathSegment_name plain]
    exact ⟨Segment.crossed_name plain, _, Segment.scan_name plain, nofun, rfl⟩
  · rcases parsePathSegment_unclosed plain unclosed with ⟨error, failed⟩
    rw [failed, Segment.scan_left plain, Segment.scanBracket, if_neg unclosed]
    exact ⟨Segment.crossed_left plain rest, nofun⟩
  · rw [Segment.scan_left plain, Segment.scanBracket_of_closed before]
    rcases parsePathSegment_closed plain before trailing with
      ⟨index, read, nonneg, parsed⟩ | ⟨⟨error, failed⟩, negative⟩
    · rw [parsed]
      rcases atoi_eq_ok.mp read with ⟨integer, -, below⟩
      refine ⟨Segment.crossed_left plain _, _, by rw [integer]; rfl, ?_, rfl⟩
      rintro _ ⟨⟩
      exact ⟨nonneg, below⟩
    · rw [failed]
      refine ⟨Segment.crossed_left plain _, ?_⟩
      intro _ scanned accepted
      simp only [Option.map_map, Option.map_eq_some_iff, Function.comp] at scanned
      rcases scanned with ⟨position, integer, rfl⟩
      have range := accepted position rfl
      have read := atoi_eq_ok.mpr ⟨integer, by omega, range.2⟩
      exact absurd (negative position read) (by omega)
  · rcases parsePathSegment_right plain rest with ⟨panics, opened⟩ | ⟨⟨_, failed⟩, unopened⟩
    · rw [panics, Segment.crossed_right plain, Segment.scan_right plain]
      exact ⟨by simpa using opened, rfl⟩
    · rw [failed, Segment.crossed_right plain, Segment.scan_right plain]
      exact ⟨by simpa using unopened, nofun⟩

theorem parsePathSegment_eq_panic {text : List Char} :
    parsePathSegment text = .panic ↔ Segment.crossed text = true := by
  have spec := parsePathSegment_spec text
  cases result : parsePathSegment text <;> simp_all

theorem parsePathSegment_eq_ok {text : List Char} {parsed : PathSegment} :
    parsePathSegment text = .ok parsed ↔
      ∃ segment, Segment.scan text = some segment ∧ segment.Accepted ∧ parsed = segment.parsed := by
  have spec := parsePathSegment_spec text
  cases result : parsePathSegment text with
  | panic => simp_all
  | error =>
    rw [result] at spec
    refine iff_of_false nofun ?_
    rintro ⟨segment, scanned, accepted, -⟩
    exact spec.2 segment scanned accepted
  | ok =>
    rw [result] at spec
    rcases spec.2 with ⟨_, scanned, accepted, rfl⟩
    simp [scanned, accepted, eq_comm]

/-! ## What the lookup returns -/

section

variable {Raw Value : Type} {library : JsonLibrary Raw Value} {values : String → Option Raw} {segment : Segment}

theorem select_of_rejected (rejected : ¬ segment.Accepted) (value : Value) : select library segment value = none := by
  unfold select
  unfold Segment.Accepted at rejected
  cases written : segment.position with
  | none => simp [written] at rejected
  | some position =>
    have outside : ¬ (0 ≤ position ∧ position < 2 ^ 63) := by simpa [written] using rejected
    unfold element
    cases library.array value with
    | error => rfl
    | ok slice =>
      have bounded := slice.bounded
      dsimp only
      split_ifs with negative
      · rfl
      · rw [getElem?_eq_none_iff]
        omega

theorem accepted_of_select {value found : Value}
    (selected : select library segment value = some found) : segment.Accepted := by
  by_contra rejected
  rw [select_of_rejected rejected] at selected
  cases selected

theorem Segment.accepted_of_largest (largest : segment.position = some (2 ^ 63 - 1)) : segment.Accepted := by
  intro _ written
  rw [largest] at written
  cases written
  decide

section

variable {segment : Segment} (accepted : segment.Accepted) {value : Value} {path : String}

include accepted

theorem resolveIndex_spec (library : JsonLibrary Raw Value) (value : Value) (path : String) :
    match resolveIndex library value segment.parsed path with
    | .panic =>
      segment.position = some (2 ^ 63 - 1) ∧ select library segment value = none ∧
        ∃ slice, library.array value = .ok slice
    | .error _ =>
      ¬ (segment.position = some (2 ^ 63 - 1) ∧ ∃ slice, library.array value = .ok slice) ∧
        select library segment value = none
    | .ok found => segment.position ≠ some (2 ^ 63 - 1) ∧ select library segment value = some found := by
  unfold resolveIndex select
  rw [show segment.parsed.index = segment.position from rfl]
  cases written : segment.position with
  | none => simp
  | some position =>
    rcases accepted position written with ⟨nonneg, below⟩
    simp only [ne_eq, Option.some.injEq]
    unfold getVariableArrayElement element
    cases array : library.array value with
    | error => simp
    | ok slice =>
      have bounded := slice.bounded
      have notNegative : ¬ position < 0 := by omega
      simp only [if_neg notNegative]
      by_cases largest : position = 2 ^ 63 - 1
      · have wrapped : (position + 1).bmod (2 ^ 64) = -2 ^ 63 := by
          rw [largest]
          decide
        have absent : slice.elements[position.toNat]? = none := by
          rw [getElem?_eq_none_iff]
          omega
        rw [wrapped, if_neg (by omega), absent]
        exact ⟨largest, rfl, slice, rfl⟩
      · have successor : (position + 1).bmod (2 ^ 64) = position + 1 := by
          rw [Int.bmod_eq_of_le] <;> omega
        split_ifs with short
        · refine ⟨fun both => largest both.1, ?_⟩
          rw [getElem?_eq_none_iff]
          omega
        · have inside : position.toNat < slice.elements.length := by omega
          rw [getElem?_eq_getElem inside]
          exact ⟨largest, rfl⟩

theorem resolveIndex_eq_ok {found : Value} :
    resolveIndex library value segment.parsed path = .ok found ↔ select library segment value = some found := by
  have spec := resolveIndex_spec accepted library value path
  cases result : resolveIndex library value segment.parsed path <;> simp_all

theorem resolveIndex_eq_panic :
    resolveIndex library value segment.parsed path = .panic ↔
      segment.position = some (2 ^ 63 - 1) ∧ ∃ slice, library.array value = .ok slice := by
  have spec := resolveIndex_spec accepted library value path
  cases result : resolveIndex library value segment.parsed path <;> simp_all

end

/-! ### One segment -/

theorem lookupSegment_eq_ok (values : String → Option Raw) (path : String) (value : Value)
    (text : List Char) (found : Value) :
    lookupSegment library path value text = .ok found ↔ reach library values (.value value) text = some found := by
  simp only [lookupSegment, Outcome.bind_eq_ok, Outcome.mapError_eq_ok, parsePathSegment_eq_ok,
    reach, Option.bind_eq_some_iff, follow, child]
  constructor
  · rintro ⟨_, ⟨segment, scanned, accepted, rfl⟩, looked⟩
    refine ⟨segment, scanned, ?_⟩
    cases member : library.get value segment.parsed.path with
    | none => simp [member] at looked
    | some found =>
      rw [member] at looked
      exact ⟨found, member, (resolveIndex_eq_ok accepted).mp looked⟩
  · rintro ⟨segment, scanned, member, got, selected⟩
    have accepted := accepted_of_select selected
    refine ⟨segment.parsed, ⟨segment, scanned, accepted, rfl⟩, ?_⟩
    rw [show library.get value segment.parsed.path = some member from got]
    exact (resolveIndex_eq_ok accepted).mpr selected

theorem lookupSegment_eq_panic {path : String} {value : Value} {text : List Char} :
    lookupSegment library path value text = .panic ↔ Crashes library values (.value value) text := by
  simp only [lookupSegment, Outcome.bind_eq_panic, Outcome.mapError_eq_ok,
    Outcome.mapError_eq_panic, parsePathSegment_eq_panic, parsePathSegment_eq_ok, Crashes, child]
  apply or_congr_right
  constructor
  · rintro ⟨_, ⟨segment, scanned, accepted, rfl⟩, looked⟩
    refine ⟨segment, scanned, ?_⟩
    cases member : library.get value segment.parsed.path with
    | none => simp [member] at looked
    | some found =>
      rw [member] at looked
      rcases (resolveIndex_eq_panic accepted).mp looked with ⟨largest, slice, array⟩
      exact ⟨largest, found, slice, member, array⟩
  · rintro ⟨segment, scanned, largest, member, slice, got, array⟩
    have accepted := Segment.accepted_of_largest largest
    refine ⟨segment.parsed, ⟨segment, scanned, accepted, rfl⟩, ?_⟩
    rw [show library.get value segment.parsed.path = some member from got]
    exact (resolveIndex_eq_panic accepted).mpr ⟨largest, slice, array⟩

/-! ### The whole path -/

theorem document_cons {first : List Char} {rest : List (List Char)} {raw : Raw} :
    document library values (first :: rest) = some raw ↔
      ∃ segment, Segment.scan first = some segment ∧
        if rest = [] ∧ segment.position = none then values (String.ofList segment.name) = some raw
        else
          ∃ value, follow library values .root segment = some value ∧
            ∃ last, walk library values value rest = some last ∧ library.marshalTo last = raw := by
  cases rest with
  | nil =>
    rw [document, Option.bind_eq_some_iff]
    apply exists_congr
    intro segment
    apply and_congr_right
    simp only [Segment.position, Option.map_eq_none_iff]
    cases segment.bracket <;> simp [walk]
  | cons second rest =>
    simp only [document, reached, reach, cons_ne_nil, false_and, if_false]
    cases scanned : Segment.scan first with
    | none => simp
    | some segment =>
      cases followed : follow library values .root segment with
      | none => simp [followed]
      | some value => cases last : walk library values value (second :: rest) <;> simp [followed, last]

section

variable {segment : Segment} (accepted : segment.Accepted) {path : String} {name : List Char} {rest : List (List Char)}

include accepted

theorem lookupVariable_eq_ok {raw : Raw} :
    lookupVariable library values path name rest segment.parsed = .ok raw ↔
      if rest = [] ∧ segment.position = none then values (String.ofList segment.name) = some raw
      else
        ∃ value, follow library values .root segment = some value ∧
          ∃ last, walk library values value rest = some last ∧ library.marshalTo last = raw := by
  unfold lookupVariable follow child
  rw [show segment.parsed.path = String.ofList segment.name from rfl, show segment.parsed.index = segment.position from rfl]
  cases values (String.ofList segment.name) with
  | none => simp
  | some stored =>
    by_cases whole : rest = [] ∧ segment.position = none
    · simp [whole]
    · simp only [if_neg whole, Option.bind_some]
      cases library.parseBytes stored with
      | error => simp [Except.toOption]
      | ok =>
        simp only [Outcome.bind_eq_ok, resolveIndex_eq_ok accepted,
          Outcome.loop_eq_ok (lookupSegment_eq_ok values path), Outcome.ok.injEq]
        rfl

theorem lookupVariable_eq_panic :
    lookupVariable library values path name rest segment.parsed = .panic ↔
      ∃ value, child library values (String.ofList segment.name) .root = some value ∧
        (segment.position = some (2 ^ 63 - 1) ∧ (∃ slice, library.array value = .ok slice) ∨
          ∃ found, select library segment value = some found ∧
            Outcome.loop (lookupSegment library path) found rest = .panic) := by
  unfold lookupVariable child
  rw [show segment.parsed.path = String.ofList segment.name from rfl, show segment.parsed.index = segment.position from rfl]
  cases values (String.ofList segment.name) with
  | none => simp
  | some stored =>
    by_cases whole : rest = [] ∧ segment.position = none
    · simp [whole, Outcome.loop]
    · simp only [if_neg whole, Option.bind_some]
      cases library.parseBytes stored with
      | error => simp [Except.toOption]
      | ok =>
        simp [Outcome.bind_eq_panic, resolveIndex_eq_ok accepted, resolveIndex_eq_panic accepted, Except.toOption]

end

theorem getVariableValue_eq_ok {path : String} {raw : Raw} :
    getVariableValue library values path = .ok raw ↔
      document library values (path.toList.splitOn '.') = some raw := by
  unfold getVariableValue
  cases texts : path.toList.splitOn '.' with
  | nil => exact absurd texts (splitOn_ne_nil _ _)
  | cons =>
    simp only [Outcome.bind_eq_ok, Outcome.mapError_eq_ok, parsePathSegment_eq_ok, document_cons]
    constructor
    · rintro ⟨_, ⟨segment, scanned, accepted, rfl⟩, looked⟩
      exact ⟨segment, scanned, (lookupVariable_eq_ok accepted).mp looked⟩
    · rintro ⟨segment, scanned, found⟩
      have accepted : segment.Accepted := by
        split_ifs at found with whole
        · intro _ written
          rw [whole.2] at written
          cases written
        · rcases found with ⟨_, followed, -⟩
          rcases Option.bind_eq_some_iff.mp followed with ⟨_, -, selected⟩
          exact accepted_of_select selected
      exact ⟨segment.parsed, ⟨segment, scanned, accepted, rfl⟩, (lookupVariable_eq_ok accepted).mpr found⟩

theorem getVariableValue_eq_panic {path : String} :
    getVariableValue library values path = .panic ↔
      ∃ before text after, path.toList.splitOn '.' = before ++ text :: after ∧
        ∃ node, reached library values before = some node ∧ Crashes library values node text := by
  unfold getVariableValue
  cases texts : path.toList.splitOn '.' with
  | nil => exact absurd texts (splitOn_ne_nil _ _)
  | cons first rest =>
    simp only [Outcome.bind_eq_panic, Outcome.mapError_eq_panic, Outcome.mapError_eq_ok,
      parsePathSegment_eq_panic, parsePathSegment_eq_ok]
    constructor
    · rintro (crossed | ⟨_, ⟨segment, scanned, accepted, rfl⟩, panics⟩)
      · exact ⟨[], first, rest, rfl, .root, rfl, .inl crossed⟩
      · rcases (lookupVariable_eq_panic accepted).mp panics with
          ⟨value, found, ⟨largest, slice, array⟩ | ⟨selected, select, panics⟩⟩
        · exact ⟨[], first, rest, rfl, .root, rfl, .inr ⟨segment, scanned, largest, value, slice, found, array⟩⟩
        · rcases (Outcome.loop_eq_panic (lookupSegment_eq_ok values path)).mp panics with
            ⟨before, text, after, rfl, last, walked, panics⟩
          refine ⟨first :: before, text, after, rfl, .value last, ?_, lookupSegment_eq_panic.mp panics⟩
          simp only [reached, reach, scanned, Option.bind_some, follow, found, select]
          rw [show walk library values selected before = some last from walked]
          rfl
    · rintro ⟨before, text, after, split, _, led, crashes⟩
      cases before with
      | nil =>
        cases split
        cases led
        rcases crashes with crossed | ⟨segment, scanned, largest, value, slice, found, array⟩
        · exact .inl crossed
        · have accepted := Segment.accepted_of_largest largest
          exact .inr ⟨segment.parsed, ⟨segment, scanned, accepted, rfl⟩,
            (lookupVariable_eq_panic accepted).mpr ⟨value, found, .inl ⟨largest, slice, array⟩⟩⟩
      | cons _ before =>
        cases split
        simp only [reached, reach, follow, Option.bind_eq_some_iff, Option.map_eq_some_iff] at led
        rcases led with ⟨value, ⟨segment, scanned, member, found, selected⟩, last, walked, rfl⟩
        have accepted := accepted_of_select selected
        refine .inr ⟨segment.parsed, ⟨segment, scanned, accepted, rfl⟩,
          (lookupVariable_eq_panic accepted).mpr ⟨member, found, .inr ⟨value, selected, ?_⟩⟩⟩
        exact (Outcome.loop_eq_panic (lookupSegment_eq_ok values path)).mpr
          ⟨before, text, after, rfl, last, walked, lookupSegment_eq_panic.mpr crashes⟩

/-- The lookup is safe and exact if and only if no segment that is reached crashes it, and a path that leads to a
document is well-formed. -/
theorem getVariableValue_safeAndExact_iff (library : JsonLibrary Raw Value)
    (values : String → Option Raw) (path : String) :
    SafeAndExact library values path ↔
      (∀ before text after, path.toList.splitOn '.' = before ++ text :: after →
        ∀ node, reached library values before = some node → ¬ Crashes library values node text) ∧
      (document library values (path.toList.splitOn '.') ≠ none →
        (path.toList.splitOn '.').all Segment.wellFormed = true) := by
  have noPanic : getVariableValue library values path ≠ .panic ↔
      ∀ before text after, path.toList.splitOn '.' = before ++ text :: after →
        ∀ node, reached library values before = some node → ¬ Crashes library values node text := by
    rw [ne_eq, getVariableValue_eq_panic]
    push Not
    rfl
  rw [← noPanic]
  constructor
  · rintro ⟨safe, exact, -⟩
    refine ⟨safe, ?_⟩
    intro led
    rcases Option.ne_none_iff_exists'.mp led with ⟨raw, document⟩
    have designates := exact raw (getVariableValue_eq_ok.mpr document)
    by_contra malformed
    simp [designated, malformed] at designates
  · rintro ⟨safe, wellFormed⟩
    have exact : ∀ raw, getVariableValue library values path = .ok raw →
        designated library values path = some raw := by
      intro raw returned
      have document := getVariableValue_eq_ok.mp returned
      rw [designated, if_pos (wellFormed (by simp [document])), document]
    refine ⟨safe, exact, ?_⟩
    intro nothing
    cases outcome : getVariableValue library values path with
    | ok raw =>
      have designates := exact raw outcome
      rw [nothing] at designates
      cases designates
    | error error => exact ⟨error, rfl⟩
    | panic => exact absurd outcome safe

end

namespace Example

inductive Tree
  | leaf (value : Nat)
  | array (elements : List Tree)

def library : JsonLibrary Tree Tree where
  parseBytes := .ok
  get _ _ := none
  array
    | .leaf _ => .error "value doesn't contain array; it contains number"
    | .array elements =>
      if bounded : elements.length < 2 ^ 63 then .ok ⟨elements, bounded⟩ else .error "array is too long"
  marshalTo := id
  text _ := ""
  address _ := "824634851344"

def values : String → Option Tree
  | "sizes" => some (.array [.leaf 10, .leaf 20])
  | _ => none

end Example

/-- Crossed brackets panic, and an index behind another one is ignored. -/
theorem getVariableValue_not_safeAndExact :
    getVariableValue Example.library Example.values "sizes]0[" = .panic ∧
      getVariableValue Example.library Example.values "sizes[0][1]" = .ok (.leaf 10) ∧
      ¬ SafeAndExact Example.library Example.values "sizes]0[" ∧
      ¬ SafeAndExact Example.library Example.values "sizes[0][1]" := by
  have panics : getVariableValue Example.library Example.values "sizes]0[" = .panic := by rfl
  have ignored : getVariableValue Example.library Example.values "sizes[0][1]" = .ok (.leaf 10) := by rfl
  refine ⟨panics, ignored, fun safe => safe.safe panics, ?_⟩
  intro safe
  have designates := safe.exact _ ignored
  cases designates

end ClusterApi.Topology
