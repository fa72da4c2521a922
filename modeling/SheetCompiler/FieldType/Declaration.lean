import SheetCompiler.Diagnostic
import SheetCompiler.Text.Basic

/-!
# Type declarations

Reading the declared type of a column. Keywords are matched without regard to
the case of ASCII letters.

* `int` is a scalar;
* `int[]`, `repeated int` and `[int]` are arrays;
* two such wrappers, in any mixture, make a matrix;
* `map<string,int>` and `map<string;int>` are maps;
* `kvp<string,int>` and `kvp<string;int>` are key and value pairs.

Reading never fails: a declaration outside this grammar becomes `string` and is
reported.
-/

set_option autoImplicit false

namespace SheetCompiler

open Text

/-- The base type of a spelling, blanks at its ends and letter case aside. -/
def BaseType.ofName? (name : List Char) : Option BaseType :=
  let lowered := String.ofList (lower (trim name))
  BaseType.all.find? fun base => base.spellings.contains lowered

namespace FieldType

/-- The type read from a declaration, with what was wrong about it. -/
structure Resolution where
  type : FieldType
  diagnostics : List Diagnostic
  deriving DecidableEq, Repr

namespace Resolution

def resolved (type : FieldType) : Resolution := ⟨type, []⟩

def degraded (fault : TypeFault) : Resolution :=
  ⟨.text, [Diagnostic.ofCause (.malformedType fault)]⟩

end Resolution

/-- The key and value types between the brackets of a map. -/
def pairOfInner (inner : List Char) (declared : String) :
    Except TypeFault (BaseType × BaseType) :=
  let (key, value) :=
    match cut? (fun c => c == ',' || c == ';') inner with
    | some (key, value) => (trim key, trim value)
    | none => (trim inner, [])
  if key.isEmpty || value.isEmpty then .error (.incompletePair declared)
  else
    match BaseType.ofName? key, BaseType.ofName? value with
    | none, _ => .error (.unknownKey (String.ofList key) declared)
    | some _, none => .error (.unknownValue (String.ofList value) declared)
    | some key, some value => .ok (key, value)

/-- Reads `inner>` as the rest of a map or of pairs. -/
def resolvePair (build : BaseType → BaseType → FieldType) (rest : List Char)
    (declared : String) : Resolution :=
  match stripBack? ['>'] rest with
  | none => .degraded (.unterminated declared)
  | some inner =>
      match pairOfInner inner declared with
      | .ok (key, value) => .resolved (build key value)
      | .error fault => .degraded fault

/-- Removes the outermost array wrapper of a type expression. -/
def unwrap? (cs : List Char) : Option (List Char) :=
  match stripFrontAnyCase? "repeated ".toList cs with
  | some rest => some (trimStart rest)
  | none =>
      match stripBack? "[]".toList cs with
      | some rest => some (trimEnd rest)
      | none => (stripFront? ['['] cs).bind fun rest => (stripBack? [']'] rest).map trim

theorem length_dropWhile_le (p : Char → Bool) (cs : List Char) :
    (cs.dropWhile p).length ≤ cs.length :=
  (List.dropWhile_suffix p).length_le

theorem length_trimStart_le (cs : List Char) : (trimStart cs).length ≤ cs.length :=
  length_dropWhile_le isBlank cs

theorem length_trimEnd_le (cs : List Char) : (trimEnd cs).length ≤ cs.length := by
  have := length_dropWhile_le isBlank cs.reverse
  simpa [trimEnd, dropEndWhile] using this

theorem length_trim_le (cs : List Char) : (trim cs).length ≤ cs.length :=
  Nat.le_trans (length_trimEnd_le _) (length_trimStart_le _)

/-- Each wrapper takes at least one character with it. -/
theorem length_unwrap? {cs rest : List Char} (unwrapped : unwrap? cs = some rest) :
    rest.length < cs.length := by
  unfold unwrap? at unwrapped
  split at unwrapped
  · next stripped equation =>
      unfold stripFrontAnyCase? at equation
      split at equation
      · next matched =>
          obtain rfl := Option.some.inj equation
          obtain rfl := Option.some.inj unwrapped
          have lengths := congrArg List.length (eq_of_beq matched)
          simp only [lower, List.length_map, List.length_take] at lengths
          have := length_trimStart_le (cs.drop "repeated ".toList.length)
          have nine : "repeated ".toList.length = 9 := by decide
          rw [List.length_drop] at this
          omega
      · cases equation
  · split at unwrapped
    · next stripped equation =>
        obtain rfl := Option.some.inj unwrapped
        have suffix := stripBack?_eq_some_iff.mp equation
        have lengths := congrArg List.length suffix
        have := length_trimEnd_le stripped
        have two : "[]".toList.length = 2 := by decide
        simp only [List.length_append] at lengths
        omega
    · obtain ⟨opened, openedEquation, closedEquation⟩ := Option.bind_eq_some_iff.mp unwrapped
      obtain ⟨closed, equation, rfl⟩ := Option.map_eq_some_iff.mp closedEquation
      have front := stripFront?_eq_some_iff.mp openedEquation
      have back := stripBack?_eq_some_iff.mp equation
      have := length_trim_le closed
      have frontLengths := congrArg List.length front
      have backLengths := congrArg List.length back
      simp only [List.length_append, List.length_cons, List.length_nil] at frontLengths backLengths
      omega

/-- Removes every array wrapper and counts them. -/
def peel (cs : List Char) : List Char × Nat :=
  match _unwrapped : unwrap? cs with
  | none => (cs, 0)
  | some rest =>
      let (inner, depth) := peel rest
      (inner, depth + 1)
termination_by cs.length
decreasing_by exact length_unwrap? _unwrapped

/-- Arrays nest two levels deep. -/
def maxDepth : Nat := 2

/-- Characters that no base type name has. -/
def isStructural (c : Char) : Bool :=
  c == '[' || c == ']' || c == '<' || c == '>' || c == ' '

/-- The scalar, array or matrix of a base type. -/
def ofDepth (base : BaseType) : Nat → FieldType
  | 0 => .scalar base
  | 1 => .array base
  | _ => .matrix base

/-- Reads a declaration made of array wrappers around a base type. -/
def resolveNested (chars : List Char) : Resolution :=
  let declared := String.ofList chars
  let (inner, depth) := peel chars
  if maxDepth < depth then .degraded (.tooDeep declared)
  else if inner.isEmpty || inner.any isStructural then .degraded (.malformed declared)
  else
    match BaseType.ofName? inner with
    | some base => .resolved (ofDepth base depth)
    | none =>
        ⟨ofDepth .string depth,
          [Diagnostic.ofCause (.unknownBaseType (String.ofList inner) declared)]⟩

/-- Reads a type declaration. -/
def resolve (text : String) : Resolution :=
  let chars := trim text.toList
  let declared := String.ofList chars
  if chars.isEmpty then .degraded .empty
  else
    match stripFrontAnyCase? "map<".toList chars with
    | some rest => resolvePair .map rest declared
    | none =>
        match stripFrontAnyCase? "kvp<".toList chars with
        | some rest => resolvePair .pairs rest declared
        | none => resolveNested chars

end FieldType

end SheetCompiler
