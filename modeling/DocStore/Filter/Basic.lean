import DocStore.Document
import DocStore.Regex.Match

/-!
# DocStore — filters

A filter says which documents are wanted. It combines conditions on fields, each a list of tests
that the value at a dotted path has to pass (`Filter.accepts`). Two notions of sameness meet here:
numbers are the same when their doubles are, whatever their kind, but only where a number stands by
itself; everything else, and numbers inside arrays and objects, is compared as JSON.
-/

namespace DocStore

/-! ## Comparing values -/

/-- Whether two values are the same: numbers by their doubles, all else as JSON. -/
def Value.same : Value → Value → Bool
  | .number a, .number b => a.sameValue b
  | a, b => a.equal b

/-- The order of two values of one kind that has an order. -/
def Value.compare? : Value → Value → Option Ordering
  | .number a, .number b => some (a.compare b)
  | .string a, .string b => some (compare a b)
  | .bool a, .bool b => some (compare a b)
  | .null, .null => some .eq
  | _, _ => none

/-- Whether a value is the target, or an array with an item that is. An array as the target is only
met as a whole. -/
def Value.equalsOrContains (v target : Value) : Bool :=
  v.same target ||
    match v with
    | .array items => !target.isArray && items.any (·.same target)
    | _ => false

/-- Whether a value goes by this name of a kind. -/
def Value.isKind (v : Value) (name : String) : Bool :=
  match name with
  | "number" => match v with
    | .number _ => true
    | _ => false
  | "int" | "long" => match v with
    | .number (.int _) => true
    | _ => false
  | _ => v.kind = name

/-! ## Filters -/

/-- A test on the value at a path. -/
inductive FieldTest where
  | eq (target : Value)
  | ne (target : Value)
  | gt (target : Value)
  | gte (target : Value)
  | lt (target : Value)
  | lte (target : Value)
  | oneOf (targets : List Value)
  | noneOf (targets : List Value)
  | present (wanted : Bool)
  | kind (name : String)
  | pattern (r : Regex)
  /-- Not all of the tests are passed. -/
  | not (tests : List FieldTest)
deriving Repr

/-- A condition on documents. -/
inductive Filter where
  | field (path : String) (tests : List FieldTest)
  | every (filters : List Filter)
  | any (filters : List Filter)
  | none (filters : List Filter)
deriving Repr

namespace FieldTest

/-- Equality with a target; a missing field equals null. -/
def holdsEq (value : Option Value) (target : Value) : Bool :=
  match value with
  | some v => v.equalsOrContains target
  | Option.none => target.isNull

/-- Whether a value, or an item of it if it is an array, stands to the target in an accepted
order. -/
def holdsOrder (accept : Ordering → Bool) (value : Option Value) (target : Value) : Bool :=
  let accepted (v : Value) : Bool := (v.compare? target).any accept
  match value with
  | some (.array items) => items.any accepted
  | some v => accepted v
  | Option.none => false

mutual

/-- Whether the value at a path, if there is one, passes a test. -/
def holds : FieldTest → Option Value → Bool
  | eq target, value => holdsEq value target
  | ne target, value => !holdsEq value target
  | gt target, value => holdsOrder (· == .gt) value target
  | gte target, value => holdsOrder (· != .lt) value target
  | lt target, value => holdsOrder (· == .lt) value target
  | lte target, value => holdsOrder (· != .gt) value target
  | oneOf targets, value => targets.any (holdsEq value)
  | noneOf targets, value => !targets.any (holdsEq value)
  | present wanted, value => value.isSome == wanted
  | kind name, value => value.any (·.isKind name)
  | pattern r, value =>
    match value with
    | some (.string s) => r.isMatch s
    | _ => false
  | not tests, value => !allHold tests value

/-- Whether a value passes all of the tests. -/
def allHold : List FieldTest → Option Value → Bool
  | [], _ => true
  | t :: ts, value => t.holds value && allHold ts value

end

end FieldTest

namespace Filter

/-- The filter without conditions. -/
def all : Filter := every []

/-- Whether a filter has no conditions at all. -/
def isTrivial : Filter → Bool
  | every [] => true
  | _ => false

mutual

/-- Whether a document is wanted. -/
def accepts : Filter → Document → Bool
  | field path tests, d => FieldTest.allHold tests (d.get? path)
  | every filters, d => allMatch filters d
  | any filters, d => anyMatches filters d
  | none filters, d => !anyMatches filters d

/-- Whether all of the filters want a document. -/
def allMatch : List Filter → Document → Bool
  | [], _ => true
  | f :: fs, d => f.accepts d && allMatch fs d

/-- Whether some of the filters wants a document. -/
def anyMatches : List Filter → Document → Bool
  | [], _ => false
  | f :: fs, d => f.accepts d || anyMatches fs d

end

/-- A filter without conditions wants every document. -/
theorem accepts_of_isTrivial {f : Filter} (h : f.isTrivial = true) (d : Document) :
    f.accepts d = true := by
  unfold isTrivial at h
  split at h
  · simp only [accepts, allMatch]
  · cases h

end Filter

end DocStore
