import DocStore.Filter.Basic

/-!
# DocStore — the order of documents

`$sort` orders documents by the values at some paths, one after the other. Values of one kind are in
the order of `Value.compare?`; values of different kinds, and arrays and objects among themselves,
are in the order of their kinds alone. The sort is stable: documents that compare equal stay as they
were.
-/

namespace DocStore

/-- The place of a value's kind among the kinds. -/
def Value.kindRank : Value → Nat
  | .null => 0
  | .number _ => 1
  | .string _ => 2
  | .object _ => 3
  | .array _ => 4
  | .bool _ => 5

/-- The order of any two values. -/
def Value.compareAny (a b : Value) : Ordering :=
  match a.compare? b with
  | some o => o
  | none => compare a.kindRank b.kindRank

/-- The order of what stands at a path in two documents; a missing value comes first. -/
def compareOptional : Option Value → Option Value → Ordering
  | none, none => .eq
  | none, some _ => .lt
  | some _, none => .gt
  | some a, some b => a.compareAny b

inductive Direction where
  | ascending
  | descending
deriving DecidableEq, Repr

/-- An order, or its opposite. -/
def Direction.orient : Direction → Ordering → Ordering
  | ascending, o => o
  | descending, o => o.swap

/-- A path to sort by. -/
structure SortKey where
  path : String
  direction : Direction
deriving DecidableEq, Repr

/-- The order of two documents by one path. -/
def SortKey.compare (k : SortKey) (a b : Document) : Ordering :=
  k.direction.orient (compareOptional (a.get? k.path) (b.get? k.path))

/-- The paths to sort by, the first one first. -/
abbrev SortOrder := List SortKey

namespace SortOrder

/-- The order of two documents: that by the first path by which they differ. -/
def compare : SortOrder → Document → Document → Ordering
  | [], _, _ => .eq
  | k :: ks, a, b => (k.compare a b).then (compare ks a b)

/-- Whether one document may stand before another. -/
def le (order : SortOrder) (a b : Document) : Bool := order.compare a b != .gt

/-- The documents in order; those that compare equal keep their places. -/
def sort (order : SortOrder) (ds : List Document) : List Document := ds.mergeSort order.le

/-! ## Reading -/

/-- The direction that an operand of `$sort` stands for. -/
def readDirection (v : Value) : Except PipelineFault Direction :=
  match v.asInt? with
  | some 1 => .ok .ascending
  | some (-1) => .ok .descending
  | _ => .error .sortDirection

/-- The paths of a `$sort` object. -/
def readKeys : List (String × Value) → Except PipelineFault SortOrder
  | [] => .ok []
  | (path, v) :: rest => do
    let direction ← readDirection v
    let keys ← readKeys rest
    .ok (⟨path, direction⟩ :: keys)

/-- The operand of `$sort`. -/
def read : Value → Except PipelineFault SortOrder
  | .object [] => .error .sortEmpty
  | .object fs => readKeys fs
  | _ => .error .sortNotAnObject

end SortOrder

end DocStore
