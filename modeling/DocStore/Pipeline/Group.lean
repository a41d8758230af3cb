import DocStore.Pipeline.Sort

/-!
# DocStore — groups

`$group` puts documents together whose keys have the same text, in the order in which the keys first
appear, and makes one row of each group: its key and what the accumulators make of its documents.
Sums and averages are computed on doubles, from the first document to the last.
-/

namespace DocStore

/-- What documents are grouped by. -/
inductive GroupKey where
  /-- The value at a path; null where there is none. -/
  | path (path : String)
  /-- One group of all documents. -/
  | constant (v : Value)
deriving Repr

/-- What is made of the documents of a group. -/
inductive Accumulator where
  | sumConstant (x : Binary64.Finite)
  | sum (path : String)
  | avg (path : String)
  | min (path : String)
  | max (path : String)
  | first (path : String)
  | last (path : String)
deriving Repr

structure Grouping where
  key : GroupKey
  accumulators : List (String × Accumulator)
deriving Repr

/-! ## Accumulators -/

/-- The value of a computed double; what is not finite has none. -/
def Value.ofBinary64 : Binary64 → Value
  | .finite x => .number (.double x)
  | _ => .null

/-- The value of a computed sum: a whole sum below `2 ^ 63` is an integer. -/
def Value.ofSum : Binary64 → Value
  | .finite x =>
    match x.toInt? with
    | some n => if n.natAbs < 2 ^ 63 then .number (.int n) else .number (.double x)
    | none => .number (.double x)
  | _ => .null

namespace Accumulator

/-- The values at a path, of the documents that have one. -/
def valuesAt (path : String) (ds : List Document) : List Value := ds.filterMap (·.get? path)

/-- The doubles of the numbers at a path. -/
def numbersAt (path : String) (ds : List Document) : List Binary64.Finite :=
  (valuesAt path ds).filterMap Value.asDouble?

/-- The better one of the best value so far and the next one, which has to be strictly better. -/
def better (wanted : Ordering) (best : Option Value) (v : Value) : Option Value :=
  match best with
  | some b => if v.compareAny b = wanted then some v else some b
  | none => some v

/-- The first of the values at a path that no other one beats; null does not take part. -/
def extreme (wanted : Ordering) (path : String) (ds : List Document) : Value :=
  (((valuesAt path ds).filter (!·.isNull)).foldl (better wanted) none).getD .null

/-- The value at a path of a document that may be absent. -/
def valueOf (path : String) (d : Option Document) : Value := (d.bind (·.get? path)).getD .null

/-- What an accumulator makes of the documents of a group. -/
def compute (a : Accumulator) (ds : List Document) : Value :=
  match a with
  | sumConstant x => .ofSum (x.mul (.ofInt ds.length))
  | sum path => .ofSum (Binary64.sum (numbersAt path ds))
  | avg path =>
    let xs := numbersAt path ds
    if xs.isEmpty then .null else .ofBinary64 ((Binary64.sum xs).divFinite (.ofInt xs.length))
  | min path => extreme .lt path ds
  | max path => extreme .gt path ds
  | first path => valueOf path ds.head?
  | last path => valueOf path ds.getLast?

end Accumulator

/-! ## Groups -/

/-- The documents of one key. -/
structure Group where
  key : Value
  members : List Document

/-- The key of a document. -/
def GroupKey.of (k : GroupKey) (d : Document) : Value :=
  match k with
  | path p => (d.get? p).getD .null
  | constant v => v

namespace Grouping

/-- Put a document into the group of its key, a new one at the end if there is none. -/
def insert (key : Value) (d : Document) : List Group → List Group
  | [] => [⟨key, [d]⟩]
  | g :: gs =>
    if g.key.text = key.text then { g with members := g.members ++ [d] } :: gs
    else g :: insert key d gs

/-- The groups of documents, in the order of their first members. -/
def groups (g : Grouping) (ds : List Document) : List Group :=
  ds.foldl (fun gs d => insert (g.key.of d) d gs) []

/-- The row of a group. -/
def row (g : Grouping) (group : Group) : Document :=
  g.accumulators.foldl (fun d a => d.put a.1 (a.2.compute group.members)) ⟨[("_id", group.key)]⟩

/-- The rows of all groups. -/
def apply (g : Grouping) (ds : List Document) : List Document := (g.groups ds).map g.row

/-! ## Reading -/

/-- The path that a field reference names. -/
def reference? : Value → Option String
  | .string s =>
    match s.toList with
    | '$' :: path => some (String.ofList path)
    | _ => none
  | _ => none

/-- The key that the operand of `_id` stands for. -/
def readKey (v : Value) : GroupKey :=
  match reference? v with
  | some path => .path path
  | none => .constant v

/-- The accumulator of an operator. -/
def readOperator (operator : String) (operand : Value) : Except PipelineFault Accumulator :=
  let withPath (make : String → Accumulator) : Except PipelineFault Accumulator :=
    match reference? operand with
    | some path => .ok (make path)
    | none => .error (.accumulatorOperand operator)
  match operator with
  | "$sum" =>
    match operand with
    | .number n => .ok (.sumConstant n.value)
    | _ => withPath .sum
  | "$avg" => withPath .avg
  | "$min" => withPath .min
  | "$max" => withPath .max
  | "$first" => withPath .first
  | "$last" => withPath .last
  | _ => .error (.unknownAccumulator operator)

/-- The accumulator of a name, an object of one operator. -/
def readAccumulator (name : String) : Value → Except PipelineFault Accumulator
  | .object [(operator, operand)] => readOperator operator operand
  | _ => .error (.accumulatorShape name)

/-- The accumulators of an object. -/
def readAccumulators : List (String × Value) → Except PipelineFault (List (String × Accumulator))
  | [] => .ok []
  | (name, v) :: rest =>
    if name = "_id" then readAccumulators rest
    else do
      let a ← readAccumulator name v
      let as ← readAccumulators rest
      .ok ((name, a) :: as)

/-- The operand of `$group`. -/
def read : Value → Except PipelineFault Grouping
  | .object fs =>
    match Fields.find? fs "_id" with
    | none => .error .groupWithoutId
    | some key => do
      let accumulators ← readAccumulators fs
      .ok ⟨readKey key, accumulators⟩
  | _ => .error .groupNotAnObject

end Grouping

end DocStore
