import DocStore.Document

/-!
# DocStore — projections

`$project` makes a document of parts of another one. It either lists what to keep, each under a name
of its own, or what to leave out. The `_id` is kept unless it is left out by name.
-/

namespace DocStore

/-- What a projection says about a name. -/
inductive ProjectAction where
  | keep
  | leaveOut
  /-- The value at this path of the source document. -/
  | take (path : String)
deriving DecidableEq, Repr

/-- What a projection says about names, in order. -/
structure Projection where
  fields : List (String × ProjectAction)
deriving Repr

namespace Projection

/-- What is said about a name. -/
def action? (p : Projection) (name : String) : Option ProjectAction := p.fields.lookup name

/-- Whether the projection lists what to keep. -/
def isInclusion (p : Projection) : Bool := p.fields.any (·.2 != .leaveOut)

/-- The path that the value of a name comes from, unless the name is left out. -/
def source? (name : String) : ProjectAction → Option String
  | .keep => some name
  | .take path => some path
  | .leaveOut => none

/-- Put what a name of the list asks for, if the source document has it. -/
def takeField (d : Document) (result : Document) (field : String × ProjectAction) : Document :=
  match source? field.1 field.2 with
  | some path =>
    match d.get? path with
    | some v => result.put field.1 v
    | none => result
  | none => result

/-- The document that an inclusion starts from: the `_id` of the source, unless it is left out. -/
def start (p : Projection) (d : Document) : Document :=
  if p.action? "_id" = some .leaveOut then .empty
  else
    match d.id? with
    | some id => ⟨[("_id", id)]⟩
    | none => .empty

/-- The projection of a document. -/
def apply (p : Projection) (d : Document) : Document :=
  if p.isInclusion then p.fields.foldl (takeField d) (p.start d)
  else ⟨d.fields.filter fun field => (p.action? field.1).isNone⟩

/-! ## Reading -/

/-- What the operand of a name stands for. -/
def readAction (name : String) : Value → Except PipelineFault ProjectAction
  | .bool true => .ok .keep
  | .bool false => .ok .leaveOut
  | .number n => .ok (if n.value.units = 0 then .leaveOut else .keep)
  | .string s =>
    match s.toList with
    | '$' :: path => .ok (.take (String.ofList path))
    | _ => .error (.projectField name)
  | _ => .error (.projectField name)

/-- What an object says about its names. -/
def readFields : List (String × Value) → Except PipelineFault (List (String × ProjectAction))
  | [] => .ok []
  | (name, v) :: rest => do
    let action ← readAction name v
    let actions ← readFields rest
    .ok ((name, action) :: actions)

/-- The operand of `$project`. Names other than `_id` are all kept or all left out. -/
def read : Value → Except PipelineFault Projection
  | .object fs => do
    let fields ← readFields fs
    let p : Projection := ⟨fields⟩
    let leavesOut := fields.any fun field => field.2 = .leaveOut && field.1 != "_id"
    if p.isInclusion && leavesOut then .error .projectMixed else .ok p
  | _ => .error .projectNotAnObject

end Projection

end DocStore
