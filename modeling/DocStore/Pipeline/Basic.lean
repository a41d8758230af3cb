import DocStore.Filter.Reader
import DocStore.Pipeline.Group
import DocStore.Pipeline.Project

/-!
# DocStore — pipelines

A pipeline is a list of stages. Each stage makes a list of documents of another one, and the
pipeline runs them from the first to the last (`Pipeline.run`).
-/

namespace DocStore

/-- A stage of a pipeline. -/
inductive Stage where
  | filter (f : Filter)
  | project (p : Projection)
  | group (g : Grouping)
  | sort (order : SortOrder)
  | limit (n : Nat)
  | skip (n : Nat)
  | count (name : String)
deriving Repr

/-- A list of stages. -/
abbrev Pipeline := List Stage

/-- What a stage makes of documents. -/
def Stage.run : Stage → List Document → List Document
  | filter f, ds => ds.filter f.accepts
  | project p, ds => ds.map p.apply
  | group g, ds => g.apply ds
  | sort order, ds => order.sort ds
  | limit n, ds => ds.take n
  | skip n, ds => ds.drop n
  | count name, ds => if ds.isEmpty then [] else [⟨[(name, .ofNat ds.length)]⟩]

namespace Pipeline

/-- What a pipeline makes of documents. -/
def run (p : Pipeline) (ds : List Document) : List Document := p.foldl (fun ds s => s.run ds) ds

/-! ## Reading -/

/-- The operand of `$limit` and `$skip`. -/
def readCount (stage : String) (v : Value) : Except PipelineFault Nat :=
  match v.asNat? with
  | some n => .ok n
  | none => .error (.countRequired stage)

/-- The operand of `$count`: a name that is not empty and no reference. -/
def readCountName : Value → Except PipelineFault String
  | .string s => if s.isEmpty || isOperatorName s then .error .countName else .ok s
  | _ => .error .countName

/-- A stage other than `$match`. -/
def readNamed (name : String) (spec : Value) : Except PipelineFault Stage :=
  match name with
  | "$project" => (Projection.read spec).map .project
  | "$group" => (Grouping.read spec).map .group
  | "$sort" => (SortOrder.read spec).map .sort
  | "$limit" => (readCount name spec).map .limit
  | "$skip" => (readCount name spec).map .skip
  | "$count" => (readCountName spec).map .count
  | _ => .error (.unknownStage name)

/-- A stage, an object of one operator. -/
def readStage : Value → Except EngineError Stage
  | .object [(name, spec)] =>
    if name = "$match" then (Filter.ofValue spec).map .filter
    else (readNamed name spec).mapError .aggregation
  | .object _ => .error (.aggregation .stageOperators)
  | _ => .error (.aggregation .stageNotAnObject)

/-- The stages of a list; the first one that is wrong decides the error. -/
def ofStages : List Value → Except EngineError Pipeline
  | [] => .ok []
  | v :: vs => do
    let s ← readStage v
    let rest ← ofStages vs
    .ok (s :: rest)

/-- The pipeline that a value stands for. -/
def ofValue : Value → Except EngineError Pipeline
  | .array vs => ofStages vs
  | _ => .error (.aggregation .notAnArray)

end Pipeline

end DocStore
