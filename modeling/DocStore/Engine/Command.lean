import DocStore.Namespace
import DocStore.Pipeline.Basic

/-!
# DocStore — commands

A command is a document whose first field names it. `Command.ofDocument` reads the document into
what the command asks for, or says what is wrong with it, looking at the fields in a fixed order.
Nothing of the engine's state is needed for that. Only the cursor ids of `killCursors` are left as
they stand, because they are looked at one by one while cursors are killed.
-/

namespace DocStore

/-- What a command asks for. -/
inductive Command where
  | ping
  | hello
  | buildInfo
  | serverStatus
  | insert (coll : String) (documents : List Document)
  | count (coll : String) (filter : Filter)
  | aggregate (coll : String) (pipeline : Pipeline) (batchSize : Option Nat)
  | getMore (cursor : Int) (coll : String) (batchSize : Option Nat)
  | killCursors (coll : String) (ids : List Value)
  | listCollections
  | listDatabases
  | drop (coll : String)
  | dropDatabase

namespace Command

/-- The collection that a field names. -/
def collectionField (d : Document) (field : String) : Except EngineError String := do
  let name ← d.stringField field
  (checkCollectionName name).mapError .invalidNamespace
  .ok name

/-- A name that a collection may have is read as it is. -/
theorem collectionField_of_namespace (ns : Namespace) {d : Document} {field : String}
    (h : d.field? field = some (.string ns.collection)) :
    collectionField d field = .ok ns.collection := by
  have hname : d.stringField field = .ok ns.collection := by
    unfold Document.stringField
    rw [h]
  unfold collectionField
  rw [hname]
  show ((checkCollectionName ns.collection).mapError EngineError.invalidNamespace >>= fun _ => _) = _
  rw [ns.check]
  rfl

def readInsert (d : Document) : Except EngineError Command := do
  let coll ← collectionField d "insert"
  let values ← d.arrayField "documents"
  let documents ← Document.ofValues values
  if documents.isEmpty then .error (.badValue .nothingToInsert)
  else .ok (insert coll documents)

def readCount (d : Document) : Except EngineError Command := do
  let coll ← collectionField d "count"
  let filter ← Filter.ofValue ((d.field? "query").getD .null)
  .ok (count coll filter)

/-- The batch size that a cursor document asks for. -/
def readBatchSize (cursor : Option Document) : Except EngineError (Option Nat) :=
  match cursor with
  | some c => c.countField? "batchSize"
  | none => .ok none

def readAggregate (d : Document) : Except EngineError Command := do
  let coll ← collectionField d "aggregate"
  let stages ← d.arrayField "pipeline"
  let pipeline ← Pipeline.ofStages stages
  let cursor ← d.documentField? "cursor"
  let batchSize ← readBatchSize cursor
  .ok (aggregate coll pipeline batchSize)

def readGetMore (d : Document) : Except EngineError Command := do
  match (d.field? "getMore").bind Value.asInt? with
  | none => .error (.badValue .cursorIdRequired)
  | some id =>
    let coll ← collectionField d "collection"
    let batchSize ← d.countField? "batchSize"
    .ok (getMore id coll batchSize)

def readKillCursors (d : Document) : Except EngineError Command := do
  let coll ← collectionField d "killCursors"
  let ids ← d.arrayField "cursors"
  .ok (killCursors coll ids)

def readDrop (d : Document) : Except EngineError Command := do
  let coll ← collectionField d "drop"
  .ok (drop coll)

/-- What a document of this name asks for. -/
def ofDocument (name : String) (d : Document) : Except EngineError Command :=
  match name with
  | "ping" => .ok ping
  | "hello" | "isMaster" | "ismaster" => .ok hello
  | "buildInfo" | "buildinfo" => .ok buildInfo
  | "serverStatus" => .ok serverStatus
  | "insert" => readInsert d
  | "count" => readCount d
  | "aggregate" => readAggregate d
  | "getMore" => readGetMore d
  | "killCursors" => readKillCursors d
  | "listCollections" => .ok listCollections
  | "listDatabases" => .ok listDatabases
  | "drop" => readDrop d
  | "dropDatabase" => .ok dropDatabase
  | _ => .error (.commandNotFound name)

end Command

end DocStore
