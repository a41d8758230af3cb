import DocStore.Client.Cursor

/-!
# DocStore — the client

A client owns a server and reaches databases and collections on it. A collection reads its documents
as values of one type. Every call is one request or a few, and returns its answer and the server
after it.
-/

namespace DocStore

/-! ## Databases -/

namespace DatabaseName

/-- The database of a name. -/
def resolve (name : String) : Except ClientError DatabaseName :=
  (DatabaseName.make name).mapError .invalidNamespace

/-- Run a command document and return the reply as it is. -/
def runCommand (db : DatabaseName) (document : Document) (s : Server) :
    Except ClientError Document × Server :=
  match ReadRequest.ofCommand db document with
  | .error e => (.error e, s)
  | .ok request => s.read request

/-- Drop the database. It need not be there. -/
def drop (db : DatabaseName) (s : Server) : Except ClientError Unit × Server :=
  s.write (.dropDatabase db)

/-- The names of the database's collections. -/
def collectionNames (db : DatabaseName) (s : Server) : Except ClientError (List String) × Server :=
  s.read (.listCollections db)

end DatabaseName

/-! ## Collections -/

/-- A collection whose documents are read as values of one type. -/
structure TypedCollection (α : Type) where
  ns : Namespace
  codec : Codec
  decoder : Decoder α

namespace TypedCollection

/-- The collection of a name in a database. -/
def resolve (db : DatabaseName) (name : String) (codec : Codec) (decoder : Decoder α) :
    Except ClientError (TypedCollection α) :=
  match Namespace.of db name with
  | .ok ns => .ok ⟨ns, codec, decoder⟩
  | .error e => .error (.invalidNamespace e)

/-- How many documents there are. -/
def count (c : TypedCollection α) (s : Server) : Except ClientError Nat × Server :=
  s.read (.count c.ns none)

/-- How many documents a filter accepts. -/
def countMatching (c : TypedCollection α) (filter : Document) (s : Server) :
    Except ClientError Nat × Server :=
  s.read (.count c.ns (some filter))

/-- Drop the collection. The answer says whether it was there. -/
def drop (c : TypedCollection α) (s : Server) : Except ClientError Bool × Server :=
  s.write (.dropCollection c.ns)

/-- Insert a document that is encoded. The answer is its `_id`, if it has one already. -/
def insertEncoded (c : TypedCollection α) (d : Document) (s : Server) :
    Except ClientError (Option Value) × Server :=
  match WriteRequest.ofDocuments c.ns [d] with
  | .error e => (.error e, s)
  | .ok request =>
    match s.write request with
    | (.error e, s) => (.error e, s)
    | (.ok 1, s) => (.ok d.id?, s)
    | (.ok n, s) => (.error (.unexpectedReply "insert" (.insertedCount n)), s)

/-- Insert a value. The answer is its `_id`, if the client knows it. -/
def insert (c : TypedCollection α) (v : Value) (s : Server) :
    Except ClientError (Option Value) × Server :=
  match c.codec.encodeForInsert v s.host with
  | (.error e, host) => (.error e, s.withHost host)
  | (.ok d, host) => c.insertEncoded d (s.withHost host)

end TypedCollection

/-! ## Aggregation -/

/-- A pipeline over a collection that is not run yet. -/
structure Aggregation (α : Type) where
  collection : TypedCollection α
  pipeline : List Document
  /-- Documents per batch, or as many as the engine likes. -/
  batchSize : Option Nat

/-- A pipeline over a collection, whose stages have to be objects. -/
def TypedCollection.aggregate (c : TypedCollection α) (stages : List Value)
    (batchSize : Option Nat) : Except ClientError (Aggregation α) :=
  (Codec.encodeAll stages).map fun pipeline => ⟨c, pipeline, batchSize⟩

namespace Aggregation

/-- Run the pipeline. Each call runs it again, with a cursor of its own. -/
def stream (a : Aggregation α) (s : Server) : Except ClientError (ResultStream α) × Server :=
  match ResultCursor.open a.collection.ns a.collection.decoder a.pipeline a.batchSize s with
  | (.error e, s) => (.error e, s)
  | (.ok cursor, s) => (.ok { source := cursor }, s)

/-- Run the pipeline and take all results. -/
def collect (a : Aggregation α) (s : Server) : Except ClientError (List α) × Server :=
  match a.stream s with
  | (.error e, s) => (.error e, s)
  | (.ok stream, s) =>
    match stream.collect s with
    | (results, stream, s) => (results, ResultStream.discard stream s)

end Aggregation

/-! ## The client -/

/-- A server and the codec for the documents that are stored on it. -/
structure Client where
  server : Server
  codec : Codec := {}

namespace Client

/-- Start a client with options. A failure comes with the host as it was left. -/
def start (options : Options) (host : Host) : Except (ClientError × Host) Client :=
  match Server.start options host with
  | .error (e, host) => .error (.engine e, host)
  | .ok server => .ok { server }

/-- Start a client from arguments and the environment. -/
def ofArguments (environment : String → Option String) (args : List String) (host : Host) :
    Except (ClientError × Host) Client :=
  match Options.ofEnvironment environment args with
  | .error e => .error (.engine e, host)
  | .ok options => start options host

end Client

/-- The names of the databases that hold something. -/
def Server.databaseNames (s : Server) : Except ClientError (List String) × Server :=
  s.read .listDatabases

/-! ## In words -/

namespace Namespace

/-- A namespace with its parts named. -/
def describe (ns : Namespace) : String :=
  "Namespace \x7b database: " ++ Text.quoted ns.database.text ++
    ", collection: " ++ Text.quoted ns.collection ++ " \x7d"

end Namespace

/-- A collection with its parts named. -/
def TypedCollection.describe (c : TypedCollection α) : String :=
  "Collection \x7b namespace: " ++ c.ns.describe ++ " \x7d"

/-- The state of a cursor in words. -/
def ResultCursor.describe (c : ResultCursor α) : String :=
  "CommandBatchCursor \x7b namespace: " ++ c.ns.describe ++ ", cursor_id: " ++ toString c.id ++
    ", first_batch_pending: " ++ toString c.pending.isSome ++ " \x7d"

/-- The state of a server in words. -/
def Server.describe (s : Server) : String :=
  "EmbeddedServer \x7b closed: " ++ toString s.isClosed ++
    ", bindings: BindingStats \x7b acquired: " ++ toString s.bindings.acquired ++
    ", released: " ++ toString s.bindings.released ++
    ", release_failures: " ++ toString s.bindings.releaseFailures ++ " \x7d \x7d"

end DocStore
