import DocStore.Engine.Basic

/-!
# DocStore — running commands

`Engine.command` runs a command document on a connection. It checks the connection and the name of
the database, counts the command, reads what it asks for, and does it (`Engine.perform`). The reply
is a document that ends in `ok`.
-/

namespace DocStore

/-- The version that the engine reports. -/
def engineVersion : String := "0.1.0"

/-- The largest document that clients are told to send. -/
def greatestDocumentSize : Nat := 16777216

/-- The number one, as a double. -/
def Value.one : Value := .number (.double {
  negative := false
  mant := 2 ^ 52
  exp := 1022
  mant_lt := by decide
  exp_le := by decide
  canonical := Or.inr (by decide) })

namespace Reply

/-- The reply that describes a cursor and hands out a batch under a name. -/
def cursor (id : CursorId) (ns batchName : String) (batch : List Document) : Document :=
  ⟨[("cursor", .object [("id", .ofInt id), ("ns", .string ns),
    (batchName, .array (batch.map Document.toValue))])]⟩

/-- The reply that counts. -/
def count (n : Nat) : Document := ⟨[("n", .ofNat n)]⟩

def hello : Document :=
  ⟨[("isWritablePrimary", .bool true), ("ismaster", .bool true),
    ("maxBsonObjectSize", .ofNat greatestDocumentSize), ("maxWriteBatchSize", .ofNat 100000),
    ("minWireVersion", .ofNat 0), ("maxWireVersion", .ofNat 6), ("readOnly", .bool false)]⟩

def buildInfo : Document :=
  ⟨[("version", .string engineVersion), ("storageEngines", .array [.string "emberlite"]),
    ("maxBsonObjectSize", .ofNat greatestDocumentSize)]⟩

/-- How a collection is listed. -/
def collectionEntry (name : String) : Document :=
  ⟨[("name", .string name), ("type", .string "collection")]⟩

end Reply

namespace Engine

/-! ## Status -/

/-- The reply that tells what the engine has done and holds. -/
def status (e : Engine) : Document :=
  ⟨[("host", .string "embedded"),
    ("version", .string engineVersion),
    ("process", .string "emberlite"),
    ("uptime", .ofNat (e.now - e.startedAt)),
    ("localTime", .string (e.store.host.showTime e.now)),
    ("connections", .object [("current", .ofNat e.connections.length),
      ("totalCreated", .ofNat e.totalConnections)]),
    ("metrics", .object [("cursor", .object [("open", .object
      [("total", .ofNat e.cursors.length)])])]),
    ("opcounters", .object [("insert", .ofNat e.counters.inserted),
      ("query", .ofNat e.counters.queries), ("getmore", .ofNat e.counters.getMores),
      ("command", .ofNat e.counters.commands)]),
    ("storage", e.store.stats)]⟩

/-! ## Documents -/

def performInsert (e : Engine) (db coll : String) (ds : List Document) :
    Except EngineError Document × Engine :=
  match e.store.insert db coll ds with
  | (.error err, store) => (.error err, { e with store := store })
  | (.ok n, store) =>
    (.ok (Reply.count n), { e with
      store := store
      counters := { e.counters with inserted := e.counters.inserted + n } })

/-- Run a pipeline over a collection. The first batch is handed out at once, what is left is kept as
a cursor. -/
def performAggregate (e : Engine) (db coll : String) (pipeline : Pipeline)
    (batchSize : Option Nat) : Except EngineError Document × Engine :=
  let results := pipeline.run (e.store.scan db coll)
  let e := { e with counters := { e.counters with queries := e.counters.queries + 1 } }
  let size := batchSize.getD e.options.batchSize
  let ns := namespaceText db coll
  let (id, e) := e.parkCursor ns (results.drop size)
  (.ok (Reply.cursor id ns "firstBatch" (results.take size)), e)

/-- Hand out more of a cursor, at least one document. The cursor goes with its last document. -/
def performGetMore (e : Engine) (db : String) (id : CursorId) (coll : String)
    (batchSize : Option Nat) : Except EngineError Document × Engine :=
  let ns := namespaceText db coll
  match e.cursor? id with
  | none => (.error (.cursorNotFound id), e)
  | some c =>
    if c.ns ≠ ns then (.error (.badValue (.foreignCursor id c.ns ns)), e)
    else
      let size := max (batchSize.getD e.options.batchSize) 1
      let rest := c.remaining.drop size
      let e := { e with counters := { e.counters with getMores := e.counters.getMores + 1 } }
      let reply (next : CursorId) := Reply.cursor next ns "nextBatch" (c.remaining.take size)
      if rest.isEmpty then (.ok (reply 0), e.removeCursor id)
      else (.ok (reply id), e.updateCursor id { c with remaining := rest, lastUsed := e.now })

/-- Kill the cursors of a namespace by their ids, one by one: the ids of those that were killed, and
of those that were not found there. What is no id ends it, with the cursors before it killed. -/
def killCursors (e : Engine) (ns : String) :
    List Value → Except EngineError (List CursorId × List CursorId) × Engine
  | [] => (.ok ([], []), e)
  | v :: vs =>
    match v.asInt? with
    | none => (.error (.badValue .cursorIdsRequired), e)
    | some id =>
      let found := (e.cursor? id).any (·.ns = ns)
      match killCursors (if found then e.removeCursor id else e) ns vs with
      | (.error err, e) => (.error err, e)
      | (.ok (killed, missed), e) =>
        (.ok (if found then (id :: killed, missed) else (killed, id :: missed)), e)

def performKillCursors (e : Engine) (db coll : String) (ids : List Value) :
    Except EngineError Document × Engine :=
  match e.killCursors (namespaceText db coll) ids with
  | (.error err, e) => (.error err, e)
  | (.ok (killed, missed), e) =>
    (.ok ⟨[("cursorsKilled", .array (killed.map Value.ofInt)),
      ("cursorsNotFound", .array (missed.map Value.ofInt))]⟩, e)

/-! ## Collections and databases -/

def listCollections (e : Engine) (db : String) : Document :=
  Reply.cursor 0 (namespaceText db "$cmd.listCollections") "firstBatch"
    ((e.store.catalog.collectionNames db).map Reply.collectionEntry)

def listDatabases (e : Engine) : Document :=
  ⟨[("databases", .array (e.store.catalog.databaseNames.map fun name =>
    .object [("name", .string name),
      ("empty", .bool (e.store.catalog.collectionNames name).isEmpty)]))]⟩

/-- Drop a collection, and with it the cursors over it. -/
def performDrop (e : Engine) (db coll : String) : Except EngineError Document × Engine :=
  let ns := namespaceText db coll
  match e.store.dropCollection db coll with
  | (.error err, store) => (.error err, { e with store := store })
  | (.ok dropped, store) =>
    (.ok ⟨[("ns", .string ns), ("dropped", .bool dropped)]⟩, { e with
      store := store
      cursors := e.cursors.filter fun c => c.2.ns != ns })

/-- Drop a database. Cursors over its collections go on. -/
def performDropDatabase (e : Engine) (db : String) : Except EngineError Document × Engine :=
  match e.store.dropDatabase db with
  | (.error err, store) => (.error err, { e with store := store })
  | (.ok _, store) => (.ok ⟨[("dropped", .string db)]⟩, { e with store := store })

/-! ## Commands -/

/-- Do what a command asks for. -/
def perform (e : Engine) (db : String) : Command → Except EngineError Document × Engine
  | .ping => (.ok .empty, e)
  | .hello => (.ok Reply.hello, e)
  | .buildInfo => (.ok Reply.buildInfo, e)
  | .serverStatus => (.ok e.status, e)
  | .insert coll ds => e.performInsert db coll ds
  | .count coll filter => (.ok (Reply.count (e.store.count db coll filter)), e)
  | .aggregate coll pipeline batchSize => e.performAggregate db coll pipeline batchSize
  | .getMore id coll batchSize => e.performGetMore db id coll batchSize
  | .killCursors coll ids => e.performKillCursors db coll ids
  | .listCollections => (.ok (e.listCollections db), e)
  | .listDatabases => (.ok e.listDatabases, e)
  | .drop coll => e.performDrop db coll
  | .dropDatabase => e.performDropDatabase db

/-- The engine with one more command counted. -/
def countCommand (e : Engine) : Engine :=
  { e with counters := { e.counters with commands := e.counters.commands + 1 } }

/-- Run a command document on a database, on a connection that is known. -/
def run (e : Engine) (db : String) (command : Document) : Except EngineError Document × Engine :=
  match checkDatabaseName db, command.firstName? with
  | .error fault, _ => (.error (.invalidNamespace fault), e)
  | .ok (), none => (.error (.badValue .emptyCommand), e)
  | .ok (), some name =>
    let e := e.countCommand
    match Command.ofDocument name command with
    | .error err => (.error err, e)
    | .ok c =>
      match e.perform db c with
      | (.error err, e) => (.error err, e)
      | (.ok reply, e) => (.ok (reply.put "ok" .one), e)

/-- Run a command document on a connection. -/
def command (e : Engine) (connection : ConnectionId) (db : String) (command : Document) :
    Except EngineError Document × Engine :=
  if e.closed then (.error .shutdownInProgress, e)
  else if e.connections.contains connection then e.run db command
  else (.error (.unknownConnection connection), e)

end Engine

end DocStore
