import DocStore.Client.Operation
import DocStore.Namespace

/-!
# DocStore — requests

A request is one command together with the reading of its reply. The requests of a client are listed
twice over by what they do: `ReadRequest` for those that ask, `WriteRequest` for those that change
what is stored or what the server holds. `Server.read` and `Server.write` send them, each with a
binding of its own.
-/

namespace DocStore

/-! ## Replies -/

/-- A batch of a cursor, and the cursor's id after it. -/
structure CursorBatch where
  id : CursorId
  documents : List Document

namespace Reply

/-- The batch that a reply hands out under a name. -/
def batch (command batchName : String) (reply : Document) : Except ClientError CursorBatch :=
  match (reply.field? "cursor").bind Value.asObject? with
  | none => .error (.unexpectedReply command .missingCursor)
  | some cursor =>
    match (Fields.find? cursor "id").bind Value.asInt? with
    | none => .error (.unexpectedReply command .missingCursorId)
    | some id =>
      match (Fields.find? cursor batchName).bind Value.asArray? with
      | none => .error (.unexpectedReply command (.missingField batchName))
      | some values =>
        match Document.ofValues values with
        | .error e => .error (.engine e)
        | .ok documents => .ok ⟨id, documents⟩

/-- The count that a reply holds as a field. -/
def countOf (command name : String) (reply : Document) : Except ClientError Nat :=
  match (reply.field? name).bind Value.asNat? with
  | some n => .ok n
  | none => .error (.unexpectedReply command (.missingField name))

/-- The names that values hold, all of which have to have one. -/
def namesOf (command : String) : List Value → Except ClientError (List String)
  | [] => .ok []
  | v :: vs =>
    match (v.step? "name").bind Value.asString? with
    | none => .error (.unexpectedReply command .entryWithoutName)
    | some name => (namesOf command vs).map (name :: ·)

end Reply

/-! ## Requests -/

/-- A command for a database, and how its reply is read. -/
structure Request (α : Type) where
  database : DatabaseName
  command : Document
  answer : Document → Except ClientError α

/-- Send a request through a binding. -/
def Request.run (r : Request α) (binding : ConnectionId) (s : Server) :
    Except ClientError α × Server :=
  match s.command binding r.database.text r.command with
  | (.error e, s) => (.error e, s)
  | (.ok reply, s) => (r.answer reply, s)

/-- Requests that ask. -/
inductive ReadRequest : Type → Type where
  /-- How many documents there are, or how many a filter accepts. -/
  | count (ns : Namespace) (filter : Option Document) : ReadRequest Nat
  /-- The first batch of a pipeline's results. -/
  | aggregate (ns : Namespace) (pipeline : List Document) (batchSize : Option Nat) :
      ReadRequest CursorBatch
  /-- The next batch of a cursor. -/
  | getMore (ns : Namespace) (id : CursorId) (batchSize : Option Nat) : ReadRequest CursorBatch
  /-- Whatever a command document asks for. -/
  | command (db : DatabaseName) (document : Document) (named : document.isEmpty = false) :
      ReadRequest Document
  | listCollections (db : DatabaseName) : ReadRequest (List String)
  | listDatabases : ReadRequest (List String)

/-- Requests that change what is stored, or what the server holds. -/
inductive WriteRequest : Type → Type where
  /-- Insert documents, at least one; how many were taken. -/
  | insert (ns : Namespace) (documents : List Document) (some : documents.isEmpty = false) :
      WriteRequest Nat
  /-- Kill cursors; how many were there. -/
  | killCursors (ns : Namespace) (ids : List CursorId) : WriteRequest Nat
  /-- Drop a collection; whether it was there. -/
  | dropCollection (ns : Namespace) : WriteRequest Bool
  | dropDatabase (db : DatabaseName) : WriteRequest Unit

namespace ReadRequest

/-- The request of a command document, which has to name a command. -/
def ofCommand (db : DatabaseName) (document : Document) :
    Except ClientError (ReadRequest Document) :=
  if h : document.isEmpty = false then .ok (.command db document h)
  else .error (.invalidDocument .emptyCommand)

/-- The command document that counts. -/
def countCommand (ns : Namespace) (filter : Option Document) : Document :=
  ⟨("count", .string ns.collection) ::
    match filter with
    | some d => [("query", d.toValue)]
    | none => []⟩

/-- A batch size as fields. -/
def batchSizeFields : Option Nat → Fields Value
  | some n => [("batchSize", .ofNat n)]
  | none => []

def aggregateCommand (ns : Namespace) (pipeline : List Document) (batchSize : Option Nat) :
    Document :=
  ⟨[("aggregate", .string ns.collection),
    ("pipeline", .array (pipeline.map Document.toValue)),
    ("cursor", .object (batchSizeFields batchSize))]⟩

def getMoreCommand (ns : Namespace) (id : CursorId) (batchSize : Option Nat) : Document :=
  ⟨("getMore", .ofInt id) :: ("collection", .string ns.collection) :: batchSizeFields batchSize⟩

/-- The documents of a listing, which fits into the first batch, by their names. -/
def readListing (reply : Document) : Except ClientError (List String) := do
  let batch ← Reply.batch "listCollections" "firstBatch" reply
  Reply.namesOf "listCollections" (batch.documents.map Document.toValue)

def readDatabases (reply : Document) : Except ClientError (List String) :=
  match (reply.field? "databases").bind Value.asArray? with
  | some values => Reply.namesOf "listDatabases" values
  | none => .error (.unexpectedReply "listDatabases" (.missingField "databases"))

/-- What is sent for a request, and how the reply is read. -/
def request : ReadRequest α → Request α
  | count ns filter => ⟨ns.database, countCommand ns filter, Reply.countOf "count" "n"⟩
  | aggregate ns pipeline batchSize =>
    ⟨ns.database, aggregateCommand ns pipeline batchSize, Reply.batch "aggregate" "firstBatch"⟩
  | getMore ns id batchSize =>
    ⟨ns.database, getMoreCommand ns id batchSize, Reply.batch "getMore" "nextBatch"⟩
  | command db document _ => ⟨db, document, .ok⟩
  | listCollections db => ⟨db, ⟨[("listCollections", .ofNat 1)]⟩, readListing⟩
  | listDatabases => ⟨.admin, ⟨[("listDatabases", .ofNat 1)]⟩, readDatabases⟩

end ReadRequest

namespace WriteRequest

/-- The request to insert documents, of which there has to be one. -/
def ofDocuments (ns : Namespace) (documents : List Document) :
    Except ClientError (WriteRequest Nat) :=
  if h : documents.isEmpty = false then .ok (.insert ns documents h)
  else .error (.invalidDocument .nothingToInsert)

def insertCommand (ns : Namespace) (documents : List Document) : Document :=
  ⟨[("insert", .string ns.collection), ("documents", .array (documents.map Document.toValue))]⟩

def killCursorsCommand (ns : Namespace) (ids : List CursorId) : Document :=
  ⟨[("killCursors", .string ns.collection), ("cursors", .array (ids.map Value.ofInt))]⟩

/-- How many cursors a reply says were killed. -/
def readKilled (reply : Document) : Nat :=
  (((reply.field? "cursorsKilled").bind Value.asArray?).getD []).length

/-- Whether a reply says that something was dropped. -/
def readDropped (reply : Document) : Bool :=
  ((reply.field? "dropped").bind Value.asBool?).getD false

/-- What is sent for a request, and how the reply is read. -/
def request : WriteRequest α → Request α
  | insert ns documents _ => ⟨ns.database, insertCommand ns documents, Reply.countOf "insert" "n"⟩
  | killCursors ns ids =>
    ⟨ns.database, killCursorsCommand ns ids, fun reply => .ok (readKilled reply)⟩
  | dropCollection ns =>
    ⟨ns.database, ⟨[("drop", .string ns.collection)]⟩, fun reply => .ok (readDropped reply)⟩
  | dropDatabase db => ⟨db, ⟨[("dropDatabase", .ofNat 1)]⟩, fun _ => .ok ()⟩

end WriteRequest

/-! ## Sending -/

namespace Server

/-- Send a request with a binding of its own. -/
def send (s : Server) (r : Request α) : Except ClientError α × Server := s.withBinding id r.run

/-- Send a request that asks. -/
def read (s : Server) (r : ReadRequest α) : Except ClientError α × Server := s.send r.request

/-- Send a request that changes something. -/
def write (s : Server) (r : WriteRequest α) : Except ClientError α × Server := s.send r.request

end Server

/-- A request as an operation, for sending it amid other work. -/
def Request.operation (r : Request α) : Operation α :=
  .command r.database.text r.command fun reply =>
    match reply.bind r.answer with
    | .ok a => .done a
    | .error e => .fail e

end DocStore
