import DocStore.Client.Codec
import DocStore.Client.Request
import DocStore.Stream.Basic
import DocStore.Text.Quoted

/-!
# DocStore — cursors of a client

The results of a pipeline come in batches: the first with the reply that opens the cursor, later
ones by `getMore`, each with a binding of its own. A cursor knows the id under which the server
keeps what is left, `0` once nothing is; whoever has no more use for it gives it up
(`ResultCursor.discard`), which kills what the server keeps.
-/

namespace DocStore

/-- A cursor over results of the type that `decoder` reads. -/
structure ResultCursor (α : Type) where
  ns : Namespace
  decoder : Decoder α
  /-- The batch that came when the cursor was opened, until it is taken. -/
  pending : Option (List Document)
  /-- The server's id of what is left. -/
  id : CursorId
  batchSize : Option Nat

namespace ResultCursor

/-- Run a pipeline and open a cursor over its results. -/
def «open» (ns : Namespace) (decoder : Decoder α) (pipeline : List Document)
    (batchSize : Option Nat) (s : Server) : Except ClientError (ResultCursor α) × Server :=
  match s.read (.aggregate ns pipeline batchSize) with
  | (.error e, s) => (.error e, s)
  | (.ok first, s) => (.ok ⟨ns, decoder, some first.documents, first.id, batchSize⟩, s)

/-- Whether a fetch may yield something. -/
def hasNext (c : ResultCursor α) : Bool := c.pending.isSome || c.id != 0

/-- The next batch. The cursor is past a batch also when some of its documents cannot be read. -/
def nextBatch (c : ResultCursor α) (s : Server) :
    Except ClientError (List α) × ResultCursor α × Server :=
  match c.pending with
  | some documents => (c.decoder.decodeAll documents, { c with pending := none }, s)
  | none =>
    if c.id = 0 then (.error .cursorExhausted, c, s)
    else
      match s.read (.getMore c.ns c.id c.batchSize) with
      | (.error e, s) => (.error e, c, s)
      | (.ok batch, s) => (c.decoder.decodeAll batch.documents, { c with id := batch.id }, s)

/-- How many documents are left: those of the first batch, and those that the server keeps. -/
def documentsLeft (c : ResultCursor α) (s : Server) : Nat :=
  (c.pending.getD []).length + ((s.engine.cursor? c.id).map (·.remaining.length)).getD 0

instance : BatchSource (ResultCursor α) Server α where
  hasNext := hasNext
  nextBatch := nextBatch
  bound c s := c.documentsLeft s + 3

/-- Give a cursor up. What the server keeps of it is killed, if the server is open; that this may
fail does not matter to anyone. -/
def discard (c : ResultCursor α) (s : Server) : Server :=
  if c.id = 0 || s.isClosed then s else (s.write (.killCursors c.ns [c.id])).2

end ResultCursor

/-- A stream over the results of a pipeline. -/
abbrev ResultStream (α : Type) := ItemStream (ResultCursor α) α

/-- Give a stream up, and its cursor with it. -/
def ResultStream.discard (r : ResultStream α) (s : Server) : Server := r.source.discard s

end DocStore
