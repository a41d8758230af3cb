import DocStore.Engine.Command
import DocStore.Store

/-!
# DocStore — the engine

An engine is a store with a table of connections and a table of cursors. It is open from its start
until it is closed, and then refuses all work for good. Connections and cursors get ids that are
never given out twice. A cursor holds what is left of a result; it is given up when the engine is
pumped after the cursor has been idle too long.

Ids and counters are whole numbers here, without a bound. Where they are kept in 64 bits this is how they
count as long as a run stays below `2 ^ 63` of each; a statement that depends on it says so.
-/

namespace DocStore

/-- The id of a connection. -/
abbrev ConnectionId := Nat

/-- The id of a cursor; `0` stands for none. -/
abbrev CursorId := Int

/-- What is left of a result, and the time of its last use. -/
structure Cursor where
  ns : String
  remaining : List Document
  lastUsed : Nat

/-- What commands have done since the start. -/
structure Counters where
  inserted : Nat := 0
  queries : Nat := 0
  getMores : Nat := 0
  commands : Nat := 0
deriving DecidableEq, Repr

/-- What a pump has done. -/
structure PumpStats where
  cursorsReaped : Nat
  journalSynced : Bool
deriving DecidableEq, Repr

/-- A running engine, or one that has been closed. -/
structure Engine where
  options : Options
  store : Store
  /-- The open connections, in the order in which they were opened. -/
  connections : List ConnectionId
  /-- The open cursors, in the order in which they were opened. -/
  cursors : List (CursorId × Cursor)
  nextConnection : ConnectionId
  nextCursor : CursorId
  totalConnections : Nat
  counters : Counters
  startedAt : Nat
  closed : Bool

namespace Engine

/-- Start an engine. A failure comes with the host as it was left. -/
def start (options : Options) (host : Host) : Except (EngineError × Host) Engine :=
  match Store.open options host with
  | .error e => .error e
  | .ok store => .ok {
      options, store
      connections := []
      cursors := []
      nextConnection := 1
      nextCursor := 1
      totalConnections := 0
      counters := {}
      startedAt := host.now
      closed := false }

/-- The time at which the engine stands. -/
def now (e : Engine) : Nat := e.store.host.now

/-! ## Connections -/

/-- Open a connection. -/
def openConnection (e : Engine) : Except EngineError ConnectionId × Engine :=
  if e.closed then (.error .shutdownInProgress, e)
  else
    let id := e.nextConnection
    (.ok id, { e with
      connections := e.connections ++ [id]
      nextConnection := id + 1
      totalConnections := e.totalConnections + 1 })

/-- Close a connection. -/
def closeConnection (e : Engine) (id : ConnectionId) : Except EngineError Unit × Engine :=
  if e.connections.contains id then (.ok (), { e with connections := e.connections.erase id })
  else if e.closed then (.error .shutdownInProgress, e)
  else (.error (.unknownConnection id), e)

/-! ## Cursors -/

/-- The cursor of an id. -/
def cursor? (e : Engine) (id : CursorId) : Option Cursor := e.cursors.lookup id

/-- The engine without the cursor of an id. -/
def removeCursor (e : Engine) (id : CursorId) : Engine :=
  { e with cursors := e.cursors.filter fun c => c.1 != id }

/-- The engine with another state of the cursor of an id. -/
def updateCursor (e : Engine) (id : CursorId) (c : Cursor) : Engine :=
  { e with cursors := e.cursors.map fun old => if old.1 = id then (id, c) else old }

/-- Keep what is left of a result as a cursor. Nothing left needs no cursor, and has the id `0`. -/
def parkCursor (e : Engine) (ns : String) (remaining : List Document) : CursorId × Engine :=
  if remaining.isEmpty then (0, e)
  else
    let id := e.nextCursor
    (id, { e with
      cursors := e.cursors ++ [(id, ⟨ns, remaining, e.now⟩)]
      nextCursor := id + 1 })

/-! ## Maintenance -/

/-- Whether a cursor has been idle for less than the time after which it is given up. -/
def isFresh (e : Engine) (c : Cursor) : Bool := e.now - c.lastUsed < e.options.cursorTimeout

/-- Give up idle cursors and sync the journal. -/
def pump (e : Engine) : Except EngineError PumpStats × Engine :=
  if e.closed then (.error .shutdownInProgress, e)
  else
    let kept := e.cursors.filter fun c => e.isFresh c.2
    let reaped := e.cursors.length - kept.length
    match e.store.flush with
    | (.ok synced, store) => (.ok ⟨reaped, synced⟩, { e with cursors := kept, store := store })
    | (.error err, store) => (.error err, { e with cursors := kept, store := store })

/-- Close the engine. Closing it again does nothing. -/
def close (e : Engine) : Except EngineError Unit × Engine :=
  if e.closed then (.ok (), e)
  else
    match e.store.flush with
    | (answer, store) =>
      (answer.map fun _ => (),
        { e with closed := true, cursors := [], connections := [], store := store })

end Engine

end DocStore
