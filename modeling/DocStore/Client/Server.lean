import DocStore.Client.Error
import DocStore.Engine.Run

/-!
# DocStore — the server

A server is an engine together with an account of the bindings to it. A binding is a connection that
one piece of work holds while it runs: it is acquired before the work and released after it,
whatever the work comes to (`Server.withBinding`). Nothing else opens connections of a server.
-/

namespace DocStore

/-- How many bindings there have been. -/
structure BindingStats where
  acquired : Nat := 0
  /-- Releases that were tried, whether they worked or not. -/
  released : Nat := 0
  releaseFailures : Nat := 0
deriving DecidableEq, Repr

/-- The bindings that are held. -/
def BindingStats.outstanding (b : BindingStats) : Nat := b.acquired - b.released

/-- An engine and the bindings to it. -/
structure Server where
  engine : Engine
  bindings : BindingStats := {}

namespace Server

/-- Start a server. A failure comes with the host as it was left. -/
def start (options : Options) (host : Host) : Except (EngineError × Host) Server :=
  match Engine.start options host with
  | .error e => .error e
  | .ok engine => .ok { engine }

def isClosed (s : Server) : Bool := s.engine.closed

/-- How many cursors the engine holds. -/
def openCursors (s : Server) : Nat := s.engine.cursors.length

/-- The host that the engine runs on. -/
def host (s : Server) : Host := s.engine.store.host

/-- The server with another state of its host. -/
def withHost (s : Server) (host : Host) : Server :=
  { s with engine := { s.engine with store := { s.engine.store with host } } }

/-- The answer of the engine as one of the server. -/
def answered (s : Server) (r : Except EngineError α × Engine) : Except ClientError α × Server :=
  (r.1.mapError .engine, { s with engine := r.2 })

/-! ## Bindings -/

/-- Acquire a binding: open a connection and count it. -/
def acquire (s : Server) : Except ClientError ConnectionId × Server :=
  if s.isClosed then (.error .serverClosed, s)
  else
    match s.engine.openConnection with
    | (.error e, engine) => (.error (.engine e), { s with engine := engine })
    | (.ok id, engine) => (.ok id, {
        engine
        bindings := { s.bindings with acquired := s.bindings.acquired + 1 } })

/-- Release a binding: close its connection and count the release, and the failure if it is one. -/
def release (s : Server) (binding : ConnectionId) : Except ClientError Unit × Server :=
  match s.engine.closeConnection binding with
  | (.ok (), engine) => (.ok (), {
      engine
      bindings := { s.bindings with released := s.bindings.released + 1 } })
  | (.error e, engine) => (.error (.engine e), {
      engine
      bindings := { s.bindings with
        released := s.bindings.released + 1
        releaseFailures := s.bindings.releaseFailures + 1 } })

/-- Run a command document through a binding. -/
def command (s : Server) (binding : ConnectionId) (db : String) (command : Document) :
    Except ClientError Document × Server :=
  s.answered (s.engine.command binding db command)

/-- What work with a binding comes to: a failure of the work itself, else one of the release. -/
def conclude (failure : ClientError → ε) (result : Except ε α)
    (released : Except ClientError Unit) : Except ε α :=
  match result, released with
  | .ok a, .ok () => .ok a
  | .ok _, .error e => .error (failure e)
  | .error e, _ => .error e

/-- Run work with a binding of its own, which is released after it. Without a binding the work is
not run. Failures of the binding are put among those of the work by `failure`. -/
def withBinding (failure : ClientError → ε) (work : ConnectionId → Server → Except ε α × Server)
    (s : Server) : Except ε α × Server :=
  match s.acquire with
  | (.error e, s) => (.error (failure e), s)
  | (.ok binding, s) =>
    match work binding s with
    | (result, s) =>
      match s.release binding with
      | (released, s) => (conclude failure result released, s)

/-! ## Maintenance -/

/-- Give up idle cursors and sync the journal. -/
def pump (s : Server) : Except ClientError PumpStats × Server :=
  if s.isClosed then (.error .serverClosed, s) else s.answered s.engine.pump

/-- Shut the engine down. Bindings that are still held fail to be released. -/
def close (s : Server) : Except ClientError Unit × Server := s.answered s.engine.close

end Server

end DocStore
