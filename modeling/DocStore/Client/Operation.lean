import DocStore.Client.Server

/-!
# DocStore — operations

An operation is work that a caller has written himself, run with a binding (`Server.execute`). It
sends commands through its binding, runs other operations, which get bindings of their own, closes
the server, looks at the bindings, and in the end yields a value, fails, or breaks off. Work that
breaks off takes the work around it along, and every binding on the way is released.
-/

namespace DocStore

/-- Why an operation has no value. -/
inductive Failure where
  | error (e : ClientError)
  /-- The operation broke off. No operation around it goes on. -/
  | brokenOff
deriving DecidableEq, Repr

/-- Work with a binding, step by step. -/
inductive Operation : Type → Type 1 where
  | done {α : Type} (value : α) : Operation α
  | fail {α : Type} (e : ClientError) : Operation α
  | breakOff {α : Type} : Operation α
  /-- Run a command document through the binding. -/
  | command {α : Type} (db : String) (command : Document)
      (next : Except ClientError Document → Operation α) : Operation α
  /-- Run an operation with a binding of its own. -/
  | execute {α β : Type} (inner : Operation β) (next : Except ClientError β → Operation α) :
      Operation α
  /-- Close the server. -/
  | close {α : Type} (next : Except ClientError Unit → Operation α) : Operation α
  /-- Look at the binding's id and at the account of bindings. -/
  | inspect {α : Type} (next : ConnectionId → BindingStats → Operation α) : Operation α

namespace Operation

/-- Run an operation through a binding that is held. -/
def run : Operation α → ConnectionId → Server → Except Failure α × Server
  | done value, _, s => (.ok value, s)
  | fail e, _, s => (.error (.error e), s)
  | breakOff, _, s => (.error .brokenOff, s)
  | command db c next, binding, s =>
    match s.command binding db c with
    | (reply, s) => (next reply).run binding s
  | execute inner next, binding, s =>
    match s.withBinding .error fun binding s => inner.run binding s with
    | (.ok value, s) => (next (.ok value)).run binding s
    | (.error (.error e), s) => (next (.error e)).run binding s
    | (.error .brokenOff, s) => (.error .brokenOff, s)
  | close next, binding, s =>
    match s.close with
    | (answer, s) => (next answer).run binding s
  | inspect next, binding, s => (next binding s.bindings).run binding s

end Operation

/-- Run an operation with a binding of its own. -/
def Server.execute (s : Server) (o : Operation α) : Except Failure α × Server :=
  s.withBinding .error o.run

end DocStore
