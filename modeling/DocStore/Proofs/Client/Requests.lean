import Mathlib
import DocStore.Proofs.Client.Balance

/-!
# DocStore — what a request comes to

A request is sent with a binding of its own. On an open server to which nobody else holds a binding,
nothing stands between the request and the engine: its command is performed, its reply is read, and of
the binding only the account is left.

* **`Command.ofDocument_aggregateCommand`** and so on — the commands that a client writes are read as
  they were meant.
* **`Server.send_of_open`** — a request as one step of the engine.
-/

namespace DocStore

/-! ## §1 — reading what a client writes -/

namespace Command

variable (ns : Namespace)

theorem ofDocument_insertCommand {documents : List Document} (hsome : documents.isEmpty = false) :
    ofDocument "insert" (WriteRequest.insertCommand ns documents)
      = .ok (.insert ns.collection documents) := by
  have hcoll : collectionField (WriteRequest.insertCommand ns documents) "insert"
      = .ok ns.collection := collectionField_of_namespace ns rfl
  show readInsert _ = _
  unfold readInsert
  rw [hcoll]
  show (Document.ofValues (documents.map Document.toValue) >>= fun _ => _) = _
  rw [Document.ofValues_map_toValue]
  exact if_neg (by simp [hsome])

/-- A client that counts everything sends no filter, and that is the filter that accepts everything. -/
theorem ofDocument_countCommand (filter : Option Document) :
    ofDocument "count" (ReadRequest.countCommand ns filter)
      = (Filter.ofValue ((filter.map Document.toValue).getD .null)).map (.count ns.collection) := by
  have hcoll : collectionField (ReadRequest.countCommand ns filter) "count" = .ok ns.collection :=
    collectionField_of_namespace ns rfl
  have hquery : ((ReadRequest.countCommand ns filter).field? "query").getD .null
      = (filter.map Document.toValue).getD .null := by
    cases filter <;> rfl
  show readCount _ = _
  unfold readCount
  rw [hcoll, hquery]
  show (Filter.ofValue _ >>= fun _ => _) = _
  cases Filter.ofValue ((filter.map Document.toValue).getD .null) <;> rfl

theorem ofDocument_aggregateCommand (pipeline : List Document) (batchSize : Option Nat) :
    ofDocument "aggregate" (ReadRequest.aggregateCommand ns pipeline batchSize)
      = (Pipeline.ofStages (pipeline.map Document.toValue)).map
          (.aggregate ns.collection · batchSize) := by
  have hcoll : collectionField (ReadRequest.aggregateCommand ns pipeline batchSize) "aggregate"
      = .ok ns.collection := collectionField_of_namespace ns rfl
  show readAggregate _ = _
  unfold readAggregate
  rw [hcoll]
  show (Pipeline.ofStages (pipeline.map Document.toValue) >>= fun _ => _) = _
  cases Pipeline.ofStages (pipeline.map Document.toValue) with
  | error err => rfl
  | ok p => cases batchSize <;> rfl

/-- The id of a cursor has to fit into 64 bits to be read. -/
theorem ofDocument_getMoreCommand {id : CursorId} (hid : id < 2 ^ 63) (batchSize : Option Nat) :
    ofDocument "getMore" (ReadRequest.getMoreCommand ns id batchSize)
      = .ok (.getMore id ns.collection batchSize) := by
  have hfield : ((ReadRequest.getMoreCommand ns id batchSize).field? "getMore").bind Value.asInt?
      = some id := (Value.asInt?_ofInt id).trans (if_pos hid)
  have hcoll : collectionField (ReadRequest.getMoreCommand ns id batchSize) "collection"
      = .ok ns.collection := collectionField_of_namespace ns rfl
  show readGetMore _ = _
  unfold readGetMore
  simp only [hfield, hcoll]
  cases batchSize <;> rfl

theorem ofDocument_killCursorsCommand (ids : List CursorId) :
    ofDocument "killCursors" (WriteRequest.killCursorsCommand ns ids)
      = .ok (.killCursors ns.collection (ids.map Value.ofInt)) := by
  have hcoll : collectionField (WriteRequest.killCursorsCommand ns ids) "killCursors"
      = .ok ns.collection := collectionField_of_namespace ns rfl
  show readKillCursors _ = _
  unfold readKillCursors
  rw [hcoll]
  rfl

theorem ofDocument_dropCommand :
    ofDocument "drop" (WriteRequest.dropCollection ns).request.command
      = .ok (.drop ns.collection) := by
  have hcoll : collectionField (WriteRequest.dropCollection ns).request.command "drop"
      = .ok ns.collection := collectionField_of_namespace ns rfl
  show readDrop _ = _
  unfold readDrop
  rw [hcoll]
  rfl

end Command

/-! ## §2 — sending -/

namespace Server

variable {s : Server}

/-- The engine as it performs the command of a request. The request holds a binding, and the command
is counted. -/
def serving (s : Server) : Engine :=
  Engine.countCommand { s.engine with
    connections := [s.engine.nextConnection]
    nextConnection := s.engine.nextConnection + 1
    totalConnections := s.engine.totalConnections + 1 }

/-- The server with the engine that has performed the command, when the binding is released. -/
def served (s : Server) (e : Engine) : Server where
  engine := { e with connections := [] }
  bindings := { s.bindings with
    acquired := s.bindings.acquired + 1
    released := s.bindings.released + 1 }

/-- The binding of a request is the only one. -/
theorem acquire_serving (h : s.Accounts []) (hopen : s.isClosed = false) :
    ∃ s₁, s.acquire = (.ok s.engine.nextConnection, s₁) ∧
      s₁.Accounts ([] ++ [s.engine.nextConnection]) ∧ s₁.isClosed = false ∧
      s₁.engine.countCommand = s.serving ∧
      s₁.bindings = { s.bindings with acquired := s.bindings.acquired + 1 } := by
  have hconnections := h.connections
  rw [hopen] at hconnections
  have hconnections : s.engine.connections = [] := hconnections
  have hacquire := acquire_of_open hopen
  obtain ⟨hheld, hopen₁, hbindings⟩ := h.acquire hopen hacquire
  refine ⟨_, hacquire, hheld, hopen₁, ?_, hbindings⟩
  rw [hconnections]
  rfl

/-- **A request on an open server** is what its command is to the engine. -/
theorem send_of_open {α : Type} (h : s.Accounts []) (hopen : s.isClosed = false) {r : Request α}
    {name : String} (hname : r.command.firstName? = some name) {c : Command}
    (hread : Command.ofDocument name r.command = .ok c) :
    s.send r = ((s.serving.perform r.database.text c).1.mapError .engine >>= fun reply =>
      r.answer (reply.put "ok" .one), s.served (s.serving.perform r.database.text c).2) := by
  obtain ⟨s₁, hacquire, hheld, hopen₁, hserving, hbindings⟩ := acquire_serving h hopen
  have hconnected : s₁.engine.connections = [s.engine.nextConnection] := by
    have hconnections := hheld.connections
    rw [hopen₁] at hconnections
    exact hconnections
  have htakes : s₁.engine.Takes s.engine.nextConnection r.database.text r.command c :=
    ⟨hopen₁, by simp [hconnected], r.database.check, name, hname, hread⟩
  have hcommand := htakes.command
  rw [hserving] at hcommand
  -- the command leaves the binding as it is, so its release goes through
  have hframe := s₁.engine.command_frame s.engine.nextConnection r.database.text r.command
  have hstill : (s₁.engine.command s.engine.nextConnection r.database.text r.command).2.closed
      = false := by
    obtain ⟨store, cursors, nextCursor, counters, hlast⟩ := hframe
    rw [hlast]
    exact hopen₁
  have hrelease := closeConnection_of_open (hheld.of_alike hframe) hstill
  unfold send withBinding Request.run Server.command Server.release answered
  rw [hacquire]
  simp only [hcommand, hbindings] at hrelease ⊢
  rcases hperform : s.serving.perform r.database.text c with ⟨answer, e⟩
  rw [hperform] at hrelease
  cases answer with
  | error err =>
    simp only [Except.mapError] at hrelease ⊢
    rw [hrelease]
    rfl
  | ok reply =>
    simp only [Except.mapError] at hrelease ⊢
    rw [hrelease]
    simp only [bind, Except.bind]
    cases r.answer (reply.put "ok" .one) <;> rfl

/-- A request whose command is performed is answered by what its reply is read as. -/
theorem send_of_performed {α : Type} (h : s.Accounts []) (hopen : s.isClosed = false) {r : Request α}
    {name : String} (hname : r.command.firstName? = some name) {c : Command}
    (hread : Command.ofDocument name r.command = .ok c) {reply : Document} {e : Engine}
    (hperform : s.serving.perform r.database.text c = (.ok reply, e)) :
    s.send r = (r.answer (reply.put "ok" .one), s.served e) := by
  rw [send_of_open h hopen hname hread, hperform]
  rfl

end Server

end DocStore
