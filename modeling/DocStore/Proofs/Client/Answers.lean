import DocStore.Proofs.Client.Drain
import DocStore.Proofs.Engine.Refusals

/-!
# DocStore — requests are answered with what the engine computes

A request goes through two documents: the command, which the engine reads, and the reply, which the
client reads. Neither loses anything. What comes out at the end is what the engine computes from what it
holds (`ReadRequest.result`, `WriteRequest.result`), or the error with which it gives up.

* **`Engine.fst_run`** — a command document that is named is read and performed.
* **`ReadRequest.answered_eq`**, **`WriteRequest.answered_eq`** — the two documents of a request drop out.
  One case for each kind of request, with the two halves that belong together: what is written and read
  of the command, and what is written and read of the reply.
* **`Server.Accounts.run_of_held`**, **`Server.Accounts.send_of_open`** — so it is with a request that is
  sent through a binding, whatever other bindings are held.
* **`TypedCollection.fst_insertEncoded`** — the one call that makes more of an answer than the request.
-/

namespace DocStore

/-! ## §1 — what a request comes to -/

namespace Engine

/-- How many documents of a collection a filter accepts, all of them without one. -/
def counted (e : Engine) (ns : Namespace) (filter : Option Document) : Except EngineError Nat :=
  (Filter.ofValue ((filter.map Document.toValue).getD .null)).map
    (e.store.count ns.database.text ns.collection)

/-- The first documents of a pipeline's result, and the id of the cursor that the others get. -/
def firstBatch (e : Engine) (ns : Namespace) (pipeline : List Document) (batchSize : Option Nat) :
    Except EngineError CursorBatch :=
  (Pipeline.ofStages (pipeline.map Document.toValue)).map fun p =>
    let results := p.run (e.store.scan ns.database.text ns.collection)
    let n := batchSize.getD e.options.batchSize
    ⟨if results.drop n = [] then 0 else e.nextCursor, results.take n⟩

/-- The first documents that a cursor holds, at least one, and its id unless they are all. -/
def laterBatch (e : Engine) (ns : Namespace) (id : CursorId) (batchSize : Option Nat) :
    Except EngineError CursorBatch :=
  match e.cursor? id with
  | none => .error (.cursorNotFound id)
  | some c =>
    if c.ns ≠ ns.text then .error (.badValue (.foreignCursor id c.ns ns.text))
    else
      let n := max (batchSize.getD e.options.batchSize) 1
      .ok ⟨if c.remaining.drop n = [] then 0 else id, c.remaining.take n⟩

end Engine

/-- What the engine computes for a request that asks. The reply to a command document of the caller's
own is handed over as it is. -/
def ReadRequest.result (e : Engine) : ReadRequest α → Except EngineError α
  | count ns filter => e.counted ns filter
  | aggregate ns pipeline batchSize => e.firstBatch ns pipeline batchSize
  | getMore ns id batchSize => e.laterBatch ns id batchSize
  | command db document _ => (e.run db.text document).1
  | listCollections db => .ok (e.store.catalog.collectionNames db.text)
  | listDatabases => .ok e.store.catalog.databaseNames

/-- What the engine computes for a request that changes something. -/
def WriteRequest.result (e : Engine) : WriteRequest α → Except EngineError α
  | insert ns documents _ => (e.store.insert ns.database.text ns.collection documents).1
  | killCursors ns ids => (e.killCursors ns.text (ids.map Value.ofInt)).1.map (·.1.length)
  | dropCollection ns => (e.store.dropCollection ns.database.text ns.collection).1
  | dropDatabase db => (e.store.dropDatabase db.text).1.map fun _ => ()

/-- The ids of cursors that a request brings up have 64 bits: the one that is named, or the one that a
new cursor gets. -/
def ReadRequest.Fits (e : Engine) : ReadRequest α → Prop
  | aggregate _ _ _ => e.nextCursor < 2 ^ 63
  | getMore _ id _ => id < 2 ^ 63
  | _ => True

/-! ## §2 — the command -/

namespace Engine

variable {e : Engine} {db : String} {d : Document} {name : String}

/-- **A command document that is named** is read, and what it asks for is performed. -/
theorem fst_run (hdb : checkDatabaseName db = .ok ()) (hname : d.firstName? = some name) :
    (e.run db d).1 = (Command.ofDocument name d >>= fun c =>
      (e.countCommand.perform db c).1.map (·.put "ok" .one)) := by
  unfold run
  rw [hdb, hname]
  cases hread : Command.ofDocument name d with
  | error err => simp only [hread]; rfl
  | ok c =>
    rcases hperform : e.countCommand.perform db c with ⟨answer, e'⟩
    simp only [hread, hperform]
    cases answer <;> simp only [hperform, bind, Except.bind, Except.map]

theorem fst_performGetMore (e : Engine) (ns : Namespace) (id : CursorId) (batchSize : Option Nat) :
    (e.performGetMore ns.database.text id ns.collection batchSize).1
      = (e.laterBatch ns id batchSize).map fun batch =>
        Reply.cursor batch.id ns.text "nextBatch" batch.documents := by
  unfold performGetMore laterBatch
  rw [show namespaceText ns.database.text ns.collection = ns.text from rfl]
  cases e.cursor? id with
  | none => rfl
  | some c =>
    by_cases hns : c.ns = ns.text
    · simp only [ne_eq, hns, not_true_eq_false, if_false, List.isEmpty_iff]
      by_cases hrest : c.remaining.drop (max (batchSize.getD e.options.batchSize) 1) = []
      · rw [if_pos hrest, if_pos hrest]
        rfl
      · rw [if_neg hrest, if_neg hrest]
        rfl
    · simp only [ne_eq, hns, not_false_eq_true, if_true]
      rfl

/-- The id that comes with a first batch is `0` or a new one. -/
theorem id_of_firstBatch {e : Engine} {ns : Namespace} {pipeline : List Document}
    {batchSize : Option Nat} {batch : CursorBatch}
    (h : e.firstBatch ns pipeline batchSize = .ok batch) :
    batch.id = 0 ∨ batch.id = e.nextCursor := by
  unfold firstBatch at h
  cases hp : Pipeline.ofStages (pipeline.map Document.toValue) with
  | error err =>
    rw [hp] at h
    cases h
  | ok p =>
    rw [hp] at h
    obtain rfl := Except.ok.inj h
    dsimp only
    split
    · exact Or.inl rfl
    · exact Or.inr rfl

/-- The id that comes with a later batch is `0` or the one of the cursor. -/
theorem id_of_laterBatch {e : Engine} {ns : Namespace} {id : CursorId} {batchSize : Option Nat}
    {batch : CursorBatch} (h : e.laterBatch ns id batchSize = .ok batch) :
    batch.id = 0 ∨ batch.id = id := by
  unfold laterBatch at h
  split at h
  · cases h
  · split at h
    · cases h
    · obtain rfl := Except.ok.inj h
      simp only
      split
      · exact Or.inl rfl
      · exact Or.inr rfl

/-- Which cursors are killed and which are missed is a matter of the table of cursors. Induction on the
ids. -/
theorem fst_killCursors_eq {e e' : Engine} (h : e'.cursors = e.cursors) (ns : String)
    (ids : List Value) : (e'.killCursors ns ids).1 = (e.killCursors ns ids).1 := by
  induction ids generalizing e e' with
  | nil => rfl
  | cons v vs ih =>
    unfold killCursors
    cases v.asInt? with
    | none => rfl
    | some id =>
      have hcursor : e'.cursor? id = e.cursor? id := by
        unfold cursor?
        rw [h]
      simp only [hcursor]
      generalize (e.cursor? id).any (·.ns = ns) = found
      have hleft : (if found then e'.removeCursor id else e').cursors
          = (if found then e.removeCursor id else e).cursors := by
        cases found
        · exact h
        · exact congrArg (List.filter fun c => c.1 != id) h
      have hrest := ih hleft
      rcases hrun' : (if found then e'.removeCursor id else e').killCursors ns vs with ⟨answer, _⟩
      rcases hrun : (if found then e.removeCursor id else e).killCursors ns vs with ⟨answer', _⟩
      rw [hrun', hrun] at hrest
      obtain rfl : answer = answer' := hrest
      cases answer <;> rfl

end Engine

/-! ## §3 — the reply -/

namespace Reply

theorem countOf_count (command : String) (n : Nat) :
    countOf command "n" ((count n).put "ok" .one) = .ok n := by
  have hfield : (((count n).put "ok" .one).field? "n").bind Value.asNat? = some n := by
    show (Value.ofNat n).asNat? = some n
    simp [Value.ofNat, Value.asNat?]
  unfold countOf
  rw [hfield]

/-- Entries that are made of names are read as the names. Induction on them. -/
theorem namesOf_map {command : String} {entry : String → Value}
    (hentry : ∀ name, ((entry name).step? "name").bind Value.asString? = some name)
    (names : List String) : namesOf command (names.map entry) = .ok names := by
  induction names with
  | nil => rfl
  | cons name names ih =>
    rw [List.map_cons]
    unfold namesOf
    rw [hentry, ih]
    rfl

end Reply

namespace ReadRequest

theorem readListing_listCollections (e : Engine) (db : String) :
    readListing ((e.listCollections db).put "ok" .one)
      = .ok (e.store.catalog.collectionNames db) := by
  have hbatch : Reply.batch "listCollections" "firstBatch" ((e.listCollections db).put "ok" .one)
      = .ok ⟨0, (e.store.catalog.collectionNames db).map Reply.collectionEntry⟩ :=
    (Reply.batch_cursor (by decide) (by decide) _ _ _).trans (if_pos (by decide))
  unfold readListing
  rw [hbatch]
  show Reply.namesOf _ (((e.store.catalog.collectionNames db).map Reply.collectionEntry).map
    Document.toValue) = _
  rw [List.map_map]
  exact Reply.namesOf_map (fun _ => rfl) _

theorem readDatabases_listDatabases (e : Engine) :
    readDatabases (e.listDatabases.put "ok" .one) = .ok e.store.catalog.databaseNames :=
  Reply.namesOf_map (fun _ => rfl) _

end ReadRequest

theorem WriteRequest.readKilled_reply (killed missed : List CursorId) :
    readKilled (Document.put ⟨[("cursorsKilled", .array (killed.map Value.ofInt)),
      ("cursorsNotFound", .array (missed.map Value.ofInt))]⟩ "ok" .one) = killed.length := by
  show (killed.map Value.ofInt).length = _
  rw [List.length_map]

/-! ## §4 — both together -/

/-- What the client makes of the answer of an engine that runs the command of a request. -/
def Request.answered (r : Request α) (e : Engine) : Except ClientError α :=
  (e.run r.database.text r.command).1.mapError .engine >>= r.answer

/-- A command that is read is performed, and the reply to it is read. -/
theorem Request.answered_of_read {r : Request α} {e : Engine} {name : String}
    (hname : r.command.firstName? = some name) {c : Command}
    (hread : Command.ofDocument name r.command = .ok c) :
    r.answered e = ((e.countCommand.perform r.database.text c).1.mapError .engine >>= fun reply =>
      r.answer (reply.put "ok" .one)) := by
  unfold answered
  rw [Engine.fst_run r.database.check hname, hread]
  show (((e.countCommand.perform r.database.text c).1.map (·.put "ok" .one)).mapError _ >>= _) = _
  cases (e.countCommand.perform r.database.text c).1 <;> rfl

/-- **The two halves of a request**: the engine wraps what it computes in a reply, and the client
unwraps it. -/
theorem Request.answered_of_wrapped {r : Request α} {e : Engine} {name : String}
    (hname : r.command.firstName? = some name) {c : Command}
    (hread : Command.ofDocument name r.command = .ok c) {x : Except EngineError α}
    (wrap : α → Document) (hperform : (e.countCommand.perform r.database.text c).1 = x.map wrap)
    (hunwrap : ∀ a, x = .ok a → r.answer ((wrap a).put "ok" .one) = .ok a) :
    r.answered e = x.mapError .engine := by
  rw [answered_of_read hname hread, hperform]
  cases x with
  | error err => rfl
  | ok a => exact hunwrap a rfl

/-- A command document in which something is wrong is refused with just that. -/
theorem Request.answered_of_unread {r : Request α} {e : Engine} {name : String}
    (hname : r.command.firstName? = some name) {err : EngineError}
    (hread : Command.ofDocument name r.command = .error err) :
    r.answered e = .error (.engine err) := by
  unfold answered
  rw [Engine.fst_run r.database.check hname, hread]
  rfl

namespace ReadRequest

variable {e : Engine} (ns : Namespace)

theorem answered_count (filter : Option Document) :
    (count ns filter).request.answered e = (e.counted ns filter).mapError .engine := by
  have hread := Command.ofDocument_countCommand ns filter
  unfold Engine.counted
  cases hfilter : Filter.ofValue ((filter.map Document.toValue).getD .null) with
  | error err =>
    rw [hfilter] at hread
    exact Request.answered_of_unread (r := (count ns filter).request) rfl hread
  | ok _ =>
    rw [hfilter] at hread
    exact Request.answered_of_wrapped (r := (count ns filter).request) rfl hread Reply.count rfl
      fun n _ => Reply.countOf_count "count" n

theorem answered_aggregate (hid : e.nextCursor < 2 ^ 63) (pipeline : List Document)
    (batchSize : Option Nat) :
    (aggregate ns pipeline batchSize).request.answered e
      = (e.firstBatch ns pipeline batchSize).mapError .engine := by
  have hread := Command.ofDocument_aggregateCommand ns pipeline batchSize
  unfold Engine.firstBatch
  cases hp : Pipeline.ofStages (pipeline.map Document.toValue) with
  | error err =>
    rw [hp] at hread
    exact Request.answered_of_unread (r := (aggregate ns pipeline batchSize).request) rfl hread
  | ok p =>
    rw [hp] at hread
    have hperform := e.countCommand.performAggregate_eq ns.database.text ns.collection p batchSize
      rfl rfl
    refine Request.answered_of_wrapped (r := (aggregate ns pipeline batchSize).request) rfl hread
      (fun batch => Reply.cursor batch.id ns.text "firstBatch" batch.documents)
      (congrArg Prod.fst hperform) fun batch hbatch => ?_
    obtain rfl := Except.ok.inj hbatch
    refine (Reply.batch_cursor (by decide) (by decide) _ _ _).trans (if_pos ?_)
    dsimp only
    split
    · decide
    · exact hid

theorem answered_getMore {id : CursorId} (hid : id < 2 ^ 63) (batchSize : Option Nat) :
    (getMore ns id batchSize).request.answered e
      = (e.laterBatch ns id batchSize).mapError .engine := by
  refine Request.answered_of_wrapped (r := (getMore ns id batchSize).request) rfl
    (Command.ofDocument_getMoreCommand ns hid batchSize) _
    (e.countCommand.fst_performGetMore ns id batchSize) fun batch hbatch => ?_
  refine (Reply.batch_cursor (by decide) (by decide) _ _ _).trans (if_pos ?_)
  rcases Engine.id_of_laterBatch hbatch with hzero | hsame
  · rw [hzero]
    decide
  · rw [hsame]
    exact hid

/-- **A request that asks** is answered with what the engine computes. One case for each kind. -/
theorem answered_eq (r : ReadRequest α) (hfits : r.Fits e) :
    r.request.answered e = (r.result e).mapError .engine := by
  cases r with
  | count ns filter => exact answered_count ns filter
  | aggregate ns pipeline batchSize => exact answered_aggregate ns hfits pipeline batchSize
  | getMore ns id batchSize => exact answered_getMore ns hfits batchSize
  | command db document named =>
    show ((e.run db.text document).1.mapError ClientError.engine >>= Except.ok)
      = (e.run db.text document).1.mapError _
    cases (e.run db.text document).1 <;> rfl
  | listCollections db =>
    exact (Request.answered_of_read (r := (listCollections db).request) rfl rfl).trans
      (readListing_listCollections e.countCommand db.text)
  | listDatabases =>
    exact (Request.answered_of_read (r := listDatabases.request) rfl rfl).trans
      (readDatabases_listDatabases e.countCommand)

end ReadRequest

/-- **A request that changes something** is answered with what the engine computes. One case for each
kind. -/
theorem WriteRequest.answered_eq (r : WriteRequest α) (e : Engine) :
    r.request.answered e = (r.result e).mapError .engine := by
  cases r with
  | insert ns documents hsome =>
    refine Request.answered_of_wrapped (r := (insert ns documents hsome).request) rfl
      (Command.ofDocument_insertCommand ns hsome) Reply.count ?_
      fun n _ => Reply.countOf_count "insert" n
    show (e.countCommand.performInsert ns.database.text ns.collection documents).1
      = (e.countCommand.store.insert ns.database.text ns.collection documents).1.map Reply.count
    unfold Engine.performInsert
    rcases e.countCommand.store.insert ns.database.text ns.collection documents with ⟨answer, store⟩
    cases answer <;> rfl
  | killCursors ns ids =>
    refine (Request.answered_of_read (r := (killCursors ns ids).request) rfl
      (Command.ofDocument_killCursorsCommand ns ids)).trans ?_
    -- the client keeps only the number, so the answer is not one that it unwraps
    show ((e.countCommand.performKillCursors ns.database.text ns.collection _).1.mapError _ >>= _)
      = ((e.killCursors ns.text (ids.map Value.ofInt)).1.map _).mapError _
    rw [← Engine.fst_killCursors_eq (show e.countCommand.cursors = e.cursors from rfl)]
    unfold Engine.performKillCursors
    rw [show namespaceText ns.database.text ns.collection = ns.text from rfl]
    rcases e.countCommand.killCursors ns.text (ids.map Value.ofInt) with ⟨answer, e'⟩
    cases answer with
    | error err => rfl
    | ok found => exact congrArg Except.ok (readKilled_reply found.1 found.2)
  | dropCollection ns =>
    refine Request.answered_of_wrapped (r := (dropCollection ns).request) rfl
      (Command.ofDocument_dropCommand ns)
      (fun dropped => ⟨[("ns", .string ns.text), ("dropped", .bool dropped)]⟩) ?_ fun _ _ => rfl
    show (e.countCommand.performDrop ns.database.text ns.collection).1
      = (e.countCommand.store.dropCollection ns.database.text ns.collection).1.map _
    unfold Engine.performDrop
    rcases e.countCommand.store.dropCollection ns.database.text ns.collection with ⟨answer, store⟩
    cases answer <;> rfl
  | dropDatabase db =>
    refine Request.answered_of_wrapped (r := (dropDatabase db).request) rfl rfl
      (fun _ => ⟨[("dropped", .string db.text)]⟩) ?_ fun _ _ => rfl
    show (e.countCommand.performDropDatabase db.text).1
      = ((e.countCommand.store.dropDatabase db.text).1.map _).map _
    unfold Engine.performDropDatabase
    rcases e.countCommand.store.dropDatabase db.text with ⟨answer, store⟩
    cases answer <;> rfl

/-- For a request that changes something, the store and the table of cursors decide. -/
theorem WriteRequest.result_eq (r : WriteRequest α) {e e' : Engine} (hstore : e'.store = e.store)
    (hcursors : e'.cursors = e.cursors) : r.result e' = r.result e := by
  cases r with
  | killCursors ns ids => exact congrArg (Except.map _) (Engine.fst_killCursors_eq hcursors _ _)
  | insert | dropCollection | dropDatabase =>
    unfold result
    rw [hstore]

/-! ## §5 — through a binding -/

/-- A request that hands over a command document of the caller's own. -/
def ReadRequest.isRaw : ReadRequest α → Bool
  | command _ _ _ => true
  | _ => false

namespace Server

variable {s : Server} {held : List ConnectionId} {own : ConnectionId}

/-- **A request through a binding that is held**, whoever holds others. -/
theorem Accounts.run_of_held (h : s.Accounts held) (hopen : s.isClosed = false) (hown : own ∈ held)
    (r : Request α) : (r.run own s).1 = r.answered s.engine := by
  have hconnections := h.connections
  rw [hopen] at hconnections
  have hconnected : s.engine.connections.contains own = true := by
    rw [hconnections]
    simpa using hown
  have hcommand : s.engine.command own r.database.text r.command
      = s.engine.run r.database.text r.command := by
    unfold Engine.command
    rw [if_neg (by simp [show s.engine.closed = false from hopen]), if_pos hconnected]
  unfold Request.run Request.answered Server.command Server.answered
  rw [hcommand]
  rcases s.engine.run r.database.text r.command with ⟨answer, e⟩
  cases answer <;> rfl

theorem run_of_closed (hclosed : s.isClosed = true) (r : Request α) :
    (r.run own s).1 = .error (.engine .shutdownInProgress) := by
  unfold Request.run Server.command Server.answered Engine.command
  rw [if_pos (show s.engine.closed = true from hclosed)]
  rfl

/-- A request that is sent to a closed server is refused, and nothing else happens. -/
theorem send_of_closed (hclosed : s.isClosed = true) (r : Request α) :
    s.send r = (.error .serverClosed, s) := by
  unfold send withBinding
  rw [acquire_of_closed hclosed]
  rfl

/-- **A request with a binding of its own**, whoever holds others. -/
theorem Accounts.send_of_open (h : s.Accounts held) (hopen : s.isClosed = false) (r : Request α) :
    (s.send r).1 = r.answered s.acquire.2.engine := by
  obtain ⟨own, s₁, hacquire⟩ : ∃ own s₁, s.acquire = (.ok own, s₁) := ⟨_, _, acquire_of_open hopen⟩
  obtain ⟨hheld, hopen₁, -⟩ := h.acquire hopen hacquire
  have hrun := hheld.run_of_held hopen₁ (List.mem_append_right _ (List.mem_singleton_self own)) r
  -- the request leaves the server open, so its binding can be released
  have hserver := engine_run r own s₁
  have hdone : (r.run own s₁).2.Accounts (held ++ [own]) := by
    rw [hserver]
    exact hheld.command own _ _
  have hstill : (r.run own s₁).2.isClosed = false := by
    obtain ⟨store, cursors, nextCursor, counters, hframe⟩ :=
      s₁.engine.command_frame own r.database.text r.command
    have hengine : (r.run own s₁).2.engine = _ := (congrArg Server.engine hserver).trans hframe
    unfold isClosed
    rw [hengine]
    exact hopen₁
  rcases hrelease : (r.run own s₁).2.release own with ⟨released, s₃⟩
  obtain ⟨-, -, hreleased, -⟩ := hdone.release hrelease
  rw [hstill] at hreleased
  obtain rfl : released = .ok () := hreleased
  unfold send Server.withBinding
  rw [hacquire]
  dsimp only
  rw [hrelease, ← hrun]
  cases (r.run own s₁).1 <;> rfl

/-- **What a request that asks is answered**: what the engine computes, as long as the server is
open. -/
theorem Accounts.fst_read (h : s.Accounts held) {r : ReadRequest α} (hraw : r.isRaw = false)
    (hfits : r.Fits s.engine) :
    (s.read r).1
      = if s.isClosed then .error .serverClosed else (r.result s.engine).mapError .engine := by
  cases hstate : s.isClosed with
  | true => exact congrArg Prod.fst (send_of_closed hstate r.request)
  | false =>
    refine (h.send_of_open hstate r.request).trans ?_
    rw [acquire_of_open hstate]
    -- the connections are nothing that these requests ask about
    cases r with
    | command => cases hraw
    | count | getMore | aggregate | listCollections | listDatabases =>
      exact ReadRequest.answered_eq _ hfits

/-- **What a request that changes something is answered.** -/
theorem Accounts.fst_write (h : s.Accounts held) (r : WriteRequest α) :
    (s.write r).1
      = if s.isClosed then .error .serverClosed else (r.result s.engine).mapError .engine := by
  cases hstate : s.isClosed with
  | true => exact congrArg Prod.fst (send_of_closed hstate r.request)
  | false =>
    refine (h.send_of_open hstate r.request).trans ?_
    rw [r.answered_eq, acquire_of_open hstate]
    exact congrArg (Except.mapError ClientError.engine) (r.result_eq rfl rfl)

/-- Only what the engine computes is a value. -/
theorem eq_ok_of_answer {closed : Bool} {x : Except EngineError α} {a : α}
    (h : (if closed then .error .serverClosed else x.mapError ClientError.engine) = .ok a) :
    x = .ok a := by
  cases closed with
  | true => cases h
  | false =>
    cases x with
    | error err => cases h
    | ok b =>
      obtain rfl : b = a := Except.ok.inj h
      rfl

end Server

/-! ## §6 — inserting one document -/

/-- One document is inserted, or none. -/
theorem Store.eq_one_of_insert {store : Store} {db coll : String} {d : Document} {n : Nat}
    (h : (store.insert db coll [d]).1 = .ok n) : n = 1 := by
  have hlength : (store.host.ensureIds [d]).1.length = 1 := rfl
  unfold Store.insert at h
  simp only at h
  split at h
  · cases h
  · split at h
    · cases h
    · obtain rfl := Except.ok.inj h
      exact hlength

namespace TypedCollection

theorem insertEncoded_eq (c : TypedCollection α) (d : Document) (s : Server) :
    c.insertEncoded d s
      = ((s.write (.insert c.ns [d] rfl)).1 >>= fun n =>
          if n = 1 then .ok d.id? else .error (.unexpectedReply "insert" (.insertedCount n)),
        (s.write (.insert c.ns [d] rfl)).2) := by
  have hrequest : WriteRequest.ofDocuments c.ns [d] = .ok (.insert c.ns [d] rfl) := rfl
  unfold insertEncoded
  simp only [hrequest]
  rcases s.write (.insert c.ns [d] rfl) with ⟨answer, s'⟩
  cases answer with
  | error e => rfl
  | ok n =>
    rcases n with _ | _ | n
    · rfl
    · rfl
    · rfl

/-- **Inserting a document that is encoded** is answered with its `_id` if the store takes it. -/
theorem fst_insertEncoded (c : TypedCollection α) {s : Server} {held : List ConnectionId}
    (h : s.Accounts held) (d : Document) :
    (c.insertEncoded d s).1
      = (if s.isClosed then .error .serverClosed
          else (s.engine.store.insert c.ns.database.text c.ns.collection [d]).1.mapError .engine).map
        fun _ => d.id? := by
  rw [insertEncoded_eq, h.fst_write]
  dsimp only
  split
  · rfl
  · show ((s.engine.store.insert c.ns.database.text c.ns.collection [d]).1.mapError _ >>= _) = _
    cases hinsert : (s.engine.store.insert c.ns.database.text c.ns.collection [d]).1 with
    | error err => rfl
    | ok n =>
      obtain rfl := Store.eq_one_of_insert hinsert
      rfl

end TypedCollection

end DocStore
