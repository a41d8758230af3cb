import DocStore.Proofs.Engine.Custody
import DocStore.Proofs.Engine.Syncs
import DocStore.Proofs.Store.Batches
import Mathlib.Data.List.Basic

/-!
# DocStore — status and history

The figures that a `serverStatus` reports are kept one by one, where things happen. Together they tell what
has happened since the start: a `Tally` counts it from the outside, call by call, from what was sent, whether
there was a reply, and the collections and cursors before and after.

* **`Engine.Call.tally`** — what one call adds to the tally, and `Engine.history` what a run of calls does.
* **`Engine.MovesBy`** — the step from one engine to another is told by a tally: the counters have grown by
  it, and no cursor has come or gone but those that it counts.
* **`Engine.Sound.movesBy_perform`**, **`Engine.Sound.movesBy_after`** — the steps: a command, with one case
  for each, and a call.
* **`Engine.Sound.movesBy_follow`** — the run, by induction on the calls.
* **`status_tells_history`** — the main statement.
-/

namespace DocStore

/-! ## §1 — tallies -/

/-- What has been done, counted. -/
structure Tally where
  /-- Documents that inserts have stored. -/
  stored : Nat := 0
  /-- Aggregates with a reply. -/
  queries : Nat := 0
  /-- Fetches from cursors with a reply. -/
  fetches : Nat := 0
  /-- Commands that were sent on an open connection, to a database that may exist, with something in them. -/
  commands : Nat := 0
  /-- Cursors that were opened because a first batch left documents behind. -/
  opened : Nat := 0
  /-- Cursors whose last document was handed out. -/
  exhausted : Nat := 0
  killed : Nat := 0
  reaped : Nat := 0
  /-- Cursors that went with their collection. -/
  dropped : Nat := 0
deriving DecidableEq, Repr

namespace Tally

instance : Add Tally where
  add t t' := {
    stored := t.stored + t'.stored
    queries := t.queries + t'.queries
    fetches := t.fetches + t'.fetches
    commands := t.commands + t'.commands
    opened := t.opened + t'.opened
    exhausted := t.exhausted + t'.exhausted
    killed := t.killed + t'.killed
    reaped := t.reaped + t'.reaped
    dropped := t.dropped + t'.dropped }

/-- The cursors that are gone, each in one of four ways. -/
def gone (t : Tally) : Nat := t.exhausted + t.killed + t.reaped + t.dropped

theorem opened_add (t t' : Tally) : (t + t').opened = t.opened + t'.opened := rfl

theorem gone_add (t t' : Tally) : (t + t').gone = t.gone + t'.gone := by
  show t.exhausted + t'.exhausted + (t.killed + t'.killed) + (t.reaped + t'.reaped)
    + (t.dropped + t'.dropped) = _
  unfold gone
  omega

end Tally

/-- The counters when a tally has been added to them. -/
def Counters.plus (k : Counters) (t : Tally) : Counters :=
  ⟨k.inserted + t.stored, k.queries + t.queries, k.getMores + t.fetches, k.commands + t.commands⟩

theorem Counters.plus_add (k : Counters) (t t' : Tally) : k.plus (t + t') = (k.plus t).plus t' := by
  simp only [plus, Nat.add_assoc]
  rfl

/-- What a command adds to the tally besides itself: it is carried out between two engines, with a reply or
without one. -/
def Command.tally (db : String) (before after : Engine) (replied : Bool) : Command → Tally
  | insert coll _ =>
    if replied then
      { stored := (after.store.scan db coll).length - (before.store.scan db coll).length }
    else {}
  | aggregate coll pipeline batchSize =>
    let results := pipeline.run (before.store.scan db coll)
    if replied then
      { queries := 1
        opened := if batchSize.getD before.options.batchSize < results.length then 1 else 0 }
    else {}
  | getMore id _ batchSize =>
    let size := max (batchSize.getD before.options.batchSize) 1
    if replied then
      { fetches := 1
        exhausted := if (before.cursor? id).any (·.remaining.length ≤ size) then 1 else 0 }
    else {}
  | killCursors coll ids =>
    -- those in front of a value that is no id are killed before the command fails
    { killed := before.cursors.countP fun c =>
        c.2.ns == namespaceText db coll && (Engine.leadingIds ids).contains c.1 }
  | drop coll =>
    if replied then { dropped := before.cursors.countP (·.2.ns == namespaceText db coll) } else {}
  | _ => {}

namespace Engine

namespace Call

/-- A command is sent on an open connection of an open engine, to a database that may exist, and says
something. -/
def counts : Call → Engine → Bool
  | command connection db d, e =>
    !e.closed && e.connections.contains connection && isDatabaseName db && !d.names.isEmpty
  | _, _ => false

/-- What a call adds to the tally. -/
def tally (c : Call) (e : Engine) : Tally :=
  match c with
  | command _ db d =>
    if c.counts e then
      { commands := 1 } +
        match d.firstName?.map (Command.ofDocument · d) with
        | some (.ok asked) => asked.tally db e (c.after e) (c.reply? e).isSome
        | _ => {}
    else {}
  | pump => if e.closed then {} else { reaped := e.cursors.countP fun c => !e.isFresh c.2 }
  | _ => {}

end Call

/-- What a run of calls comes to. -/
def history : Engine → List Call → Tally
  | _, [] => {}
  | e, c :: calls => c.tally e + history (c.after e) calls

/-! ## §2 — steps that are told by a tally -/

/-- The step from one engine to another is told by a tally. -/
structure MovesBy (e e' : Engine) (t : Tally) : Prop where
  counters : e'.counters = e.counters.plus t
  cursors : e'.cursors.length + t.gone = e.cursors.length + t.opened

variable {e e' e'' : Engine} {t t' : Tally} {db : String}

/-- Where nothing is counted and the cursors stay, nothing is told. -/
theorem movesBy_of_eq (hcounters : e'.counters = e.counters) (hcursors : e'.cursors = e.cursors) :
    MovesBy e e' {} where
  counters := hcounters
  cursors := by rw [hcursors]; rfl

theorem MovesBy.trans (h : MovesBy e e' t) (h' : MovesBy e' e'' t') : MovesBy e e'' (t + t') where
  counters := by rw [h'.counters, h.counters, Counters.plus_add]
  cursors := by
    have hfirst := h.cursors
    have hsecond := h'.cursors
    rw [Tally.gone_add, Tally.opened_add]
    omega

theorem movesBy_countCommand (e : Engine) : MovesBy e e.countCommand { commands := 1 } :=
  ⟨rfl, rfl⟩

/-! ## §3 — cursors that come and go -/

/-- Cursors go and none comes: they are counted, in whatever way they go. -/
theorem movesBy_of_filter (gone : CursorId × Cursor → Bool) (hcounters : e'.counters = e.counters.plus t)
    (hcursors : e'.cursors = e.cursors.filter fun c => !gone c) (hopened : t.opened = 0)
    (hgone : t.gone = e.cursors.countP gone) : MovesBy e e' t where
  counters := hcounters
  cursors := by
    rw [hcursors, hopened, hgone, List.countP_eq_length_filter, Nat.add_comm,
      ← List.length_eq_length_filter_add gone, Nat.add_zero]

/-- What is left of a result is one cursor more, if anything is. -/
theorem length_parkCursor (e : Engine) (ns : String) (results : List Document) (n : Nat) :
    (e.parkCursor ns (results.drop n)).2.cursors.length
      = e.cursors.length + if n < results.length then 1 else 0 := by
  unfold parkCursor
  by_cases hn : n < results.length
  · rw [if_neg (by simpa using hn), if_pos hn]
    exact List.length_append
  · rw [if_pos (by simpa using hn), if_neg hn]
    rfl

/-- A cursor that was there is one cursor less, since no other has its id. -/
theorem Sound.length_removeCursor (h : e.Sound) {id : CursorId} {c : Cursor}
    (hc : e.cursor? id = some c) : (e.removeCursor id).cursors.length + 1 = e.cursors.length := by
  have hone : e.cursors.countP (fun c => c.1 == id) = 1 := by
    have hcount : (e.cursors.map Prod.fst).count id = 1 :=
      List.count_eq_one_of_mem h.distinct (List.mem_map_of_mem (h.cursor?_eq_some_iff.mp hc))
    rw [← hcount, List.count, List.countP_map]
    rfl
  have hsplit : e.cursors.length = _ := List.length_eq_length_filter_add fun c => c.1 == id
  rw [hsplit, ← List.countP_eq_length_filter, hone, Nat.add_comm]
  rfl

/-- A fetch takes the cursor away with its last document. -/
theorem Sound.length_takeFrom (h : e.Sound) {id : CursorId} {c : Cursor} (hc : e.cursor? id = some c)
    (n : Nat) : (e.takeFrom id c n).cursors.length + (if c.remaining.length ≤ n then 1 else 0)
      = e.cursors.length := by
  unfold Engine.takeFrom
  by_cases hn : c.remaining.length ≤ n
  · rw [if_pos (by simpa using hn), if_pos hn, h.length_removeCursor hc]
  · rw [if_neg (by simpa using hn), if_neg hn]
    exact List.length_map _

/-! ## §4 — commands -/

/-- An insert that goes well stores as many documents as it counts. -/
theorem movesBy_performInsert (e : Engine) (db coll : String) (ds : List Document) :
    MovesBy e (e.performInsert db coll ds).2 ((Command.insert coll ds).tally db e
      (e.performInsert db coll ds).2 (e.performInsert db coll ds).1.toOption.isSome) := by
  unfold performInsert
  rcases hinsert : e.store.insert db coll ds with ⟨answer, store⟩
  cases answer with
  | error err => exact movesBy_of_eq rfl rfl
  | ok n =>
    obtain ⟨rfl, hgains⟩ := Store.insert_ok hinsert
    have hstored : (store.scan db coll).length - (e.store.scan db coll).length = ds.length := by
      rw [hgains.documents, List.length_append, Host.length_ensureIds, Nat.add_sub_cancel_left]
    refine ⟨?_, rfl⟩
    show _ = e.counters.plus { stored := (store.scan db coll).length - (e.store.scan db coll).length }
    rw [hstored]
    rfl

theorem movesBy_performAggregate (e : Engine) (db coll : String) (pipeline : Pipeline)
    (batchSize : Option Nat) :
    MovesBy e (e.performAggregate db coll pipeline batchSize).2
      ((Command.aggregate coll pipeline batchSize).tally db e
        (e.performAggregate db coll pipeline batchSize).2 true) where
  counters := by
    show (e.countQuery.parkCursor _ _).2.counters = _
    unfold parkCursor
    split <;> rfl
  cursors := length_parkCursor e.countQuery (namespaceText db coll)
    (pipeline.run (e.store.scan db coll)) (batchSize.getD e.options.batchSize)

/-- A fetch that goes well is counted. -/
theorem counters_performGetMore {id : CursorId} {coll : String} {batchSize : Option Nat} {reply : Document}
    (h : (e.performGetMore db id coll batchSize).1 = .ok reply) :
    (e.performGetMore db id coll batchSize).2.counters = e.counters.plus { fetches := 1 } := by
  unfold performGetMore at h ⊢
  cases hc : e.cursor? id with
  | none =>
    simp only [hc] at h
    cases h
  | some c =>
    by_cases hns : c.ns ≠ namespaceText db coll
    · simp only [hc, if_pos hns] at h
      cases h
    · simp only [if_neg hns]
      split <;> rfl

theorem Sound.movesBy_performGetMore (h : e.Sound) (db : String) (id : CursorId) (coll : String)
    (batchSize : Option Nat) :
    MovesBy e (e.performGetMore db id coll batchSize).2 ((Command.getMore id coll batchSize).tally db e
      (e.performGetMore db id coll batchSize).2
      (e.performGetMore db id coll batchSize).1.toOption.isSome) := by
  rcases performGetMore_cases e db id coll batchSize with
    ⟨err, hrun⟩ | ⟨c, n, counters, hc, -, rfl, hrun⟩
  · rw [hrun]
    exact movesBy_of_eq rfl rfl
  · have hcounters := counters_performGetMore (congrArg Prod.fst hrun)
    have hcounted : Engine.Sound { e with counters := counters } := ⟨h.given, h.left, h.distinct, h.next⟩
    have hlength := hcounted.length_takeFrom hc (max (batchSize.getD e.options.batchSize) 1)
    rw [hrun] at hcounters ⊢
    refine ⟨hcounters, ?_⟩
    simpa [Command.tally, Tally.gone, Except.toOption, hc] using hlength

/-- Cursors that are killed are those of the namespace that are named. -/
theorem Sound.movesBy_performKillCursors (h : e.Sound) (db coll : String) (ids : List Value)
    (replied : Bool) : MovesBy e (e.performKillCursors db coll ids).2
      ((Command.killCursors coll ids).tally db e (e.performKillCursors db coll ids).2 replied) := by
  rw [h.snd_performKillCursors]
  refine movesBy_of_filter _ rfl rfl rfl ?_
  simp only [Command.tally, Tally.gone, Nat.zero_add, Nat.add_zero]

theorem movesBy_performDrop (e : Engine) (db coll : String) :
    MovesBy e (e.performDrop db coll).2 ((Command.drop coll).tally db e (e.performDrop db coll).2
      (e.performDrop db coll).1.toOption.isSome) := by
  unfold performDrop
  rcases e.store.dropCollection db coll with ⟨answer, store⟩
  cases answer with
  | error err => exact movesBy_of_eq rfl rfl
  | ok dropped =>
    refine movesBy_of_filter (fun c => c.2.ns == namespaceText db coll) rfl rfl rfl ?_
    show 0 + 0 + 0 + e.cursors.countP _ = _
    rw [Nat.zero_add]

/-- **A command that is carried out** moves the engine as its tally tells. One case for each command. -/
theorem Sound.movesBy_perform (h : e.Sound) (db : String) (c : Command) :
    MovesBy e (e.perform db c).2
      (c.tally db e (e.perform db c).2 (e.perform db c).1.toOption.isSome) := by
  cases c with
  | insert coll ds => exact movesBy_performInsert e db coll ds
  | aggregate coll pipeline batchSize => exact movesBy_performAggregate e db coll pipeline batchSize
  | getMore id coll batchSize => exact h.movesBy_performGetMore db id coll batchSize
  | killCursors coll ids => exact h.movesBy_performKillCursors db coll ids _
  | drop coll => exact movesBy_performDrop e db coll
  | dropDatabase =>
    simp only [perform, performDropDatabase]
    split <;> exact movesBy_of_eq rfl rfl
  | ping | hello | buildInfo | serverStatus | count | listCollections | listDatabases =>
    exact movesBy_of_eq rfl rfl

/-! ## §5 — calls -/

variable {connection : ConnectionId} {d : Document}

theorem Call.counts_iff : (command connection db d).counts e = true ↔
    e.closed = false ∧ e.connections.contains connection = true ∧ checkDatabaseName db = .ok () ∧
      ∃ name, d.firstName? = some name := by
  have hdatabase : checkDatabaseName db = .ok () ↔ isDatabaseName db = true := by
    unfold checkDatabaseName
    split <;> simp_all
  have hname : (∃ name, d.firstName? = some name) ↔ d.names.isEmpty = false := by
    unfold Document.firstName?
    cases d.names <;> simp
  rw [hdatabase, hname]
  simp only [counts, Bool.and_eq_true, Bool.not_eq_true', and_assoc]

/-- A command that does not count leaves the engine as it is. -/
theorem command_of_not_counts (h : (Call.command connection db d).counts e = false) :
    (e.command connection db d).2 = e := by
  cases hclosed : e.closed with
  | true => rw [command_of_closed hclosed]
  | false =>
    unfold command
    rw [if_neg (by simp [hclosed])]
    split
    next hconnected =>
      unfold run
      split
      · rfl
      · rfl
      · next name hdatabase hname =>
        rw [Call.counts_iff.2 ⟨hclosed, hconnected, hdatabase, name, hname⟩] at h
        cases h
    · rfl

/-- A command that counts but cannot be read is counted, and that is all. -/
theorem command_of_unread {name : String} {err : EngineError}
    (h : (Call.command connection db d).counts e = true) (hname : d.firstName? = some name)
    (hread : Command.ofDocument name d = .error err) :
    e.command connection db d = (.error err, e.countCommand) := by
  obtain ⟨hrunning, hconnected, hdatabase, -⟩ := Call.counts_iff.1 h
  unfold command
  rw [if_neg (by simp [hrunning]), if_pos hconnected]
  unfold run
  simp only [hdatabase, hname, hread]

/-- The reply to a command that is taken is the one to what it asks for. -/
theorem Takes.isSome_reply? {c : Command} (h : e.Takes connection db d c) :
    ((Call.command connection db d).reply? e).isSome
      = (e.countCommand.perform db c).1.toOption.isSome := by
  show (e.command connection db d).1.toOption.isSome = _
  rw [h.command]
  rcases e.countCommand.perform db c with ⟨answer, e'⟩
  cases answer <;> rfl

/-- What is asked for is asked of the engine that has counted the command. -/
theorem tally_countCommand (e e' : Engine) (db : String) (replied : Bool) (c : Command) :
    c.tally db e.countCommand e' replied = c.tally db e e' replied := by
  cases c <;> rfl

/-- A command is counted, and carried out if it can be read. -/
theorem Sound.movesBy_command (h : e.Sound) (connection : ConnectionId) (db : String) (d : Document) :
    MovesBy e (e.command connection db d).2 ((Call.command connection db d).tally e) := by
  cases hcounts : (Call.command connection db d).counts e with
  | false =>
    rw [command_of_not_counts hcounts, Call.tally, hcounts]
    exact movesBy_of_eq rfl rfl
  | true =>
    obtain ⟨hrunning, hconnected, hdatabase, name, hname⟩ := Call.counts_iff.1 hcounts
    rw [Call.tally, hcounts, if_pos rfl, hname, Option.map_some]
    refine (movesBy_countCommand e).trans ?_
    cases hread : Command.ofDocument name d with
    | error err =>
      rw [command_of_unread hcounts hname hread]
      exact movesBy_of_eq rfl rfl
    | ok c =>
      have htakes : e.Takes connection db d c := ⟨hrunning, hconnected, hdatabase, name, hname, hread⟩
      have hperform := h.countCommand.movesBy_perform db c
      rw [tally_countCommand, ← htakes.isSome_reply?, ← htakes.snd_command] at hperform
      exact hperform

theorem movesBy_pump (e : Engine) : MovesBy e e.pump.2 (Call.pump.tally e) := by
  cases hclosed : e.closed with
  | true =>
    rw [pump_of_closed hclosed, Call.tally, if_pos hclosed]
    exact movesBy_of_eq rfl rfl
  | false =>
    have hpump : e.pump.2.counters = e.counters ∧
        e.pump.2.cursors = e.cursors.filter fun c => !!e.isFresh c.2 := by
      simp only [Bool.not_not]
      unfold pump
      rw [if_neg (by simp [hclosed])]
      rcases e.store.flush with ⟨answer, store⟩
      cases answer <;> exact ⟨rfl, rfl⟩
    have htally : Call.pump.tally e = { reaped := e.cursors.countP fun c => !e.isFresh c.2 } := by
      rw [Call.tally, if_neg (by simp [hclosed])]
    rw [htally]
    refine movesBy_of_filter _ hpump.1 hpump.2 rfl ?_
    simp only [Tally.gone, Nat.zero_add, Nat.add_zero]

/-- **A call that does not close the engine** moves it as its tally tells. One case for each call. -/
theorem Sound.movesBy_after (h : e.Sound) {c : Call} (hclose : c ≠ .close) :
    MovesBy e (c.after e) (c.tally e) := by
  cases c with
  | openConnection =>
    show MovesBy e e.openConnection.2 {}
    unfold openConnection
    split <;> exact movesBy_of_eq rfl rfl
  | closeConnection connection =>
    show MovesBy e (e.closeConnection connection).2 {}
    unfold closeConnection
    split
    · exact movesBy_of_eq rfl rfl
    · split <;> exact movesBy_of_eq rfl rfl
  | command connection db d => exact h.movesBy_command connection db d
  | pump => exact movesBy_pump e
  | close => exact absurd rfl hclose
  | move host => exact movesBy_of_eq rfl rfl

/-- **A run of calls** moves the engine as its history tells. Induction on the calls. -/
theorem Sound.movesBy_follow (h : e.Sound) {calls : List Call} (hclose : .close ∉ calls) :
    MovesBy e (e.follow calls) (e.history calls) := by
  induction calls generalizing e with
  | nil => exact movesBy_of_eq rfl rfl
  | cons c calls ih =>
    rw [List.mem_cons, not_or] at hclose
    have hspares : Spares 0 e (c.after e) := Call.spares h fun _ => rfl
    exact (h.movesBy_after (Ne.symm hclose.1)).trans (ih hspares.sound hclose.2)

end Engine

/-! ## §6 — what is reported -/

theorem SortedMap.find?_eq_some_iff_mem {α : Type} {m : SortedMap α} {name : String} {a : α} :
    m.find? name = some a ↔ (name, a) ∈ m.entries :=
  lookup_eq_some_iff_mem ((sorted_names m).imp fun hlt => String.ne_of_lt hlt)

namespace Store

/-- A database summed up: how many collections it has, and how many documents a scan of each of them
finds, in all. -/
def summary (s : Store) (db : String) : Value :=
  let colls := s.catalog.collectionNames db
  .object [("name", .string db), ("collections", .ofNat colls.length),
    ("objects", .ofNat (colls.map fun coll => (s.scan db coll).length).sum)]

/-- Databases are described by what is found in them under their names. -/
theorem map_describe (s : Store) :
    s.catalog.databases.entries.map describe = s.catalog.databaseNames.map s.summary := by
  rw [Catalog.databaseNames, SortedMap.names, List.map_map]
  refine List.map_congr_left ?_
  rintro ⟨db, collections⟩ hdb
  have hfound : s.catalog.database? db = some collections := SortedMap.find?_eq_some_iff_mem.2 hdb
  have hnames : s.catalog.collectionNames db = collections.names := by
    unfold Catalog.collectionNames
    rw [hfound]
  have hcounts : collections.names.map (fun coll => (s.scan db coll).length)
      = collections.entries.map fun c => c.2.documents.length := by
    rw [SortedMap.names, List.map_map]
    refine List.map_congr_left fun c hc => ?_
    have hc : s.catalog.collection? db c.1 = some c.2 := by
      unfold Catalog.collection?
      rw [hfound]
      exact SortedMap.find?_eq_some_iff_mem.2 hc
    show (s.scan db c.1).length = _
    unfold scan Catalog.documents
    rw [hc]
  show describe (db, collections) = s.summary db
  have hsize : collections.names.length = collections.size := List.length_map _
  unfold describe summary
  simp only [hnames, hcounts, hsize]
  rfl

end Store

namespace Engine

/-- The figures of a status, where a client looks for them. -/
theorem get?_status (e : Engine) :
    let reply := e.status.put "ok" .one
    reply.get? "opcounters.insert" = some (.ofNat e.counters.inserted) ∧
      reply.get? "opcounters.query" = some (.ofNat e.counters.queries) ∧
      reply.get? "opcounters.getmore" = some (.ofNat e.counters.getMores) ∧
      reply.get? "opcounters.command" = some (.ofNat e.counters.commands) ∧
      reply.get? "connections.current" = some (.ofNat e.connections.length) ∧
      reply.get? "connections.totalCreated" = some (.ofNat e.totalConnections) ∧
      reply.get? "metrics.cursor.open.total" = some (.ofNat e.cursors.length) ∧
      reply.get? "storage.databases"
        = some (.array (e.store.catalog.databaseNames.map e.store.summary)) := by
  rw [← Store.map_describe]
  exact ⟨rfl, rfl, rfl, rfl, rfl, rfl, rfl, rfl⟩

theorem Lifetime.engine_run (w : Lifetime) (calls : List Call) :
    (w.run calls).engine = w.engine.follow calls := by
  induction calls generalizing w with
  | nil => rfl
  | cons c calls ih =>
    show ((w.after c).run calls).engine = (c.after w.engine).follow calls
    rw [ih, engine_after]

variable {options : Options} {host : Host} {calls : List Call}

/-- An engine that starts has counted nothing and has no cursors, so its history is all there is. -/
theorem figures_of_start (hstart : Engine.start options host = .ok e) (hclose : .close ∉ calls) :
    let t := e.history calls
    (e.follow calls).counters = ⟨t.stored, t.queries, t.fetches, t.commands⟩ ∧
      (e.follow calls).cursors.length + t.gone = t.opened := by
  intro t
  have hmoves : MovesBy e (e.follow calls) t := (sound_of_start hstart).movesBy_follow hclose
  obtain ⟨store, -, rfl⟩ := start_eq_ok hstart
  constructor
  · rw [hmoves.counters]
    simp [Counters.plus]
  · rw [hmoves.cursors]
    exact Nat.zero_add _

/-- Until it is closed, an engine is open to those who hold its connections. -/
theorem Lifetime.serves_of_start (hstart : Engine.start options host = .ok e) (hclose : .close ∉ calls) :
    let w := Lifetime.run { engine := e } calls
    w.engine.closed = false ∧ w.engine.connections = w.held := by
  intro w
  have hopen : e.closed = false := by
    obtain ⟨store, -, rfl⟩ := start_eq_ok hstart
    rfl
  have hrunning : w.engine.closed = false := by
    rw [engine_run]
    exact open_follow_iff.2 ⟨hopen, hclose⟩
  have hif : w.engine.connections = if w.engine.closed then [] else w.held :=
    ((orderly_of_start hstart).run calls).1.connections
  rw [hif, hrunning, if_neg Bool.false_ne_true]
  exact ⟨rfl, rfl⟩

end Engine

/-- **A status tells the history.** Let any calls be made on an engine that has been started, other than to
close it, whatever becomes of them. Whoever holds a connection then is told in the status: how many documents
inserts have stored since the start, how many aggregates and fetches had a reply, and how many commands
counted, this one among them; how many connections are held, and how many were opened; how many cursors are
open, which are those that were opened for a remainder but for the exhausted, killed, reaped and dropped
ones; and of every database, in increasing order of the names, how many collections it has and how many
documents they hold. -/
theorem status_tells_history {options : Options} {host : Host} {e₀ : Engine}
    (hstart : Engine.start options host = .ok e₀) {calls : List Engine.Call} (hclose : .close ∉ calls) :
    let w := Engine.Lifetime.run { engine := e₀ } calls
    let t := e₀.history calls
    ∀ connection ∈ w.held, ∀ (db : String) (d : Document), checkDatabaseName db = .ok () →
      d.firstName? = some "serverStatus" →
      ∃ reply, (w.engine.command connection db d).1 = .ok reply ∧
        reply.get? "opcounters.insert" = some (.ofNat t.stored) ∧
        reply.get? "opcounters.query" = some (.ofNat t.queries) ∧
        reply.get? "opcounters.getmore" = some (.ofNat t.fetches) ∧
        reply.get? "opcounters.command" = some (.ofNat (t.commands + 1)) ∧
        reply.get? "connections.current" = some (.ofNat w.held.length) ∧
        reply.get? "connections.totalCreated" = some (.ofNat w.opened.length) ∧
        t.gone ≤ t.opened ∧
        reply.get? "metrics.cursor.open.total" = some (.ofNat (t.opened - t.gone)) ∧
        w.engine.store.catalog.databaseNames.Pairwise (· < ·) ∧
        reply.get? "storage.databases"
          = some (.array (w.engine.store.catalog.databaseNames.map w.engine.store.summary)) := by
  intro w t connection hheld db d hdatabase hname
  obtain ⟨hrunning, hconnections⟩ : w.engine.closed = false ∧ w.engine.connections = w.held :=
    Engine.Lifetime.serves_of_start hstart hclose
  obtain ⟨hcounters, hcursors⟩ := Engine.figures_of_start hstart hclose
  rw [← Engine.Lifetime.engine_run { engine := e₀ } calls] at hcounters hcursors
  have hleft : w.engine.cursors.length = t.opened - t.gone := Nat.eq_sub_of_add_eq hcursors
  have hcounted : w.engine.totalConnections = w.opened.length :=
    ((Engine.Lifetime.orderly_of_start hstart).run calls).1.counted
  have htakes : w.engine.Takes connection db d .serverStatus :=
    ⟨hrunning, by simpa [hconnections] using hheld, hdatabase, _, hname, rfl⟩
  obtain ⟨hinsert, hquery, hgetMore, hcommand, hcurrent, htotal, hcursor, hstorage⟩ :=
    w.engine.countCommand.get?_status
  refine ⟨w.engine.countCommand.status.put "ok" .one, by rw [htakes.command]; rfl, ?_⟩
  refine ⟨hinsert.trans ?_, hquery.trans ?_, hgetMore.trans ?_, hcommand.trans ?_, hcurrent.trans ?_,
    htotal.trans ?_, hcursors ▸ Nat.le_add_left _ _, hcursor.trans ?_,
    SortedMap.sorted_names _, hstorage⟩
  · show some (Value.ofNat w.engine.counters.inserted) = _
    rw [hcounters]
  · show some (Value.ofNat w.engine.counters.queries) = _
    rw [hcounters]
  · show some (Value.ofNat w.engine.counters.getMores) = _
    rw [hcounters]
  · show some (Value.ofNat (w.engine.counters.commands + 1)) = _
    rw [hcounters]
  · show some (Value.ofNat w.engine.connections.length) = _
    rw [hconnections]
  · show some (Value.ofNat w.engine.totalConnections) = _
    rw [hcounted]
  · show some (Value.ofNat w.engine.cursors.length) = _
    rw [hleft]

/-- Two documents are stored, and one is refused. Of three cursors with one document each, one is exhausted,
one is killed, and one is open at the end, on the connection that is left of two. -/
theorem status_tells_history_of_three_cursors :
    let host : Host := { ids := fun _ => "", showTime := fun _ => "" }
    let insert (ids : List Nat) : Engine.Call := .command 1 "db" ⟨[("insert", .string "notes"),
      ("documents", .array (ids.map fun id => .object [("_id", .ofNat id)]))]⟩
    let aggregate : Engine.Call := .command 1 "db" ⟨[("aggregate", .string "notes"), ("pipeline", .array []),
      ("cursor", .object [("batchSize", .ofNat 1)])]⟩
    let fetch : Engine.Call := .command 1 "db" ⟨[("getMore", .ofNat 1), ("collection", .string "notes")]⟩
    let kill : Engine.Call := .command 1 "db" ⟨[("killCursors", .string "notes"),
      ("cursors", .array [.ofNat 2])]⟩
    let calls := [.openConnection, .openConnection, .closeConnection 2, insert [1, 2], insert [2],
      aggregate, aggregate, aggregate, fetch, kill, .pump]
    let status : Document := ⟨[("serverStatus", .ofNat 1)]⟩
    ∃ e₀, Engine.start {} host = .ok e₀ ∧ .close ∉ calls ∧
      e₀.history calls = {
        stored := 2, queries := 3, fetches := 1, commands := 7, opened := 3, exhausted := 1, killed := 1 } ∧
      let w := Engine.Lifetime.run { engine := e₀ } calls
      w.held = [1] ∧ ∃ reply, (w.engine.command 1 "admin" status).1 = .ok reply ∧
        reply.get? "opcounters.insert" = some (.ofNat 2) ∧
        reply.get? "opcounters.command" = some (.ofNat 8) ∧
        reply.get? "metrics.cursor.open.total" = some (.ofNat 1) ∧
        reply.get? "connections.current" = some (.ofNat 1) := by
  intro host insert aggregate fetch kill calls status
  have hclose : Engine.Call.close ∉ calls := by simp [calls, insert, aggregate, fetch, kill]
  obtain ⟨e₀, hstart⟩ : ∃ e₀, Engine.start {} host = .ok e₀ := ⟨_, rfl⟩
  have htally : e₀.history calls = {
      stored := 2, queries := 3, fetches := 1, commands := 7, opened := 3, exhausted := 1, killed := 1 } := by
    obtain rfl := Except.ok.inj hstart
    decide +kernel
  have hheld : (Engine.Lifetime.run { engine := e₀ } calls).held = [1] := by
    obtain rfl := Except.ok.inj hstart
    decide +kernel
  obtain ⟨reply, hreply, hinsert, -, -, hcommand, hcurrent, -, -, hcursor, -⟩ :=
    status_tells_history hstart hclose 1 (by rw [hheld]; exact List.mem_singleton_self 1) "admin" status
      (by decide) rfl
  rw [htally] at hinsert hcommand hcursor
  rw [hheld] at hcurrent
  exact ⟨e₀, hstart, hclose, htally, hheld, reply, hreply, hinsert, hcommand, hcursor, hcurrent⟩

end DocStore
