import DocStore.Proofs.Engine.Frame

/-!
# DocStore — what a refusal is about

An engine refuses work because of the connection it is asked on, or because of the work. Reading a
command document and performing what it asks for only ever fail in the second way (`OfWork`), so the
first kind of refusal is settled before a command is looked at. What is left once a document has been
read can fail in fewer ways still: for a filter or a pipeline, for an `_id` that is taken, or because
of the disk (`OfTask`).

* **`Store.ofTask_insert`**, **`Pipeline.ofTask_ofStages`** and so on — work that is so far read.
* **`Command.ofWork_ofDocument`** — reading a command document.
* **`Engine.ofWork_perform`** — performing a command, one case for each.
* **`Engine.ofWork_command`** — so a command on a connection of an open engine is refused for what it
  asks for, if at all.
-/

namespace DocStore

/-! ## §1 — failures of work -/

/-- Work may fail, but not with an error of a kind. -/
def Without {ε α : Type} (kind : ε → Bool) (x : Except ε α) : Prop :=
  ∀ err, x = .error err → kind err = false

namespace Without

variable {α β ε ε' : Type} {kind : ε → Bool}

theorem ok (a : α) : Without kind (.ok a) := fun _ h => by cases h

theorem error {err : ε} (h : kind err = false) : Without kind (.error err : Except ε α) := by
  intro err' herr
  obtain rfl : err = err' := Except.error.inj herr
  exact h

theorem bind {x : Except ε α} {f : α → Except ε β} (hx : Without kind x)
    (hf : ∀ a, Without kind (f a)) : Without kind (x >>= f) := by
  cases x with
  | error err => exact error (hx err rfl)
  | ok a => exact hf a

theorem map {x : Except ε α} (f : α → β) (hx : Without kind x) : Without kind (x.map f) := by
  cases x with
  | error err => exact error (hx err rfl)
  | ok a => exact ok (f a)

/-- Faults are reported as errors of another kind. -/
theorem mapError {x : Except ε' α} {f : ε' → ε} (hf : ∀ e, kind (f e) = false) :
    Without kind (x.mapError f) := by
  cases x with
  | error e => exact error (hf e)
  | ok a => exact ok a

/-- A failure of one piece of work is handed on as the failure of another. -/
theorem handedOn {σ : Type} {p : Except ε α × σ} (h : Without kind p.1) {err : ε}
    {rest : σ} (hp : p = (.error err, rest)) : Without kind (.error err : Except ε β) :=
  .error (h err (by rw [hp]))

theorem mono {kind' : ε → Bool} {x : Except ε α} (h : Without kind x)
    (hkind : ∀ err, kind err = false → kind' err = false) : Without kind' x :=
  fun err herr => hkind err (h err herr)

end Without

/-- Whether an error is about the connection: the engine has been closed, or does not know it. -/
def EngineError.isOfConnection : EngineError → Bool
  | shutdownInProgress | unknownConnection _ => true
  | _ => false

/-- The work may fail, but not because of the connection. -/
abbrev OfWork {α : Type} (x : Except EngineError α) : Prop := Without EngineError.isOfConnection x

/-- Whether an error is about a filter or a pipeline, an `_id` that is taken, or the disk. -/
def EngineError.isOfTask : EngineError → Bool
  | invalidQuery _ | aggregation _ | duplicateKey _ _ | io | badValue (.recordTooLong _) => true
  | _ => false

/-- The work fails with such errors only. -/
abbrev OfTask {α : Type} (x : Except EngineError α) : Prop := Without (fun err => !err.isOfTask) x

theorem OfTask.ofWork {α : Type} {x : Except EngineError α} (h : OfTask x) : OfWork x := by
  refine h.mono fun err herr => ?_
  cases err <;> first | rfl | cases herr

/-! ## §2 — reading commands -/

namespace Document

theorem ofWork_ofValue (v : Value) : OfWork (ofValue v) := by
  unfold ofValue
  split
  · exact .ok _
  · exact .error rfl

theorem ofWork_ofValues (vs : List Value) : OfWork (ofValues vs) := by
  induction vs with
  | nil => exact .ok _
  | cons v vs ih => exact .bind (ofWork_ofValue v) fun _ => .bind ih fun _ => .ok _

theorem ofWork_stringField (d : Document) (name : String) : OfWork (d.stringField name) := by
  unfold stringField
  split
  · exact .ok _
  · exact .error rfl

theorem ofWork_arrayField (d : Document) (name : String) : OfWork (d.arrayField name) := by
  unfold arrayField
  split
  · exact .ok _
  · exact .error rfl

theorem ofWork_documentField? (d : Document) (name : String) : OfWork (d.documentField? name) := by
  unfold documentField?
  split
  · exact .ok _
  · exact .ok _
  · exact .map _ (ofWork_ofValue _)

theorem ofWork_countField? (d : Document) (name : String) : OfWork (d.countField? name) := by
  unfold countField?
  split
  · exact .ok _
  · exact .ok _
  · split
    · exact .ok _
    · exact .error rfl

end Document

theorem Filter.ofTask_ofValue (v : Value) : OfTask (ofValue v) := .mapError fun _ => rfl

theorem Pipeline.ofTask_readStage (v : Value) : OfTask (readStage v) := by
  unfold readStage
  split
  · split
    · exact .map _ (Filter.ofTask_ofValue _)
    · exact .mapError fun _ => rfl
  · exact .error rfl
  · exact .error rfl

theorem Pipeline.ofTask_ofStages (vs : List Value) : OfTask (ofStages vs) := by
  induction vs with
  | nil => exact .ok _
  | cons v vs ih => exact .bind (ofTask_readStage v) fun _ => .bind ih fun _ => .ok _

namespace Command

open Document

theorem ofWork_collectionField (d : Document) (field : String) :
    OfWork (collectionField d field) :=
  .bind (ofWork_stringField d field) fun _ => .bind (.mapError fun _ => rfl) fun _ => .ok _

theorem ofWork_readBatchSize (cursor : Option Document) : OfWork (readBatchSize cursor) := by
  unfold readBatchSize
  split
  · exact ofWork_countField? _ _
  · exact .ok _

theorem ofWork_readInsert (d : Document) : OfWork (readInsert d) := by
  refine .bind (ofWork_collectionField d _) fun coll => ?_
  refine .bind (ofWork_arrayField d _) fun values => ?_
  refine .bind (ofWork_ofValues values) fun documents => ?_
  split
  · exact .error rfl
  · exact .ok _

theorem ofWork_readCount (d : Document) : OfWork (readCount d) :=
  .bind (ofWork_collectionField d _) fun _ =>
    .bind (Filter.ofTask_ofValue _).ofWork fun _ => .ok _

theorem ofWork_readAggregate (d : Document) : OfWork (readAggregate d) := by
  refine .bind (ofWork_collectionField d _) fun coll => ?_
  refine .bind (ofWork_arrayField d _) fun stages => ?_
  refine .bind (Pipeline.ofTask_ofStages stages).ofWork fun pipeline => ?_
  refine .bind (ofWork_documentField? d _) fun cursor => ?_
  exact .bind (ofWork_readBatchSize cursor) fun _ => .ok _

theorem ofWork_readGetMore (d : Document) : OfWork (readGetMore d) := by
  unfold readGetMore
  split
  · exact .error rfl
  · exact .bind (ofWork_collectionField d _) fun _ =>
      .bind (ofWork_countField? d _) fun _ => .ok _

theorem ofWork_readKillCursors (d : Document) : OfWork (readKillCursors d) :=
  .bind (ofWork_collectionField d _) fun _ => .bind (ofWork_arrayField d _) fun _ => .ok _

theorem ofWork_readDrop (d : Document) : OfWork (readDrop d) :=
  .bind (ofWork_collectionField d _) fun _ => .ok _

/-- **Reading a command document** may fail for what stands in it. -/
theorem ofWork_ofDocument (name : String) (d : Document) : OfWork (ofDocument name d) := by
  unfold ofDocument
  split
  · exact .ok _
  · exact .ok _
  · exact .ok _
  · exact .ok _
  · exact .ok _
  · exact .ok _
  · exact .ok _
  · exact ofWork_readInsert d
  · exact ofWork_readCount d
  · exact ofWork_readAggregate d
  · exact ofWork_readGetMore d
  · exact ofWork_readKillCursors d
  · exact .ok _
  · exact .ok _
  · exact ofWork_readDrop d
  · exact .ok _
  · exact .error rfl

end Command

/-! ## §3 — performing commands -/

theorem Journal.ofTask_append (j : Journal) (r : Record) (disk : Disk) :
    OfTask (j.append r disk).1 := by
  unfold append
  simp only
  split
  · split
    · exact .ok _
    · exact .error rfl
  · exact .error rfl

theorem Journal.ofTask_sync (j : Journal) (disk : Disk) : OfTask (j.sync disk).1 := by
  unfold sync
  split
  · split
    · exact .ok _
    · exact .error rfl
  · exact .ok _

namespace Store

variable (s : Store)

theorem ofTask_log (r : Record) : OfTask (s.log r).1 := by
  unfold log
  split
  · exact .ok _
  · next j _ =>
    have happend := j.ofTask_append r s.host.disk
    split
    · exact .ok _
    · next heq => exact happend.handedOn heq

theorem ofTask_insert (db coll : String) (ds : List Document) : OfTask (s.insert db coll ds).1 := by
  unfold Store.insert
  simp only
  split
  · exact .error rfl
  · have hlog := ofTask_log { s with host := (s.host.ensureIds ds).2 }
      (.insert db coll ((s.host.ensureIds ds).1.map Document.toValue))
    split
    · next heq => exact hlog.handedOn heq
    · exact .ok _

theorem ofTask_dropCollection (db coll : String) : OfTask (s.dropCollection db coll).1 := by
  unfold dropCollection
  split
  · exact .ok _
  · have hlog := s.ofTask_log (.dropCollection db coll)
    split
    · next heq => exact hlog.handedOn heq
    · exact .ok _

theorem ofTask_dropDatabase (db : String) : OfTask (s.dropDatabase db).1 := by
  unfold dropDatabase
  split
  · exact .ok _
  · have hlog := s.ofTask_log (.dropDatabase db)
    split
    · next heq => exact hlog.handedOn heq
    · exact .ok _

theorem ofTask_flush : OfTask s.flush.1 := by
  unfold flush
  split
  · exact .ok _
  · exact Journal.ofTask_sync _ _

end Store

namespace Engine

variable (e : Engine)

theorem ofWork_killCursors (ns : String) (ids : List Value) : OfWork (e.killCursors ns ids).1 := by
  induction ids generalizing e with
  | nil => exact .ok _
  | cons v vs ih =>
    unfold killCursors
    split
    · exact .error rfl
    · next id _ =>
      have hrest := ih (if (e.cursor? id).any (·.ns = ns) then e.removeCursor id else e)
      simp only
      split
      · next heq => exact hrest.handedOn heq
      · exact .ok _

/-- **Performing a command** may fail for what it asks for. One case for each command. -/
theorem ofWork_perform (db : String) (c : Command) : OfWork (e.perform db c).1 := by
  cases c with
  | insert coll ds =>
    have hinsert := (e.store.ofTask_insert db coll ds).ofWork
    simp only [perform, performInsert]
    split
    · next heq => exact hinsert.handedOn heq
    · exact .ok _
  | getMore id coll batchSize =>
    simp only [perform, performGetMore]
    split
    · exact .error rfl
    · split
      · exact .error rfl
      · split <;> exact .ok _
  | killCursors coll ids =>
    have hkill := e.ofWork_killCursors (namespaceText db coll) ids
    simp only [perform, performKillCursors]
    split
    · next heq => exact hkill.handedOn heq
    · exact .ok _
  | drop coll =>
    have hdrop := (e.store.ofTask_dropCollection db coll).ofWork
    simp only [perform, performDrop]
    split
    · next heq => exact hdrop.handedOn heq
    · exact .ok _
  | dropDatabase =>
    have hdrop := (e.store.ofTask_dropDatabase db).ofWork
    simp only [perform, performDropDatabase]
    split
    · next heq => exact hdrop.handedOn heq
    · exact .ok _
  -- the others always have a reply
  | ping => exact .ok _
  | hello => exact .ok _
  | buildInfo => exact .ok _
  | serverStatus => exact .ok _
  | count coll filter => exact .ok _
  | aggregate coll pipeline batchSize => exact .ok _
  | listCollections => exact .ok _
  | listDatabases => exact .ok _

/-- **Running a command document** on a connection that is known. -/
theorem ofWork_run (db : String) (d : Document) : OfWork (e.run db d).1 := by
  unfold run
  split
  · exact .error rfl
  · exact .error rfl
  · next name _ _ =>
    have hread := Command.ofWork_ofDocument name d
    simp only
    split
    · next heq => exact .error (hread _ heq)
    · next c _ =>
      have hperform := e.countCommand.ofWork_perform db c
      split
      · next heq => exact hperform.handedOn heq
      · exact .ok _

/-- A command on a connection of an open engine is refused for what it asks for. -/
theorem ofWork_command {connection : ConnectionId} (hopen : e.closed = false)
    (hconnected : connection ∈ e.connections) (db : String) (d : Document) :
    OfWork (e.command connection db d).1 := by
  unfold command
  rw [if_neg (by simp [hopen]), if_pos (by simpa using hconnected)]
  exact e.ofWork_run db d

theorem ofWork_pump (hopen : e.closed = false) : OfWork e.pump.1 := by
  have hflush := e.store.ofTask_flush.ofWork
  unfold pump
  rw [if_neg (by simp [hopen])]
  simp only
  split
  · exact .ok _
  · next heq => exact hflush.handedOn heq

theorem ofWork_close : OfWork e.close.1 := by
  unfold close
  split
  · exact .ok _
  · exact .map _ e.store.ofTask_flush.ofWork

end Engine

end DocStore
