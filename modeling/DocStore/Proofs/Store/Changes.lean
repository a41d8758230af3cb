import DocStore.Proofs.Journal.Crash
import DocStore.Store

/-!
# DocStore — calls on a store, and the changes they make

Everything that can be asked of a store is a `Store.Call`. A call either makes one change of the
catalog, which a record describes (`Call.change?`), or none; every proof about runs of calls goes by
these two cases and never looks into the operations again:

* **`Call.run_of_change`** — a call that has a change to make logs its record, and then, and only
  then, puts the change into the catalog.
* **`Call.run_of_no_change`** — a call that has none leaves the catalog and the journal's file.

The record says all of the change: putting it into a catalog by `Catalog.apply`, as a start does with
the records it finds, makes the very same catalog.

An operation that fails leaves the store with the contents it had (**`Store.SameContents`**).
-/

namespace DocStore

/-! ## §1 — what ids, values and syncs leave alone -/

namespace Host

def withDisk (h : Host) (disk : Disk) : Host := { h with disk := disk }

@[simp] theorem disk_withDisk (h : Host) (disk : Disk) : (h.withDisk disk).disk = disk := rfl

@[simp] theorem withDisk_withDisk (h : Host) (disk disk' : Disk) :
    (h.withDisk disk).withDisk disk' = h.withDisk disk' := rfl

@[simp] theorem withDisk_self (h : Host) : h.withDisk h.disk = h := rfl

/-- Which ids a document gets does not depend on the disk. -/
theorem ensureId_withDisk (h : Host) (disk : Disk) (d : Document) :
    (h.withDisk disk).ensureId d = ((h.ensureId d).1, (h.ensureId d).2.withDisk disk) := by
  unfold ensureId
  split <;> rfl

/-- Drawing ids for documents works on any disk alike, and leaves it alone. -/
theorem ensureIds_withDisk (h : Host) (disk : Disk) (ds : List Document) :
    (h.withDisk disk).ensureIds ds = ((h.ensureIds ds).1, (h.ensureIds ds).2.withDisk disk) := by
  induction ds generalizing h with
  | nil => rfl
  | cons d ds ih =>
    simp only [ensureIds, ensureId_withDisk, ih]

theorem disk_ensureIds (h : Host) (ds : List Document) : (h.ensureIds ds).2.disk = h.disk := by
  have hdraw := ensureIds_withDisk h h.disk ds
  rw [withDisk_self] at hdraw
  rw [hdraw, disk_withDisk]

theorem disk_ensureId (h : Host) (d : Document) : (h.ensureId d).2.disk = h.disk :=
  disk_ensureIds h [d]

/-- A document that has an `_id` stays as it is, and no id is drawn for it. -/
theorem ensureId_of_contains (h : Host) {d : Document} (hid : d.contains "_id" = true) :
    h.ensureId d = (d, h) := by
  unfold ensureId
  rw [if_pos hid]

theorem ensureIds_of_contains (h : Host) {ds : List Document}
    (hids : ∀ d ∈ ds, d.contains "_id" = true) : h.ensureIds ds = (ds, h) := by
  induction ds with
  | nil => rfl
  | cons d ds ih =>
    have hfirst := h.ensureId_of_contains (hids d List.mem_cons_self)
    have hrest := ih fun d' hd' => hids d' (List.mem_cons_of_mem _ hd')
    simp only [ensureIds, hfirst, hrest]

end Host

theorem Document.ofValues_map_toValue (ds : List Document) :
    Document.ofValues (ds.map Document.toValue) = .ok ds := by
  induction ds with
  | nil => rfl
  | cons d ds ih =>
    simp only [List.map_cons, Document.ofValues, ih]
    rfl

theorem Catalog.apply_insert (c : Catalog) (db coll : String) (ds : List Document) :
    c.apply (.insert db coll (ds.map Document.toValue)) = .ok (c.insert db coll ds) := by
  simp only [apply, Document.ofValues_map_toValue]
  rfl

/-- A sync writes nothing; it is counted at the most. -/
theorem Journal.disk_sync (j : Journal) (disk : Disk) :
    ∃ n, (j.sync disk).2.2 = { disk with syncs := n } := by
  unfold Journal.sync
  split
  · unfold Disk.sync
    cases disk.syncFails disk.syncs <;> exact ⟨_, rfl⟩
  · exact ⟨disk.syncs, rfl⟩

namespace Store

/-! ## §2 — calls and answers -/

/-- What a store can be asked. -/
inductive Call where
  | insert (db coll : String) (documents : List Document)
  | dropCollection (db coll : String)
  | dropDatabase (db : String)
  | count (db coll : String) (filter : Filter)
  | scan (db coll : String)
  | flush

/-- What it answers. -/
inductive Answer where
  | inserted (answer : Except EngineError Nat)
  | dropped (answer : Except EngineError Bool)
  | counted (n : Nat)
  | scanned (documents : List Document)
  | flushed (answer : Except EngineError Bool)

namespace Call

/-- Do what is asked. -/
def run : Call → Store → Answer × Store
  | .insert db coll ds, s => ((s.insert db coll ds).map .inserted id)
  | .dropCollection db coll, s => ((s.dropCollection db coll).map .dropped id)
  | .dropDatabase db, s => ((s.dropDatabase db).map .dropped id)
  | .count db coll f, s => (.counted (s.count db coll f), s)
  | .scan db coll, s => (.scanned (s.scan db coll), s)
  | .flush, s => (s.flush.map .flushed id)

/-- The change that a call is to make, as a record; none if it is to make none. -/
def change? : Call → Store → Option Record
  | .insert db coll ds, s =>
    let ds := (s.host.ensureIds ds).1
    match firstTaken? (s.catalog.takenIds db coll) ds with
    | some _ => none
    | none => some (.insert db coll (ds.map Document.toValue))
  | .dropCollection db coll, s =>
    (s.catalog.collection? db coll).map fun _ => .dropCollection db coll
  | .dropDatabase db, s => (s.catalog.database? db).map fun _ => .dropDatabase db
  | _, _ => none

/-- The store with the ids drawn that a call draws. -/
def drawn : Call → Store → Store
  | .insert _ _ ds, s => { s with host := (s.host.ensureIds ds).2 }
  | _, s => s

end Call

/-- Documents that have an `_id` are logged as they are. -/
theorem Call.change?_insert {s : Store} {db coll : String} {ds : List Document}
    (hids : ∀ d ∈ ds, d.contains "_id" = true) :
    Call.change? (.insert db coll ds) s =
      match firstTaken? (s.catalog.takenIds db coll) ds with
      | some _ => none
      | none => some (.insert db coll (ds.map Document.toValue)) := by
  simp only [Call.change?, Host.ensureIds_of_contains s.host hids]

/-- Nothing is taken in an empty store, so one document is always a change. -/
theorem Call.change?_insert_one (db coll : String) {s : Store} {d : Document}
    (hs : s.catalog = .empty) (hid : d.contains "_id" = true) :
    Call.change? (.insert db coll [d]) s = some (.insert db coll [d.toValue]) := by
  have hfree : firstTaken? [] [d] = none := by
    unfold firstTaken?
    cases d.idKey? <;> rfl
  have htaken : Catalog.empty.takenIds db coll = [] := rfl
  rw [Call.change?_insert (by simpa using hid), hs, htaken, hfree]
  rfl

namespace Answer

/-- How a call is answered whose change has been made. -/
def made : Record → Answer
  | .insert _ _ documents => .inserted (.ok documents.length)
  | .dropCollection _ _ | .dropDatabase _ => .dropped (.ok true)

/-- How a call is answered whose change could not be logged. -/
def refused (e : EngineError) : Record → Answer
  | .insert _ _ _ => .inserted (.error e)
  | .dropCollection _ _ | .dropDatabase _ => .dropped (.error e)

end Answer

/-! ## §3 — logging and syncing -/

theorem log_of_inMemory {s : Store} (r : Record) (h : s.journal = none) :
    s.log r = (.ok (), s) := by
  unfold log
  rw [h]

/-- With a journal the record is appended to its file. -/
theorem log_of_journal {s : Store} {j : Journal} (r : Record) (h : s.journal = some j) :
    s.log r = ((j.append r s.host.disk).1.map fun _ => (),
      { s with
        journal := some (j.append r s.host.disk).2.1
        host := s.host.withDisk (j.append r s.host.disk).2.2 }) := by
  unfold log
  simp only [h]
  rcases j.append r s.host.disk with ⟨answer, j', disk'⟩
  cases answer <;> rfl

theorem catalog_of_log {s s' : Store} {r : Record} {answer : Except EngineError Unit}
    (h : s.log r = (answer, s')) : s'.catalog = s.catalog := by
  cases hj : s.journal with
  | none =>
    rw [log_of_inMemory r hj] at h
    rw [← (Prod.mk.inj h).2]
  | some j =>
    rw [log_of_journal r hj] at h
    rw [← (Prod.mk.inj h).2]

theorem flush_of_inMemory {s : Store} (h : s.journal = none) : s.flush = (.ok false, s) := by
  unfold flush
  rw [h]

/-- With a journal its file is synced. -/
theorem flush_of_journal {s : Store} {j : Journal} (h : s.journal = some j) :
    s.flush = ((j.sync s.host.disk).1,
      { s with
        journal := some (j.sync s.host.disk).2.1
        host := s.host.withDisk (j.sync s.host.disk).2.2 }) := by
  unfold flush
  rw [h]
  rfl

/-! ## §4 — the two kinds of calls -/

namespace Call

@[simp] theorem catalog_drawn (c : Call) (s : Store) : (c.drawn s).catalog = s.catalog := by
  cases c <;> rfl

@[simp] theorem journal_drawn (c : Call) (s : Store) : (c.drawn s).journal = s.journal := by
  cases c <;> rfl

@[simp] theorem disk_drawn (c : Call) (s : Store) : (c.drawn s).host.disk = s.host.disk := by
  cases c with
  | insert db coll ds => exact Host.disk_ensureIds s.host ds
  | _ => rfl

/-- **A call with a change to make** logs the record of it, and puts it into the catalog if, and only
if, that worked. -/
theorem run_of_change {c : Call} {s : Store} {r : Record} (h : c.change? s = some r) :
    ∃ catalog, s.catalog.apply r = .ok catalog ∧
      c.run s = match (c.drawn s).log r with
        | (.ok (), s') => (.made r, { s' with catalog := catalog })
        | (.error e, s') => (.refused e r, s') := by
  cases c with
  | insert db coll ds =>
    simp only [change?] at h
    split at h
    · simp at h
    next hfree =>
    obtain rfl := Option.some.inj h
    refine ⟨s.catalog.insert db coll (s.host.ensureIds ds).1, Catalog.apply_insert .., ?_⟩
    · -- the documents that are logged are those that the catalog gets, ids included
      simp only [run, Store.insert, hfree, drawn]
      rcases hlog : Store.log { s with host := (s.host.ensureIds ds).2 }
        (.insert db coll ((s.host.ensureIds ds).1.map Document.toValue)) with ⟨answer, s'⟩
      cases answer with
      | error e => rfl
      | ok _ => simp only [catalog_of_log hlog, Prod.map, id, Answer.made, List.length_map]
  | dropCollection db coll =>
    simp only [change?, Option.map_eq_some_iff] at h
    obtain ⟨collection, hfound, rfl⟩ := h
    refine ⟨s.catalog.dropCollection db coll, rfl, ?_⟩
    simp only [run, Store.dropCollection, hfound, drawn]
    rcases hlog : s.log (.dropCollection db coll) with ⟨answer, s'⟩
    cases answer with
    | error e => rfl
    | ok _ => simp only [catalog_of_log hlog, Prod.map, id, Answer.made]
  | dropDatabase db =>
    simp only [change?, Option.map_eq_some_iff] at h
    obtain ⟨collections, hfound, rfl⟩ := h
    refine ⟨s.catalog.dropDatabase db, rfl, ?_⟩
    simp only [run, Store.dropDatabase, hfound, drawn]
    rcases hlog : s.log (.dropDatabase db) with ⟨answer, s'⟩
    cases answer with
    | error e => rfl
    | ok _ => simp only [catalog_of_log hlog, Prod.map, id, Answer.made]
  | count db coll f => simp [change?] at h
  | scan db coll => simp [change?] at h
  | flush => simp [change?] at h

/-- A call with no change to make only draws its ids, unless it is a flush. -/
theorem run_of_idle {c : Call} {s : Store} (h : c.change? s = none) (hflush : c ≠ .flush) :
    (c.run s).2 = c.drawn s := by
  cases c with
  | insert db coll ds =>
    simp only [change?] at h
    split at h
    · next key htaken =>
      simp only [run, Store.insert, htaken, drawn]
      rfl
    · cases h
  | dropCollection db coll =>
    simp only [change?, Option.map_eq_none_iff] at h
    simp only [run, Store.dropCollection, h, drawn]
    rfl
  | dropDatabase db =>
    simp only [change?, Option.map_eq_none_iff] at h
    simp only [run, Store.dropDatabase, h, drawn]
    rfl
  | count db coll f => rfl
  | scan db coll => rfl
  | flush => exact absurd rfl hflush

/-- **A call with no change to make** leaves the catalog as it was and draws its ids. Only a flush
touches the journal, and then it counts a sync; the file stays as it is. -/
theorem run_of_no_change {c : Call} {s : Store} (h : c.change? s = none) :
    ∃ (journal : Option Journal) (n : Nat), journal.isSome = s.journal.isSome ∧
      (c.run s).2 = { c.drawn s with
        journal := journal
        host := (c.drawn s).host.withDisk { s.host.disk with syncs := n } } := by
  by_cases hflush : c = .flush
  · -- the one call without a change that reaches the disk
    subst hflush
    simp only [run, drawn]
    cases hj : s.journal with
    | none =>
      rw [flush_of_inMemory hj]
      exact ⟨none, s.host.disk.syncs, rfl, by rw [← hj]; rfl⟩
    | some j =>
      obtain ⟨n, hdisk⟩ := Journal.disk_sync j s.host.disk
      rw [flush_of_journal hj, hdisk]
      exact ⟨some (j.sync s.host.disk).2.1, n, rfl, rfl⟩
  · refine ⟨s.journal, s.host.disk.syncs, rfl, ?_⟩
    rw [run_of_idle h hflush, ← journal_drawn c s, ← disk_drawn c s]
    rfl

/-- What a call does to the catalog: nothing, or the change that it has to make. -/
theorem catalog_run_cases (c : Call) (s : Store) :
    (c.run s).2.catalog = s.catalog ∨
      ∃ r, c.change? s = some r ∧ s.catalog.apply r = .ok (c.run s).2.catalog := by
  cases hchange : c.change? s with
  | none =>
    obtain ⟨_, _, -, hrun⟩ := run_of_no_change hchange
    rw [hrun]
    exact Or.inl (catalog_drawn c s)
  | some r =>
    obtain ⟨catalog, happly, hrun⟩ := run_of_change hchange
    rw [hrun]
    rcases hlog : (c.drawn s).log r with ⟨answer, s'⟩
    cases answer with
    | ok _ => exact Or.inr ⟨r, rfl, happly⟩
    | error e => exact Or.inl ((catalog_of_log hlog).trans (catalog_drawn c s))

/-! ## §5 — changes of a durable store -/

variable {c : Call} {s : Store} {r : Record} {j : Journal}

/-- A change whose record is written is made. -/
theorem run_of_written (hc : c.change? s = some r) (hj : s.journal = some j) (hfits : r.Fits)
    (hwrite : s.host.disk.failsAfter s.host.disk.writes = none) :
    ∃ catalog, s.catalog.apply r = .ok catalog ∧
      c.run s = (.made r, ⟨catalog, some { j with dirty := true },
        (c.drawn s).host.withDisk (s.host.disk.written (s.host.disk.bytes ++ r.frame))⟩) := by
  obtain ⟨catalog, happly, hrun⟩ := run_of_change hc
  refine ⟨catalog, happly, ?_⟩
  rw [hrun, log_of_journal r ((journal_drawn c s).trans hj), disk_drawn,
    Journal.append_of_fits j hfits hwrite]
  rfl

/-- A change whose record cannot be written is not made, and the file stays as it was. -/
theorem run_of_failing {n : Nat} (hc : c.change? s = some r) (hj : s.journal = some j)
    (hfits : r.Fits) (hwrite : s.host.disk.failsAfter s.host.disk.writes = some n) :
    c.run s = (.refused .io r, ⟨s.catalog, some j,
      (c.drawn s).host.withDisk (s.host.disk.written s.host.disk.bytes)⟩) := by
  obtain ⟨catalog, -, hrun⟩ := run_of_change hc
  rw [hrun, log_of_journal r ((journal_drawn c s).trans hj), disk_drawn,
    Journal.append_of_failing j hfits hwrite, catalog_drawn]
  rfl

/-- A change whose record is too long is refused; the ids that were drawn for it are gone. -/
theorem run_of_not_fits (hc : c.change? s = some r) (hj : s.journal = some j)
    (hfits : ¬ r.Fits) :
    c.run s = (.refused (.badValue (.recordTooLong r.payload.length)) r, c.drawn s) := by
  obtain ⟨catalog, -, hrun⟩ := run_of_change hc
  rw [hrun, log_of_journal r ((journal_drawn c s).trans hj),
    Journal.append_of_not_fits j hfits, ← hj, ← journal_drawn c s]
  rfl

end Call

/-! ## §6 — operations that fail -/

/-- Two stores hold the same, in memory and in the journal's file. -/
structure SameContents (s s' : Store) : Prop where
  catalog : s'.catalog = s.catalog
  journal : s'.journal = s.journal
  bytes : s'.host.disk.bytes = s.host.disk.bytes

variable {s s' : Store} {db coll : String} {err : EngineError}

theorem SameContents.refl (s : Store) : s.SameContents s := ⟨rfl, rfl, rfl⟩

theorem SameContents.trans {s'' : Store} (h : s.SameContents s') (h' : s'.SameContents s'') :
    s.SameContents s'' :=
  ⟨h'.catalog.trans h.catalog, h'.journal.trans h.journal, h'.bytes.trans h.bytes⟩

/-- What cannot be logged leaves no trace: either nothing is written, or the file is cut back. -/
theorem sameContents_of_log {r : Record} (h : s.log r = (.error err, s')) : s.SameContents s' := by
  cases hj : s.journal with
  | none =>
    rw [log_of_inMemory r hj] at h
    cases h
  | some j =>
    have hcatalog := catalog_of_log h
    rw [log_of_journal r hj] at h
    by_cases hfits : r.Fits
    · cases hwrite : s.host.disk.failsAfter s.host.disk.writes with
      | none =>
        rw [Journal.append_of_fits j hfits hwrite] at h
        cases h
      | some n =>
        rw [Journal.append_of_failing j hfits hwrite] at h
        obtain ⟨-, rfl⟩ := Prod.mk.inj h
        exact ⟨hcatalog, hj.symm, Disk.bytes_written _ _⟩
    · rw [Journal.append_of_not_fits j hfits] at h
      obtain ⟨-, rfl⟩ := Prod.mk.inj h
      exact ⟨hcatalog, hj.symm, rfl⟩

theorem sameContents_of_insert {ds : List Document}
    (h : s.insert db coll ds = (.error err, s')) : s.SameContents s' := by
  have hdrawn : s.SameContents { s with host := (s.host.ensureIds ds).2 } :=
    ⟨rfl, rfl, congrArg Disk.bytes (Host.disk_ensureIds s.host ds)⟩
  unfold Store.insert at h
  simp only at h
  split at h
  · obtain ⟨-, rfl⟩ := Prod.mk.inj h
    exact hdrawn
  · split at h
    · next hlog =>
      obtain ⟨-, rfl⟩ := Prod.mk.inj h
      exact hdrawn.trans (sameContents_of_log hlog)
    · cases h

theorem sameContents_of_dropCollection (h : s.dropCollection db coll = (.error err, s')) :
    s.SameContents s' := by
  unfold dropCollection at h
  split at h
  · cases h
  · split at h
    · next hlog =>
      obtain ⟨-, rfl⟩ := Prod.mk.inj h
      exact sameContents_of_log hlog
    · cases h

theorem sameContents_of_dropDatabase (h : s.dropDatabase db = (.error err, s')) :
    s.SameContents s' := by
  unfold dropDatabase at h
  split at h
  · cases h
  · split at h
    · next hlog =>
      obtain ⟨-, rfl⟩ := Prod.mk.inj h
      exact sameContents_of_log hlog
    · cases h

end Store

end DocStore
