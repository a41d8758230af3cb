import DocStore.Catalog
import DocStore.Filter.Basic
import DocStore.Host
import DocStore.Journal.Basic
import DocStore.Options

/-!
# DocStore — storage

A store is a catalog, and with a journal path a journal in which every change is written before it
is made. A store that is opened on a journal starts from what the journal describes. Each operation
returns its answer and the store after it; an operation that fails leaves the catalog as it was.
-/

namespace DocStore

/-- A catalog on a host, with a journal if it is durable. -/
structure Store where
  catalog : Catalog
  journal : Option Journal
  host : Host

namespace Store

/-- A store that keeps nothing on disk. -/
def inMemory (host : Host) : Store := ⟨.empty, none, host⟩

/-- Open a store. A failure comes with the host as it was left. -/
def «open» (options : Options) (host : Host) : Except (EngineError × Host) Store :=
  match options.journalPath? with
  | none => .ok (inMemory host)
  | some path =>
    match Journal.open path host.disk with
    | (.error e, disk) => .error (e, { host with disk := disk })
    | (.ok journal, disk) =>
      match journal.replay disk with
      | (.error e, disk) => .error (e, { host with disk := disk })
      | (.ok records, disk) =>
        let host := { host with disk := disk }
        match Catalog.empty.applyAll records with
        | .error e => .error (e, host)
        | .ok catalog => .ok ⟨catalog, some journal, host⟩

/-- Whether changes are kept on disk. -/
def isDurable (s : Store) : Bool := s.journal.isSome

/-- Write a record of a change, if the store is durable. -/
def log (s : Store) (r : Record) : Except EngineError Unit × Store :=
  match s.journal with
  | none => (.ok (), s)
  | some journal =>
    match journal.append r s.host.disk with
    | (.ok _, journal, disk) =>
      (.ok (), { s with journal := some journal, host := { s.host with disk := disk } })
    | (.error e, journal, disk) =>
      (.error e, { s with journal := some journal, host := { s.host with disk := disk } })

/-! ## Insert -/

/-- The first `_id` text of the documents that is taken, by the texts or by a document before. -/
def firstTaken? : List String → List Document → Option String
  | _, [] => none
  | taken, d :: ds =>
    match d.idKey? with
    | some key => if taken.contains key then some key else firstTaken? (key :: taken) ds
    | none => firstTaken? taken ds

/-- Insert documents, all of them or none. Those without an `_id` get one. The answer is how many
they are. -/
def insert (s : Store) (db coll : String) (ds : List Document) : Except EngineError Nat × Store :=
  let (ds, host) := s.host.ensureIds ds
  let s := { s with host := host }
  match firstTaken? (s.catalog.takenIds db coll) ds with
  | some key => (.error (.duplicateKey (db ++ "." ++ coll) key), s)
  | none =>
    match s.log (.insert db coll (ds.map Document.toValue)) with
    | (.error e, s) => (.error e, s)
    | (.ok (), s) => (.ok ds.length, { s with catalog := s.catalog.insert db coll ds })

/-! ## Drops -/

/-- Drop a collection. The answer says whether it was there. -/
def dropCollection (s : Store) (db coll : String) : Except EngineError Bool × Store :=
  match s.catalog.collection? db coll with
  | none => (.ok false, s)
  | some _ =>
    match s.log (.dropCollection db coll) with
    | (.error e, s) => (.error e, s)
    | (.ok (), s) => (.ok true, { s with catalog := s.catalog.dropCollection db coll })

/-- Drop a database. The answer says whether it was there. -/
def dropDatabase (s : Store) (db : String) : Except EngineError Bool × Store :=
  match s.catalog.database? db with
  | none => (.ok false, s)
  | some _ =>
    match s.log (.dropDatabase db) with
    | (.error e, s) => (.error e, s)
    | (.ok (), s) => (.ok true, { s with catalog := s.catalog.dropDatabase db })

/-! ## Reading -/

/-- The documents of a collection in the order in which they were inserted. -/
def scan (s : Store) (db coll : String) : List Document := s.catalog.documents db coll

/-- How many documents of a collection a filter accepts. For a filter without conditions none is looked
at. -/
def count (s : Store) (db coll : String) (f : Filter) : Nat :=
  match s.catalog.collection? db coll with
  | some collection =>
    if f.isTrivial then collection.documents.length
    else (collection.documents.filter f.accepts).length
  | none => 0

/-- The count is that of the documents that a scan finds and the filter accepts. -/
theorem count_eq (s : Store) (db coll : String) (f : Filter) :
    s.count db coll f = ((s.scan db coll).filter f.accepts).length := by
  unfold count scan Catalog.documents
  cases s.catalog.collection? db coll with
  | none => rfl
  | some collection =>
    by_cases htrivial : f.isTrivial = true
    · have hall : collection.documents.filter f.accepts = collection.documents :=
        List.filter_eq_self.mpr fun d _ => Filter.accepts_of_isTrivial htrivial d
      simp only [if_pos htrivial, hall]
    · simp only [if_neg htrivial]

/-- Sync the journal. The answer says whether there was something to sync. -/
def flush (s : Store) : Except EngineError Bool × Store :=
  match s.journal with
  | none => (.ok false, s)
  | some journal =>
    match journal.sync s.host.disk with
    | (answer, journal, disk) =>
      (answer, { s with journal := some journal, host := { s.host with disk := disk } })

/-- How a database is described: its name, its collections and its documents, counted. -/
def describe (entry : String × Database) : Value :=
  let objects := (entry.2.entries.map fun c => c.2.documents.length).foldr (· + ·) 0
  .object [("name", .string entry.1), ("collections", .ofNat entry.2.size),
    ("objects", .ofNat objects)]

/-- What the store holds, and where. -/
def stats (s : Store) : Value :=
  .object [("durable", .bool s.isDurable),
    ("journal", match s.journal with
      | some journal => .string journal.path
      | none => .null),
    ("databases", .array (s.catalog.databases.entries.map describe))]

end Store

end DocStore
