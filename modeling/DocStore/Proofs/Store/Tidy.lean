import DocStore.Proofs.Journal.Replay
import DocStore.Proofs.Store.Taken

/-!
# DocStore — catalogs without leftovers

A catalog keeps beside the documents what it needs to find them: the taken texts of a collection, and
the maps of collections and databases. In a catalog that calls have made these hold what the documents
ask for and nothing else (`Catalog.Tidy`): no collection is left without documents, and no database
without collections. That stays so when the catalog is made again from what was logged, whatever the
numbers in the documents are read as. That no text is taken twice does not: two numbers may be read as one.

* **`Catalog.Tidy.applyAll`** — records that bring documents with `_id`s make a tidy catalog.
* **`Store.Call.tidy_run`** — every call keeps a catalog tidy, as long as inserts bring documents.
* **`Store.open_of_written`** — a start on a file that calls have written, cut anywhere, finds the records
  that are left, as they are read, or fails and leaves the file.
* **`Catalog.Tidy.mem_databaseNames`**, **`mem_collectionNames`** — what is listed are the databases and
  collections that hold documents.
-/

namespace DocStore

/-! ## §1 — tidy catalogs -/

/-- A record of an insert brings documents, which have `_id`s. -/
def Record.Brings : Record → Prop
  | insert _ _ values => ∃ ds : List Document, values = ds.map Document.toValue ∧ ds ≠ [] ∧
      ∀ d ∈ ds, d.contains "_id" = true
  | _ => True

/-- A document that is read again has the names that it had. -/
theorem Record.Brings.reread {r : Record} (h : r.Brings) : r.reread.Brings := by
  cases r with
  | insert db coll values =>
    obtain ⟨ds, rfl, hds, hids⟩ := h
    refine ⟨ds.map Document.reread, Document.rereadItems_map_toValue ds, ?_, ?_⟩
    · rwa [ne_eq, List.map_eq_nil_iff]
    · exact List.forall_mem_map.mpr fun d hd => (d.contains_reread "_id").trans (hids d hd)
  | dropCollection db coll => trivial
  | dropDatabase db => trivial

namespace Catalog

variable {c : Catalog} {db coll : String}

/-- The taken texts are those of the documents, every document has an `_id`, and nothing is there that
holds no document. -/
structure Tidy (c : Catalog) : Prop where
  told : c.Told
  named : c.Every fun collection => ∀ d ∈ collection.documents, d.contains "_id" = true
  filled : c.Every fun collection => collection.documents ≠ []
  populated : ∀ db collections, c.database? db = some collections →
    ∃ coll collection, collections.find? coll = some collection

theorem tidy_empty : empty.Tidy := by
  refine ⟨every_empty, every_empty, every_empty, ?_⟩
  intro db collections h
  cases h

theorem Tidy.insert (h : c.Tidy) (db coll : String) {ds : List Document} (hds : ds ≠ [])
    (hids : ∀ d ∈ ds, d.contains "_id" = true) : (c.insert db coll ds).Tidy := by
  have hold : ∀ d ∈ ((c.collection? db coll).getD .empty).documents, d.contains "_id" = true :=
    Every.getD h.named (by simp [Collection.empty]) db coll
  refine ⟨h.told.insert db coll ds, Every.insert h.named ?_,
    Every.insert h.filled (List.append_ne_nil_of_right_ne_nil _ hds), ?_⟩
  · exact fun d hd => (List.mem_append.mp hd).elim (hold d) (hids d)
  · intro db' collections hfound
    rw [database?_insert] at hfound
    split at hfound
    · rw [← Option.some.inj hfound]
      exact ⟨coll, _, by rw [SortedMap.find?_put, if_pos rfl]⟩
    · exact h.populated db' collections hfound

theorem Tidy.dropCollection (h : c.Tidy) (db coll : String) : (c.dropCollection db coll).Tidy := by
  refine ⟨Every.dropCollection h.told db coll, Every.dropCollection h.named db coll,
    Every.dropCollection h.filled db coll, ?_⟩
  intro db' collections hfound
  cases hdb : c.database? db with
  | none =>
    rw [dropCollection_of_none hdb] at hfound
    exact h.populated db' collections hfound
  | some old =>
    rw [database?_dropCollection hdb] at hfound
    split at hfound
    · -- a database that is left has a collection, for it goes with its last one
      split at hfound
      · cases hfound
      · next hleft =>
        rw [← Option.some.inj hfound]
        exact SortedMap.exists_find?_of_isEmpty hleft
    · exact h.populated db' collections hfound

theorem Tidy.dropDatabase (h : c.Tidy) (db : String) : (c.dropDatabase db).Tidy := by
  refine ⟨Every.dropDatabase h.told db, Every.dropDatabase h.named db,
    Every.dropDatabase h.filled db, ?_⟩
  intro db' collections hfound
  unfold database? Catalog.dropDatabase at hfound
  rw [SortedMap.find?_erase] at hfound
  split at hfound
  · cases hfound
  · exact h.populated db' collections hfound

/-- **A record that brings documents** can be put into a tidy catalog, one case for each kind. -/
theorem Tidy.apply (h : c.Tidy) {r : Record} (hr : r.Brings) : ∃ c', c.apply r = .ok c' ∧ c'.Tidy := by
  cases r with
  | insert db coll values =>
    obtain ⟨ds, rfl, hds, hids⟩ := hr
    exact ⟨_, apply_insert c db coll ds, h.insert db coll hds hids⟩
  | dropCollection db coll => exact ⟨_, rfl, h.dropCollection db coll⟩
  | dropDatabase db => exact ⟨_, rfl, h.dropDatabase db⟩

/-- **So can a list of them.** Induction on the records. -/
theorem Tidy.applyAll (h : c.Tidy) {rs : List Record} (hrs : ∀ r ∈ rs, r.Brings) :
    ∃ c', c.applyAll rs = .ok c' ∧ c'.Tidy := by
  induction rs generalizing c with
  | nil => exact ⟨c, rfl, h⟩
  | cons r rs ih =>
    obtain ⟨hr, hrest⟩ := List.forall_mem_cons.mp hrs
    obtain ⟨c₁, happly, hnext⟩ := h.apply hr
    obtain ⟨c', hall, htidy⟩ := ih hnext hrest
    exact ⟨c', by simp only [Catalog.applyAll, happly, hall], htidy⟩

end Catalog

theorem Host.ensureIds_ne_nil (h : Host) {ds : List Document} (hds : ds ≠ []) :
    (h.ensureIds ds).1 ≠ [] := by
  cases ds with
  | nil => exact absurd rfl hds
  | cons d ds => exact List.cons_ne_nil _ _

/-! ## §2 — what is found in a tidy catalog -/

namespace Catalog

variable {c : Catalog} {db coll : String}

/-- In a tidy catalog what is there is what holds documents. -/
theorem Tidy.documents_ne_nil_iff (h : c.Tidy) :
    c.documents db coll ≠ [] ↔ ∃ collection, c.collection? db coll = some collection := by
  unfold documents
  cases hfound : c.collection? db coll with
  | none => simp
  | some collection =>
    simp only [Option.some.injEq, exists_eq', iff_true]
    exact h.filled db coll collection hfound

/-- **The collections that are listed** are those that hold documents. -/
theorem Tidy.mem_collectionNames (h : c.Tidy) :
    coll ∈ c.collectionNames db ↔ c.documents db coll ≠ [] := by
  rw [h.documents_ne_nil_iff]
  unfold collectionNames collection?
  cases c.database? db with
  | none => simp
  | some collections => exact SortedMap.mem_names_iff

/-- **The databases that are listed** are those that hold documents. -/
theorem Tidy.mem_databaseNames (h : c.Tidy) :
    db ∈ c.databaseNames ↔ ∃ coll, c.documents db coll ≠ [] := by
  simp only [h.documents_ne_nil_iff]
  unfold databaseNames collection?
  rw [SortedMap.mem_names_iff]
  constructor
  · -- an empty database would be listed, too, but there is none
    rintro ⟨collections, hfound⟩
    obtain ⟨coll, collection, hcoll⟩ := h.populated db collections hfound
    refine ⟨coll, collection, ?_⟩
    rw [show c.database? db = some collections from hfound]
    exact hcoll
  · rintro ⟨coll, collection, hfound⟩
    cases hdb : c.database? db with
    | none =>
      rw [hdb] at hfound
      cases hfound
    | some collections => exact ⟨collections, hdb⟩

theorem Tidy.collectionNames_ne_nil (h : c.Tidy) (hdb : db ∈ c.databaseNames) :
    c.collectionNames db ≠ [] := by
  obtain ⟨coll, hcoll⟩ := h.mem_databaseNames.mp hdb
  exact List.ne_nil_of_mem (h.mem_collectionNames.mpr hcoll)

theorem sorted_collectionNames (c : Catalog) (db : String) :
    (c.collectionNames db).Pairwise (· < ·) := by
  unfold collectionNames
  cases c.database? db with
  | none => exact List.Pairwise.nil
  | some collections => exact collections.sorted_names

theorem Tidy.isSome_id? (h : c.Tidy) {collection : Collection}
    (hfound : c.collection? db coll = some collection) {d : Document} (hd : d ∈ collection.documents) :
    d.id?.isSome = true :=
  h.named db coll collection hfound d hd

end Catalog

theorem Collection.Keyed.nodup_idKeys {c : Collection} (h : c.Keyed) :
    (c.documents.map Document.idKey?).Nodup := by
  rw [h.keys]
  exact (List.nodup_reverse.mpr h.nodup).map fun _ _ => Option.some.inj

namespace Store

/-! ## §3 — calls -/

/-- An insert brings documents. -/
def Call.Brings : Call → Prop
  | insert _ _ ds => ds ≠ []
  | _ => True

/-- A call that brings documents logs a record that does. -/
theorem Call.brings_change {c : Call} {s : Store} {r : Record} (hbrings : c.Brings)
    (h : c.change? s = some r) : r.Brings := by
  cases c with
  | insert db coll ds =>
    simp only [change?] at h
    split at h
    · cases h
    · rw [← Option.some.inj h]
      exact ⟨_, rfl, s.host.ensureIds_ne_nil hbrings, Host.contains_ensureIds s.host ds⟩
  | dropCollection db coll =>
    simp only [change?, Option.map_eq_some_iff] at h
    obtain ⟨_, -, rfl⟩ := h
    trivial
  | dropDatabase db =>
    simp only [change?, Option.map_eq_some_iff] at h
    obtain ⟨_, -, rfl⟩ := h
    trivial
  | count => cases h
  | scan => cases h
  | flush => cases h

/-- **Every call keeps a catalog tidy.** -/
theorem Call.tidy_run {c : Call} {s : Store} (hbrings : c.Brings) (h : s.catalog.Tidy) :
    (c.run s).2.catalog.Tidy := by
  rcases c.catalog_run_cases s with hsame | ⟨r, hchange, happly⟩
  · rwa [hsame]
  · obtain ⟨_, happly', htidy⟩ := h.apply (brings_change hbrings hchange)
    rwa [Except.ok.inj (happly.symm.trans happly')]

/-- A call on a store in memory leaves the file alone. -/
theorem Call.run_of_inMemory (c : Call) {s : Store} (h : s.journal = none) :
    (c.run s).2.journal = none ∧ (c.run s).2.host.disk.bytes = s.host.disk.bytes := by
  cases hchange : c.change? s with
  | none =>
    obtain ⟨journal, n, hjournal, hrun⟩ := run_of_no_change hchange
    rw [hrun]
    refine ⟨?_, rfl⟩
    rw [h] at hjournal
    simpa using hjournal
  | some r =>
    obtain ⟨catalog, -, hrun⟩ := run_of_change hchange
    rw [hrun, log_of_inMemory r ((journal_drawn c s).trans h)]
    exact ⟨(journal_drawn c s).trans h, congrArg Disk.bytes (disk_drawn c s)⟩

/-! ## §4 — starting again -/

/-- What a start on a journal comes to is decided by what its replay comes to. -/
theorem open_of_replay {options : Options} {path : String} {host : Host} {rs : List Record} {d : Disk}
    {catalog : Catalog} (hpath : options.journalPath? = some path)
    (hreachable : host.disk.reachable = true)
    (hreplay : Journal.replay ⟨path, false⟩ (host.disk.withBytes host.disk.bytes) = (.ok rs, d))
    (hcatalog : Catalog.empty.applyAll rs = .ok catalog) :
    Store.open options host = .ok ⟨catalog, some ⟨path, false⟩, host.withDisk d⟩ := by
  have hopen := Journal.open_of_reachable path hreachable
  unfold Store.open
  simp only [hpath, hopen, hreplay, hcatalog]
  rfl

/-- **A start on a file that was written and cut**: in memory, or with the records inside the bytes that
are left, as they are read, or not at all, and then the file stays as it is. -/
theorem open_of_written (options : Options) {host : Host} {held : List Record} {n : Nat}
    (hbytes : host.disk.bytes = (Journal.frames held).take n) (hfits : ∀ r ∈ held, r.Fits)
    (hbrings : ∀ r ∈ held, r.Brings) :
    (∃ err host', Store.open options host = .error (err, host') ∧
        host'.disk.bytes = host.disk.bytes) ∨
      Store.open options host = .ok (Store.inMemory host) ∨
      ∃ s, Store.open options host = .ok s ∧
        s.Rests (Journal.within n held) ((Journal.within n held).map Record.reread) ∧
        ∀ r ∈ Journal.within n held, r.Returns := by
  cases hpath : options.journalPath? with
  | none =>
    refine Or.inr (Or.inl ?_)
    unfold Store.open
    rw [hpath]
  | some path =>
    cases hreachable : host.disk.reachable with
    | false =>
      have hfail : Journal.open path host.disk = (.error .io, host.disk) := by
        unfold Journal.open
        rw [if_neg (by simp [hreachable])]
      refine Or.inl ⟨.io, host, ?_, rfl⟩
      unfold Store.open
      simp only [hpath, hfail]
    | true =>
      have hbytes' : (host.disk.withBytes host.disk.bytes).bytes = (Journal.frames held).take n :=
        hbytes
      have hsub := (Journal.within_isPrefix n held).subset
      have hread : ∀ r ∈ (Journal.within n held).map Record.reread, r.Brings :=
        List.forall_mem_map.mpr fun r hr => (hbrings r (hsub hr)).reread
      obtain ⟨catalog, hcatalog, -⟩ := Catalog.tidy_empty.applyAll hread
      rcases Journal.replay_of_written ⟨path, false⟩ hbytes' hfits with
        ⟨err, hreplay⟩ | ⟨d, hreplay, hleft, hreturn⟩
      · have hopen := Journal.open_of_reachable path hreachable
        refine Or.inl ⟨err, host.withDisk (host.disk.withBytes host.disk.bytes), ?_, rfl⟩
        unfold Store.open
        simp only [hpath, hopen, hreplay]
        rfl
      · exact Or.inr (Or.inr ⟨_, open_of_replay hpath hreachable hreplay hcatalog,
          ⟨rfl, hleft, fun r hr => hfits r (hsub hr), hcatalog⟩, hreturn⟩)

end Store

end DocStore
