import DocStore.Proofs.Store.Taken

/-!
# DocStore — a batch is stored as a whole or not at all

An insert gives the documents of its batch their `_id`s, looks whether all of them are free, logs one
record and then stores the documents. A batch may clash with what is stored or with itself, and the
journal may fail after all that; in each case memory and file stay in step.

* **`Batch.FirstClash`**, **`Batch.Free`** — the first document with an `_id` that is taken, and that there
  is none; **`Batch.firstTaken?_eq_some_iff`** and **`firstTaken?_eq_none_iff`** say that the store's own
  search finds just these.
* **`Host.getElem?_ensureIds`** — which document of a batch gets which id.
* **`Store.log_cases`**, **`Store.insert_cases`** — the ways in which logging and inserting can go.
* **`insert_all_or_nothing`** — the main statement.
-/

namespace DocStore

/-! ## §1 — documents that clash -/

namespace Batch

/-- A document among these has this text of its `_id`. -/
def IsKeyOf (key : String) (ds : List Document) : Prop := ∃ d ∈ ds, d.idKey? = some key

/-- No document of a batch has the text of a document before it, be it stored or of the batch. -/
def Free (stored batch : List Document) : Prop :=
  ∀ before d after, batch = before ++ d :: after →
    ∀ key, d.idKey? = some key → ¬ IsKeyOf key (stored ++ before)

/-- The first document of a batch that has the text of a document before it has this one. -/
def FirstClash (stored batch : List Document) (key : String) : Prop :=
  ∃ before d after, batch = before ++ d :: after ∧ Free stored before ∧
    d.idKey? = some key ∧ IsKeyOf key (stored ++ before)

variable {stored ds batch : List Document} {d : Document} {key : String} {taken : List String}

theorem free_nil : Free stored [] := fun before d after hsplit => by simp at hsplit

theorem free_cons : Free stored (d :: ds) ↔
    (∀ key, d.idKey? = some key → ¬ IsKeyOf key stored) ∧ Free (stored ++ [d]) ds := by
  constructor
  · intro h
    refine ⟨fun key hkey => by simpa using h [] d ds rfl key hkey, fun before d' after hsplit => ?_⟩
    have hlater := h (d :: before) d' after (by rw [hsplit, List.cons_append])
    rwa [List.append_cons] at hlater
  · rintro ⟨hfirst, hrest⟩ before d' after hsplit
    cases before with
    | nil =>
      obtain ⟨rfl, -⟩ := List.cons.inj hsplit
      simpa using hfirst
    | cons b before =>
      obtain ⟨rfl, htail⟩ := List.cons.inj hsplit
      have hlater := hrest before d' after htail
      rwa [← List.append_cons] at hlater

theorem firstClash_cons : FirstClash stored (d :: ds) key ↔
    (d.idKey? = some key ∧ IsKeyOf key stored) ∨
      (∀ key, d.idKey? = some key → ¬ IsKeyOf key stored) ∧ FirstClash (stored ++ [d]) ds key := by
  constructor
  · rintro ⟨before, d', after, hsplit, hfree, hkey, hclash⟩
    cases before with
    | nil =>
      obtain ⟨rfl, -⟩ := List.cons.inj hsplit
      exact Or.inl ⟨hkey, by simpa using hclash⟩
    | cons b before =>
      obtain ⟨rfl, htail⟩ := List.cons.inj hsplit
      obtain ⟨hfirst, hrest⟩ := free_cons.mp hfree
      rw [List.append_cons] at hclash
      exact Or.inr ⟨hfirst, before, d', after, htail, hrest, hkey, hclash⟩
  · rintro (⟨hkey, hclash⟩ | ⟨hfirst, before, d', after, hsplit, hfree, hkey, hclash⟩)
    · exact ⟨[], d, ds, rfl, free_nil, hkey, by simpa using hclash⟩
    · refine ⟨d :: before, d', after, by rw [hsplit, List.cons_append], free_cons.mpr ⟨hfirst, hfree⟩,
        hkey, ?_⟩
      rwa [List.append_cons]

/-- There is a first clash unless there is none. Induction on the batch. -/
theorem free_iff : Free stored batch ↔ ∀ key, ¬ FirstClash stored batch key := by
  constructor
  · rintro h key ⟨before, d, after, hsplit, -, hkey, hclash⟩
    exact h before d after hsplit key hkey hclash
  · intro h
    induction batch generalizing stored with
    | nil => exact free_nil
    | cons d ds ih =>
      refine free_cons.mpr ⟨fun key hkey hclash => ?_, ih fun key hlater => ?_⟩
      · exact h key (firstClash_cons.mpr (Or.inl ⟨hkey, hclash⟩))
      · refine h key (firstClash_cons.mpr (Or.inr ⟨fun key' hkey hclash => ?_, hlater⟩))
        exact h key' (firstClash_cons.mpr (Or.inl ⟨hkey, hclash⟩))

/-- What is taken after one document more. -/
theorem isKeyOf_concat : IsKeyOf key (stored ++ [d]) ↔ IsKeyOf key stored ∨ d.idKey? = some key := by
  simp [IsKeyOf, or_and_right, exists_or]

/-- **The search of the store** finds the text of the first clash. Induction on the batch, of which each
document adds its own text to those that are taken. -/
theorem firstTaken?_eq_some_iff (h : ∀ key, key ∈ taken ↔ IsKeyOf key stored) :
    Store.firstTaken? taken batch = some key ↔ FirstClash stored batch key := by
  induction batch generalizing taken stored with
  | nil => simp [Store.firstTaken?, FirstClash]
  | cons d ds ih =>
    rw [firstClash_cons]
    unfold Store.firstTaken?
    cases hkey : d.idKey? with
    | none =>
      have hsame : ∀ key, key ∈ taken ↔ IsKeyOf key (stored ++ [d]) := fun key => by
        rw [isKeyOf_concat, hkey, h key]
        simp
      simpa using ih hsame
    | some own =>
      have hmore : ∀ key, key ∈ own :: taken ↔ IsKeyOf key (stored ++ [d]) := fun key => by
        rw [isKeyOf_concat, hkey, List.mem_cons, h key, or_comm, Option.some.injEq, eq_comm (a := key)]
      by_cases htaken : own ∈ taken
      · have hclash := (h own).mp htaken
        simp only [List.contains_iff_mem, htaken, if_true, Option.some.injEq]
        constructor
        · rintro rfl
          exact Or.inl ⟨rfl, hclash⟩
        · rintro (⟨rfl, -⟩ | ⟨hfree, -⟩)
          · rfl
          · exact absurd hclash (hfree own rfl)
      · have hfree := mt (h own).mpr htaken
        simp only [List.contains_iff_mem, htaken, if_false, Option.some.injEq, ih hmore]
        constructor
        · intro hlater
          exact Or.inr ⟨fun key hown => hown ▸ hfree, hlater⟩
        · rintro (⟨rfl, hclash⟩ | ⟨-, hlater⟩)
          · exact absurd hclash hfree
          · exact hlater

/-- **It finds nothing** if there is no clash. -/
theorem firstTaken?_eq_none_iff (h : ∀ key, key ∈ taken ↔ IsKeyOf key stored) :
    Store.firstTaken? taken batch = none ↔ Free stored batch := by
  rw [free_iff, Option.eq_none_iff_forall_ne_some]
  exact forall_congr' fun key => not_congr (firstTaken?_eq_some_iff h)

end Batch

/-! ## §2 — the ids of a batch -/

namespace Host

/-- The ids that a host generates, as they are put into documents. -/
def oid (h : Host) (n : Nat) : Value := .object [("$oid", .string (h.ids n))]

/-- **Every document of a batch** is as it was given, but for the `_id` in front if it had none. Such
documents get the ids of the host, one after the other. Induction on the batch. -/
theorem getElem?_ensureIds (h : Host) (ds : List Document) (i : Nat) :
    (h.ensureIds ds).1[i]? = ds[i]?.map fun d =>
      d.withId (h.oid (h.drawn + (ds.take i).countP fun d => !d.contains "_id")) := by
  induction ds generalizing h i with
  | nil => rfl
  | cons d ds ih =>
    cases i with
    | zero =>
      show some (h.ensureId d).1 = some _
      rw [fst_ensureId]
      rfl
    | succ i =>
      show ((h.ensureId d).2.ensureIds ds).1[i]? = ds[i]?.map _
      rw [ih]
      unfold ensureId
      cases hid : d.contains "_id" with
      | true => simp [hid]
      | false => simp [hid, drawId, oid, Nat.add_assoc, Nat.add_comm 1]

theorem length_ensureIds (h : Host) (ds : List Document) : (h.ensureIds ds).1.length = ds.length := by
  induction ds generalizing h with
  | nil => rfl
  | cons d ds ih => exact congrArg (· + 1) (ih _)

end Host

namespace Store

/-! ## §3 — the ways to go -/

variable {s : Store} {db coll : String}

/-- Logging a record fails with this error: there is a journal, and the record is too long for it or the
next write fails. -/
def LogFails (s : Store) (r : Record) (e : EngineError) : Prop :=
  s.isDurable = true ∧
    (¬ r.Fits ∧ e = .badValue (.recordTooLong r.payload.length) ∨
      r.Fits ∧ (∃ n, s.host.disk.failsAfter s.host.disk.writes = some n) ∧ e = .io)

/-- A store gains a batch: it is at the end of its collection, all other collections are as they were, and
with a journal there is one record more at the end of the file, of just this batch. -/
structure Gains (s s' : Store) (db coll : String) (batch : List Document) : Prop where
  documents : s'.scan db coll = s.scan db coll ++ batch
  others : ∀ db' coll', ¬ (db' = db ∧ coll' = coll) →
    s'.catalog.collection? db' coll' = s.catalog.collection? db' coll'
  durable : s'.isDurable = s.isDurable
  bytes : s'.host.disk.bytes = s.host.disk.bytes ++
    if s.isDurable then (Record.insert db coll (batch.map Document.toValue)).frame else []

/-- **Logging a record** fails, or puts the frame of the record at the end of the file, if there is one. -/
theorem log_cases (s : Store) (r : Record) :
    (∃ e s', s.log r = (.error e, s') ∧ s.LogFails r e) ∨
    ∃ journal disk, s.log r = (.ok (), ⟨s.catalog, journal, s.host.withDisk disk⟩) ∧
      journal.isSome = s.isDurable ∧
      (s.isDurable = true → r.Fits ∧ s.host.disk.failsAfter s.host.disk.writes = none) ∧
      disk.bytes = s.host.disk.bytes ++ if s.isDurable then r.frame else [] := by
  unfold LogFails isDurable
  cases hj : s.journal with
  | none =>
    refine Or.inr ⟨none, s.host.disk, ?_, rfl, nofun, (List.append_nil _).symm⟩
    rw [log_of_inMemory r hj, Host.withDisk_self, ← hj]
  | some j =>
    rw [log_of_journal r hj]
    by_cases hfits : r.Fits
    · cases hwrite : s.host.disk.failsAfter s.host.disk.writes with
      | none =>
        rw [Journal.append_of_fits j hfits hwrite]
        exact Or.inr ⟨_, _, rfl, rfl, fun _ => ⟨hfits, rfl⟩, Disk.bytes_written _ _⟩
      | some n =>
        rw [Journal.append_of_failing j hfits hwrite]
        exact Or.inl ⟨_, _, rfl, rfl, Or.inr ⟨hfits, ⟨n, rfl⟩, rfl⟩⟩
    · rw [Journal.append_of_not_fits j hfits]
      exact Or.inl ⟨_, _, rfl, rfl, Or.inl ⟨hfits, rfl⟩⟩

variable {ds : List Document} {s' : Store}

/-- An insert of what is free fails when its record cannot be logged. -/
theorem insert_of_log_error {e : EngineError}
    (hfree : firstTaken? (s.catalog.takenIds db coll) (s.host.ensureIds ds).1 = none)
    (hlog : log { s with host := (s.host.ensureIds ds).2 }
      (.insert db coll ((s.host.ensureIds ds).1.map Document.toValue)) = (.error e, s')) :
    s.insert db coll ds = (.error e, s') := by
  unfold insert
  simp only [hfree, hlog]

/-- And otherwise stores the batch. -/
theorem insert_of_logged
    (hfree : firstTaken? (s.catalog.takenIds db coll) (s.host.ensureIds ds).1 = none)
    (hlog : log { s with host := (s.host.ensureIds ds).2 }
      (.insert db coll ((s.host.ensureIds ds).1.map Document.toValue)) = (.ok (), s')) :
    s.insert db coll ds = (.ok ds.length,
      { s' with catalog := s'.catalog.insert db coll (s.host.ensureIds ds).1 }) := by
  unfold insert
  simp only [hfree, hlog, Host.length_ensureIds]

/-- **Inserting a batch** is refused for a document whose text is taken; or for the journal; or the batch is
stored. -/
theorem insert_cases (s : Store) (db coll : String) (ds : List Document) :
    let batch := (s.host.ensureIds ds).1
    let r : Record := .insert db coll (batch.map Document.toValue)
    let taken? := firstTaken? (s.catalog.takenIds db coll) batch
    (∃ key s', taken? = some key ∧
      s.insert db coll ds = (.error (.duplicateKey (db ++ "." ++ coll) key), s')) ∨
    (taken? = none ∧ ∃ e s', s.insert db coll ds = (.error e, s') ∧ s.LogFails r e) ∨
    (taken? = none ∧ ∃ s', s.insert db coll ds = (.ok ds.length, s') ∧ s.Gains s' db coll batch ∧
      (s.isDurable = true → r.Fits ∧ s.host.disk.failsAfter s.host.disk.writes = none)) := by
  intro batch r taken?
  have hdisk := Host.disk_ensureIds s.host ds
  cases htaken : taken? with
  | some key =>
    refine Or.inl ⟨key, { s with host := (s.host.ensureIds ds).2 }, rfl, ?_⟩
    unfold insert
    simp only [show firstTaken? _ (s.host.ensureIds ds).1 = _ from htaken]
  | none =>
    rcases log_cases { s with host := (s.host.ensureIds ds).2 } r with
      ⟨e, s', hlog, hfails⟩ | ⟨journal, disk, hlog, hdurable, hwrite, hbytes⟩
    · refine Or.inr (Or.inl ⟨rfl, e, s', insert_of_log_error htaken hlog, ?_⟩)
      unfold LogFails at hfails
      rw [hdisk] at hfails
      exact hfails
    · rw [hdisk] at hwrite hbytes
      refine Or.inr (Or.inr ⟨rfl, _, insert_of_logged htaken hlog, ?_, hwrite⟩)
      refine ⟨Catalog.documents_insert _ _ _ _, fun db' coll' hother => ?_, hdurable, hbytes⟩
      rw [Catalog.collection?_insert]
      exact if_neg hother

theorem insert_refused_iff {key : String} :
    (s.insert db coll ds).1 = .error (.duplicateKey (db ++ "." ++ coll) key) ↔
      firstTaken? (s.catalog.takenIds db coll) (s.host.ensureIds ds).1 = some key := by
  rcases s.insert_cases db coll ds with
    ⟨own, s', htaken, hrun⟩ | ⟨htaken, e, s', hrun, -, hfails⟩ | ⟨htaken, s', hrun, -, -⟩
  · rw [hrun, htaken]
    simp
  · -- the errors of the journal are other ones
    rw [hrun, htaken]
    rcases hfails with ⟨-, rfl⟩ | ⟨-, -, rfl⟩ <;> simp
  · rw [hrun, htaken]
    simp

theorem insert_error {e : EngineError} (h : s.insert db coll ds = (.error e, s')) :
    (∃ key, e = .duplicateKey (db ++ "." ++ coll) key) ∨
      s.LogFails (.insert db coll ((s.host.ensureIds ds).1.map Document.toValue)) e := by
  rcases s.insert_cases db coll ds with
    ⟨key, s'', -, hrun⟩ | ⟨-, e', s'', hrun, hfails⟩ | ⟨-, s'', hrun, -, -⟩
  · obtain ⟨he, -⟩ := Prod.mk.inj (h.symm.trans hrun)
    exact Or.inl ⟨key, Except.error.inj he⟩
  · obtain ⟨he, -⟩ := Prod.mk.inj (h.symm.trans hrun)
    rw [Except.error.inj he]
    exact Or.inr hfails
  · cases h.symm.trans hrun

theorem insert_ok {n : Nat} (h : s.insert db coll ds = (.ok n, s')) :
    n = ds.length ∧ s.Gains s' db coll (s.host.ensureIds ds).1 := by
  rcases s.insert_cases db coll ds with
    ⟨key, s'', -, hrun⟩ | ⟨-, e, s'', hrun, -⟩ | ⟨-, s'', hrun, hgains, -⟩
  · cases h.symm.trans hrun
  · cases h.symm.trans hrun
  · obtain ⟨hn, rfl⟩ := Prod.mk.inj (h.symm.trans hrun)
    exact ⟨Except.ok.inj hn, hgains⟩

theorem insert_succeeds_iff : (∃ n s', s.insert db coll ds = (.ok n, s')) ↔
    firstTaken? (s.catalog.takenIds db coll) (s.host.ensureIds ds).1 = none ∧
      (s.isDurable = true →
        (Record.insert db coll ((s.host.ensureIds ds).1.map Document.toValue)).Fits ∧
        s.host.disk.failsAfter s.host.disk.writes = none) := by
  rcases s.insert_cases db coll ds with
    ⟨key, s', htaken, hrun⟩ | ⟨-, e, s', hrun, hdurable, hfails⟩ | ⟨htaken, s', hrun, -, hwrite⟩
  · rw [hrun, htaken]
    simp
  · rw [hrun]
    refine ⟨fun ⟨_, _, hok⟩ => (by cases hok), fun ⟨_, hwrite⟩ => ?_⟩
    obtain ⟨hfits, hnone⟩ := hwrite hdurable
    rcases hfails with ⟨hlong, -⟩ | ⟨-, ⟨n, hsome⟩, -⟩
    · exact absurd hfits hlong
    · cases hnone.symm.trans hsome
  · exact ⟨fun _ => ⟨htaken, hwrite⟩, fun _ => ⟨_, s', hrun⟩⟩

/-- The stores that calls lead to, opened on any file. The host goes its own way as well: its disk changes,
and ids are drawn by others. -/
inductive Reachable : Store → Prop where
  | opened {options : Options} {host : Host} {s : Store} (h : Store.open options host = .ok s) :
      Reachable s
  | call {s : Store} (h : Reachable s) (c : Call) : Reachable (c.run s).2
  | move {s : Store} (h : Reachable s) (host : Host) : Reachable { s with host }

theorem Reachable.told (h : s.Reachable) : s.catalog.Told := by
  induction h with
  | opened h => exact told_of_open h
  | call _ c ih => exact c.told_run ih
  | move _ host ih => exact ih

end Store

/-- **An insert is all or nothing**, on any store that calls lead to and for any batch. The documents are as
they were given, but for an `_id` in front of those that had none. The insert is refused for the first
document that has the text of one before it, stored or of the batch. Whatever it fails for, catalog, journal
and file are as they were. If it goes well, which it does unless a document clashes or the record of the
batch cannot be logged, the documents are at the end of the collection and in one more record, nothing else
has changed, and the answer is how many they are. -/
theorem insert_all_or_nothing {s : Store} (h : s.Reachable) (db coll : String) (ds : List Document) :
    let batch := (s.host.ensureIds ds).1
    let r : Record := .insert db coll (batch.map Document.toValue)
    (∀ i, batch[i]? = ds[i]?.map fun d : Document =>
      d.withId (s.host.oid (s.host.drawn + (ds.take i).countP fun d => !d.contains "_id"))) ∧
    (∀ key, (s.insert db coll ds).1 = .error (.duplicateKey (db ++ "." ++ coll) key) ↔
      Batch.FirstClash (s.scan db coll) batch key) ∧
    (∀ e s', s.insert db coll ds = (.error e, s') → s.SameContents s' ∧
      ((∃ key, e = .duplicateKey (db ++ "." ++ coll) key) ∨ s.LogFails r e)) ∧
    (∀ n s', s.insert db coll ds = (.ok n, s') → n = ds.length ∧ s.Gains s' db coll batch) ∧
    ((∃ n s', s.insert db coll ds = (.ok n, s')) ↔ Batch.Free (s.scan db coll) batch ∧
      (s.isDurable = true → r.Fits ∧ s.host.disk.failsAfter s.host.disk.writes = none)) := by
  intro batch r
  have htold : ∀ key, key ∈ s.catalog.takenIds db coll ↔ Batch.IsKeyOf key (s.scan db coll) :=
    fun key => h.told.mem_takenIds
  refine ⟨s.host.getElem?_ensureIds ds, fun key => ?_, fun e s' herror => ?_,
    fun n s' hok => Store.insert_ok hok, ?_⟩
  · rw [Store.insert_refused_iff]
    exact Batch.firstTaken?_eq_some_iff htold
  · exact ⟨Store.sameContents_of_insert herror, Store.insert_error herror⟩
  · rw [Store.insert_succeeds_iff, Batch.firstTaken?_eq_none_iff htold]

/-- A durable store refuses a batch that clashes with itself, and stores one that does not. -/
theorem insert_all_or_nothing_of_two :
    let host : Host := { ids := fun _ => "a", showTime := fun _ => "" }
    let kept : Document := ⟨[("_id", .bool true)]⟩
    let other : Document := ⟨[("x", .null)]⟩
    ∃ s, Store.open { dbpath := some "db" } host = .ok s ∧
      (s.insert "db" "notes" [kept, kept]).1 = .error (.duplicateKey "db.notes" "true") ∧
      ∃ s', s.insert "db" "notes" [kept, other] = (.ok 2, s') ∧
        s'.scan "db" "notes" = [kept, ⟨[("_id", host.oid 0), ("x", .null)]⟩] := by
  intro host kept other
  refine ⟨_, rfl, ?_⟩
  have hreachable : Store.Reachable _ :=
    .opened (show Store.open { dbpath := some "db" } host = .ok _ from rfl)
  obtain ⟨-, hclash, -⟩ := insert_all_or_nothing hreachable "db" "notes" [kept, kept]
  obtain ⟨-, -, -, hstored, hsucceeds⟩ := insert_all_or_nothing hreachable "db" "notes" [kept, other]
  have hfree : Batch.Free [] [kept] :=
    Batch.free_cons.mpr ⟨fun _ _ => by simp [Batch.IsKeyOf], Batch.free_nil⟩
  constructor
  · exact (hclash "true").mpr ⟨[kept], kept, [], rfl, hfree, rfl, kept, List.mem_cons_self, rfl⟩
  · have hfree' : Batch.Free [] [kept, ⟨[("_id", host.oid 0), ("x", .null)]⟩] := by
      refine Batch.free_cons.mpr ⟨fun _ _ => by simp [Batch.IsKeyOf],
        Batch.free_cons.mpr ⟨?_, Batch.free_nil⟩⟩
      rintro key hkey ⟨d, hd, htrue⟩
      obtain rfl := List.mem_singleton.mp hd
      exact absurd (htrue.trans hkey.symm) (by decide)
    obtain ⟨n, s', hrun⟩ :=
      hsucceeds.mpr ⟨hfree', fun _ => ⟨Record.fits_of_length_chars (by decide), rfl⟩⟩
    obtain ⟨rfl, hgains⟩ := hstored n s' hrun
    exact ⟨s', hrun, hgains.documents⟩

end DocStore
