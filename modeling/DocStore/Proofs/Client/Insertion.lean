import DocStore.Proofs.Client.Answers
import DocStore.Proofs.Client.Upkeep
import DocStore.Proofs.Engine.Taken

/-!
# DocStore — what is inserted is read back

Documents are inserted into an empty collection, one call after the other. Each of them goes from the
client through a command to the store, and gets an `_id` on the way if it has none: from the client, or
from the engine. In the end the collection holds the documents of the calls that went well, in the order
of the calls, and this is what a client reads of it.

* **`TypedCollection.insert_of_open`** — an insert by a client as one on the store. It makes no difference
  to the store who gives the `_id`.
* **`Insertion`**, **`Insertions`** — what inserting a document comes to, and several.
* **`Awaiting.insert`** — the step, **`Awaiting.insertAll`** — the run, by induction on the documents.
* **`inserted_documents_are_read_back`** — the main statement.
-/

namespace DocStore

variable {α : Type}

/-! ## §1 — one insert on an open server -/

/-- An insert touches the store and the counters. -/
theorem Engine.snd_performInsert (e : Engine) (db coll : String) (ds : List Document) :
    ∃ counters, (e.performInsert db coll ds).2
      = { e with store := (e.store.insert db coll ds).2, counters := counters } := by
  unfold performInsert
  rcases e.store.insert db coll ds with ⟨answer, store⟩
  cases answer with
  | error err => exact ⟨e.counters, rfl⟩
  | ok n => exact ⟨_, rfl⟩

/-- What comes of an insert into a store, when it is sent to an open server. -/
structure Server.Inserted (s s' : Server) (store : Store) : Prop where
  store : s'.engine.store = store
  running : s'.isClosed = false
  next : s'.engine.nextCursor = s.engine.nextCursor

theorem Server.Accounts.inserted_write {s : Server} (h : s.Accounts []) (hopen : s.isClosed = false)
    (ns : Namespace) (d : Document) :
    s.Inserted (s.write (.insert ns [d] rfl)).2
      (s.engine.store.insert ns.database.text ns.collection [d]).2 := by
  have hsend : s.write (.insert ns [d] rfl) = _ :=
    Server.send_of_open h hopen (r := (WriteRequest.insert ns [d] rfl).request) rfl
      (Command.ofDocument_insertCommand ns rfl)
  obtain ⟨counters, hperform⟩ := s.serving.snd_performInsert ns.database.text ns.collection [d]
  have hlast : (s.write (.insert ns [d] rfl)).2
      = s.served (s.serving.performInsert ns.database.text ns.collection [d]).2 :=
    congrArg Prod.snd hsend
  rw [hlast, hperform]
  exact ⟨rfl, hopen, rfl⟩

theorem Document.id?_of_not_contains {d : Document} (h : ¬ d.contains "_id" = true) : d.id? = none :=
  Option.not_isSome_iff_eq_none.mp h

namespace TypedCollection

/-- What a client sends to insert a document: the document with its `_id`, or, if the `_id` is left to the
engine, the document as it is. -/
theorem insert_eq (c : TypedCollection α) (d : Document) (s : Server) :
    c.insert d.toValue s = if c.codec.generateIds then
      c.insertEncoded (s.host.ensureId d).1 (s.withHost (s.host.ensureId d).2)
      else c.insertEncoded d s := by
  unfold insert Codec.encodeForInsert
  rw [show Codec.encode d.toValue = .ok d from rfl]
  cases c.codec.generateIds <;> rfl

/-- **A client that inserts a document** on an open server inserts it into the store, and it has its `_id`
by then. -/
theorem insert_of_open (c : TypedCollection α) {s : Server} (h : s.Accounts [])
    (hopen : s.isClosed = false) (d : Document) :
    let given := (s.host.ensureId d).1
    let inserted := Store.insert { s.engine.store with host := (s.host.ensureId d).2 }
      c.ns.database.text c.ns.collection [given]
    (c.insert d.toValue s).1 = (inserted.1.mapError .engine).map (fun _ =>
        if c.codec.generateIds || d.contains "_id" then given.id? else none) ∧
      s.Inserted (c.insert d.toValue s).2 inserted.2 := by
  intro given inserted
  rw [insert_eq]
  cases c.codec.generateIds with
  | true =>
    -- the client draws the `_id` from the host of the server, and the store finds it there
    have hhost := h.withHost (s.host.ensureId d).2
    have hanswer := c.fst_insertEncoded hhost given
    rw [show (s.withHost (s.host.ensureId d).2).isClosed = false from hopen] at hanswer
    refine ⟨hanswer, ?_⟩
    rw [if_pos rfl, c.insertEncoded_eq]
    obtain ⟨hstore, hstill, hnext⟩ := hhost.inserted_write hopen c.ns given
    exact ⟨hstore, hstill, hnext⟩
  | false =>
    -- the store draws the `_id` itself
    have hsame : s.engine.store.insert c.ns.database.text c.ns.collection [d] = inserted :=
      s.engine.store.insert_eq _ _ d
    have hanswer := c.fst_insertEncoded h d
    rw [hopen, hsame] at hanswer
    refine ⟨?_, ?_⟩
    · refine hanswer.trans (congrArg (fun id => Except.map (fun _ => id) _) ?_)
      rw [Bool.false_or]
      split
      · next hid =>
        unfold given
        rw [s.host.ensureId_of_contains hid]
      · next hnone => exact Document.id?_of_not_contains hnone
    · rw [if_neg (by decide), c.insertEncoded_eq, ← hsame]
      exact h.inserted_write hopen c.ns d

/-- Insert documents one after the other. -/
def insertAll (c : TypedCollection α) :
    List Document → Server → List (Except ClientError (Option Value)) × Server
  | [], s => ([], s)
  | d :: ds, s =>
    let (answer, s) := c.insert d.toValue s
    let (answers, s) := c.insertAll ds s
    (answer :: answers, s)

/-- The collection, read as documents. -/
def asDocuments (c : TypedCollection α) : TypedCollection Document := ⟨c.ns, c.codec, .document⟩

end TypedCollection

/-! ## §2 — what inserting comes to -/

namespace Host

/-- A host generates this `_id`, at some time or other. -/
def Generates (h : Host) (id : Value) : Prop := ∃ n, id = .object [("$oid", .string (h.ids n))]

/-- The ids that a host is going to generate for documents are fresh: an `_id` that a document gets has
another text than those of the documents before it. -/
def Fresh : Host → List Document → List Document → Prop
  | _, _, [] => True
  | h, before, d :: ds =>
    (d.contains "_id" = false → ∀ other ∈ before, other.idKey? ≠ (h.ensureId d).1.idKey?) ∧
      (h.ensureId d).2.Fresh (before ++ [(h.ensureId d).1]) ds

end Host

/-- The journal of a store, if there is one, can be written: no write fails from now on, and none of the
documents is too long for a record when it has its `_id`. -/
def Store.Writable (s : Store) (ns : Namespace) (ds : List Document) : Prop :=
  s.CanLog ((s.host.ensureIds ds).1.map fun d =>
    .insert ns.database.text ns.collection [d.toValue])

/-- What inserting a document into a collection comes to: the answer, and the documents that are stored
after it. -/
inductive Insertion (c : TypedCollection α) (host : Host) (stored : List Document) (d : Document) :
    Except ClientError (Option Value) → List Document → Prop where
  /-- The document is stored behind the others, with an `_id` of the host's in front if it had none. The
  answer is its `_id`, unless it had none and the engine gave it one. -/
  | stored {id : Value} (hid : host.Generates id)
      (hnew : ∀ other ∈ stored, other.idKey? ≠ (d.withId id).idKey?) :
      Insertion c host stored d
        (.ok (if c.codec.generateIds || d.contains "_id" then (d.withId id).id? else none))
        (stored ++ [d.withId id])
  /-- A document is stored that has the text of its `_id`. -/
  | refused {other : Document} (hother : other ∈ stored) {key : String}
      (hkey : d.idKey? = some key) (hsame : other.idKey? = some key) :
      Insertion c host stored d (.error (.engine (.duplicateKey c.ns.text key))) stored

/-- What inserting documents one after the other comes to. -/
inductive Insertions (c : TypedCollection α) (host : Host) :
    List Document → List Document → List (Except ClientError (Option Value)) → List Document →
      Prop where
  | nil {stored : List Document} : Insertions c host stored [] [] stored
  | cons {stored stored' last ds : List Document} {d : Document}
      {answer : Except ClientError (Option Value)} {answers : List (Except ClientError (Option Value))}
      (h : Insertion c host stored d answer stored') (hrest : Insertions c host stored' ds answers last) :
      Insertions c host stored (d :: ds) (answer :: answers) last

/-- There are as many documents more as calls that went well. -/
theorem Insertions.length_eq {c : TypedCollection α} {host : Host} {stored ds last : List Document}
    {answers : List (Except ClientError (Option Value))} (h : Insertions c host stored ds answers last) :
    last.length = stored.length + answers.countP Except.isOk := by
  induction h with
  | nil => simp
  | cons h _ ih =>
    cases h with
    | stored hid hnew =>
      rw [ih, List.length_append, List.countP_cons_of_pos rfl, List.length_singleton]
      omega
    | refused hother hkey hsame => rw [ih, List.countP_cons_of_neg Bool.false_ne_true]

/-! ## §3 — the run -/

/-- A server in use, whose collection holds these documents while others wait to be inserted. What is
stored is among those that were given, so ids that are fresh for these are new. -/
structure Awaiting (c : TypedCollection α) (host : Host) (stored before ds : List Document) (w : World) :
    Prop where
  reachable : w.Reachable
  running : w.server.isClosed = false
  cursors : w.server.engine.nextCursor < 2 ^ 63
  ids : w.server.host.ids = host.ids
  scan : w.server.engine.store.scan c.ns.database.text c.ns.collection = stored
  known : ∀ d ∈ stored, ∃ other ∈ before, other.idKey? = d.idKey?
  fresh : w.server.host.Fresh before ds
  writable : w.server.engine.store.Writable c.ns ds

/-- Ids are drawn on any disk alike. -/
theorem Host.fresh_withDisk (h : Host) (disk : Disk) (before ds : List Document) :
    (h.withDisk disk).Fresh before ds ↔ h.Fresh before ds := by
  induction ds generalizing h before with
  | nil => rfl
  | cons d ds ih =>
    unfold Fresh
    rw [ensureId_withDisk, ih]

theorem Host.generates_of_ids {h host : Host} (hids : h.ids = host.ids) :
    host.Generates h.drawId.1 :=
  ⟨h.drawn, by rw [← hids]; rfl⟩

theorem Host.ids_ensureId (h : Host) (d : Document) : (h.ensureId d).2.ids = h.ids := by
  unfold ensureId
  split <;> rfl

/-- The next world awaits the other documents. Between the two the host draws an `_id` or none, and its disk
is written or not. -/
theorem Awaiting.next {c : TypedCollection α} {host : Host} {stored before ds : List Document}
    {d : Document} {w : World} (h : Awaiting c host stored before (d :: ds) w) {stored' : List Document}
    {store : Store} {s' : Server} (hreachable : World.Reachable ⟨s', w.streams⟩)
    (hinserted : w.server.Inserted s' store) {disk : Disk}
    (hhost : store.host = (w.server.host.ensureId d).2.withDisk disk)
    (hscan : store.scan c.ns.database.text c.ns.collection = stored')
    (hknown : ∀ e ∈ stored', e ∈ stored ∨ e = (w.server.host.ensureId d).1)
    (hlog : store.CanLog (((w.server.host.ensureId d).2.ensureIds ds).1.map fun d =>
      .insert c.ns.database.text c.ns.collection [d.toValue])) :
    Awaiting c host stored' (before ++ [(w.server.host.ensureId d).1]) ds ⟨s', w.streams⟩ := by
  obtain ⟨hstore, hstill, hnext⟩ := hinserted
  have hhost' : s'.host = (w.server.host.ensureId d).2.withDisk disk :=
    (congrArg Store.host hstore).trans hhost
  refine ⟨hreachable, hstill, hnext.symm ▸ h.cursors, ?_, ?_, fun e he => ?_, ?_, ?_⟩
  · rw [hhost']
    exact (w.server.host.ids_ensureId d).trans h.ids
  · rw [hstore]
    exact hscan
  · rcases hknown e he with hold | rfl
    · obtain ⟨other, hother, hsame⟩ := h.known e hold
      exact ⟨other, List.mem_append_left _ hother, hsame⟩
    · exact ⟨_, List.mem_append_right _ (List.mem_singleton_self _), rfl⟩
  · rw [hhost', Host.fresh_withDisk]
    exact h.fresh.2
  · unfold Store.Writable
    rw [hstore, hhost, Host.ensureIds_withDisk]
    exact hlog

/-- **One document.** It is stored if its text is new, and refused if not, and then the text is its own. -/
theorem Awaiting.insert {c : TypedCollection α} {host : Host} {stored before ds : List Document}
    {d : Document} {w : World} (h : Awaiting c host stored before (d :: ds) w) :
    ∃ stored', Insertion c host stored d (c.insert d.toValue w.server).1 stored' ∧
      Awaiting c host stored' (before ++ [(w.server.host.ensureId d).1]) ds
        ((World.Call.insert c d.toValue).after w) := by
  obtain ⟨hanswer, hinserted⟩ := c.insert_of_open h.reachable.server.accounts h.running d
  have hreachable := h.reachable.call (.insert c d.toValue)
  have hcontains := w.server.host.contains_ensureId d
  have htaken : ∀ key, key ∈ w.server.engine.store.catalog.takenIds c.ns.database.text c.ns.collection ↔
      ∃ other ∈ stored, other.idKey? = some key := fun key => by
    rw [h.reachable.engine.told.mem_takenIds, ← h.scan]
    rfl
  have hlog : Store.CanLog { w.server.engine.store with host := (w.server.host.ensureId d).2 } _ :=
    h.writable.of_disk rfl (w.server.host.disk_ensureId d)
  obtain ⟨key, hkey⟩ := Document.exists_idKey hcontains
  -- by now the document has a text, and whether it is taken is a matter of what is stored
  by_cases hother : ∃ other ∈ stored, other.idKey? = some key
  · have hinsert := Store.insert_of_taken (s := { w.server.engine.store with
      host := (w.server.host.ensureId d).2 }) hcontains hkey ((htaken key).mpr hother)
    obtain ⟨other, hother, hsame⟩ := hother
    -- an `_id` that was generated would be new
    have hown : d.contains "_id" = true := by
      cases hid : d.contains "_id" with
      | true => rfl
      | false =>
        obtain ⟨first, hfirst, hfirstKey⟩ := h.known other hother
        exact absurd (hfirstKey.trans (hsame.trans hkey.symm)) (h.fresh.1 hid first hfirst)
    rw [hinsert] at hanswer hinserted
    rw [w.server.host.ensureId_of_contains hown] at hkey
    rw [hanswer]
    refine ⟨stored, .refused hother hkey hsame, ?_⟩
    exact h.next hreachable hinserted (Host.withDisk_self _).symm h.scan (fun e he => Or.inl he) hlog.tail
  · obtain ⟨journal, disk, hinsert, hrest⟩ := Store.insert_of_free (s := { w.server.engine.store with
      host := (w.server.host.ensureId d).2 }) hcontains (fun key' hkey' hmem => by
        obtain rfl := Option.some.inj (hkey.symm.trans hkey')
        exact hother ((htaken key).mp hmem)) hlog
    rw [hinsert] at hanswer hinserted
    rw [hanswer]
    have hgiven := w.server.host.fst_ensureId d
    refine ⟨stored ++ [(w.server.host.ensureId d).1], ?_, ?_⟩
    · rw [hgiven] at hkey ⊢
      refine .stored (Host.generates_of_ids h.ids) fun other hmem hsame => hother ⟨other, hmem, ?_⟩
      exact hsame.trans hkey
    · refine h.next hreachable hinserted rfl ?_ (fun e he => ?_) hrest
      · rw [← h.scan]
        exact Catalog.documents_insert _ _ _ _
      · exact (List.mem_append.mp he).imp_right List.mem_singleton.mp

/-- **All documents**, by induction on them. -/
theorem Awaiting.insertAll {c : TypedCollection α} {host : Host} {stored before ds : List Document}
    {w : World} (h : Awaiting c host stored before ds w) :
    ∃ stored' before', Insertions c host stored ds (c.insertAll ds w.server).1 stored' ∧
      Awaiting c host stored' before' [] ⟨(c.insertAll ds w.server).2, w.streams⟩ := by
  induction ds generalizing stored before w with
  | nil => exact ⟨stored, before, .nil, h⟩
  | cons d ds ih =>
    obtain ⟨stored', hfirst, hnext⟩ := h.insert
    obtain ⟨last, before', hrest, hlast⟩ := ih hnext
    exact ⟨last, before', .cons hfirst hrest, hlast⟩

/-! ## §4 — reading back -/

/-- Counting everything, on an open server. -/
theorem TypedCollection.count_of_open (c : TypedCollection α) {s : Server} (h : s.Accounts [])
    (hopen : s.isClosed = false) :
    (c.count s).1 = .ok (s.engine.store.scan c.ns.database.text c.ns.collection).length := by
  obtain ⟨f, hfilter, haccepts⟩ : ∃ f, Filter.ofValue .null = .ok f ∧ ∀ d, f.accepts d = true :=
    ⟨_, rfl, fun _ => rfl⟩
  have hcount : (ReadRequest.count c.ns none).result s.engine
      = .ok (s.engine.store.scan c.ns.database.text c.ns.collection).length := by
    show (Filter.ofValue .null).map (s.engine.store.count c.ns.database.text c.ns.collection) = _
    rw [hfilter]
    refine congrArg Except.ok ((s.engine.store.count_eq _ _ f).trans (congrArg List.length ?_))
    exact List.filter_eq_self.mpr fun d _ => haccepts d
  refine (h.fst_read (r := .count c.ns none) rfl trivial).trans ?_
  rw [hopen, hcount]
  rfl

/-- **What is inserted is read back.** On an open server in use, take a collection without documents, insert
documents into it one after the other, and let the client or the engine give them their `_id`s. Whatever
batches it comes in, an empty pipeline then yields what was stored by the calls that went well, in the
order of the calls (`Insertions`), and that many documents are counted. The ids that the host generates
have to be fresh, and the journal, if there is one, has to be writable. Ids of cursors are numbers of 64
bits, and there has to be one left. -/
theorem inserted_documents_are_read_back {w : World} (h : w.Reachable)
    (hopen : w.server.isClosed = false) (hids : w.server.engine.nextCursor < 2 ^ 63)
    (c : TypedCollection α)
    (hempty : w.server.engine.store.scan c.ns.database.text c.ns.collection = [])
    {ds : List Document} (hfresh : w.server.host.Fresh [] ds)
    (hwritable : w.server.engine.store.Writable c.ns ds)
    {answers : List (Except ClientError (Option Value))} {s : Server}
    (hrun : c.insertAll ds w.server = (answers, s)) :
    ∃ stored, Insertions c w.server.host [] ds answers stored ∧
      (∀ batchSize, ∃ a, c.asDocuments.aggregate [] batchSize = .ok a ∧
        (a.collect s).1 = .ok stored) ∧
      (c.count s).1 = .ok (answers.countP Except.isOk) := by
  have hfirst : Awaiting c w.server.host [] [] ds w :=
    ⟨h, hopen, hids, rfl, hempty, by simp, hfresh, hwritable⟩
  obtain ⟨stored, _, hinserted, hlast⟩ := hfirst.insertAll
  rw [hrun] at hinserted hlast
  have haccounts : s.Accounts [] := hlast.reachable.server.accounts
  have hready : s.Ready := ⟨haccounts, hlast.running, hlast.reachable.apart.sound, hlast.cursors⟩
  refine ⟨stored, hinserted, fun batchSize => ⟨⟨c.asDocuments, [], batchSize⟩, rfl, ?_⟩, ?_⟩
  -- both read the collection as the last insert has left it
  · have hcollect := Aggregation.collect_of_ready hready (a := ⟨c.asDocuments, [], batchSize⟩) rfl
      (p := []) rfl rfl rfl
    rw [hcollect]
    exact congrArg Except.ok hlast.scan
  · have hlength := hinserted.length_eq
    rw [List.length_nil, Nat.zero_add] at hlength
    rw [c.count_of_open haccounts hlast.running, ← hlength]
    exact congrArg (fun ds : List Document => Except.ok ds.length) hlast.scan

/-- A document that gets an `_id` from the client, one that has one, and one with the same: two of them are
read back, and the last one is refused. -/
theorem inserted_documents_are_read_back_of_duplicate :
    let host : Host := { ids := fun _ => "a", showTime := fun _ => "" }
    let notes : Namespace := ⟨⟨"db", by decide⟩, "notes", by decide⟩
    let c : TypedCollection Value := ⟨notes, {}, .value⟩
    let generated : Value := .object [("$oid", .string "a")]
    let ds : List Document := [⟨[("n", .ofNat 1)]⟩, ⟨[("_id", .ofNat 1)]⟩,
      ⟨[("n", .ofNat 2), ("_id", .ofNat 1)]⟩]
    ∃ s₀ s, Server.start {} host = .ok s₀ ∧ s₀.host.Fresh [] ds ∧ s₀.engine.store.Writable notes ds ∧
      c.insertAll ds s₀ = ([.ok (some generated), .ok (some (.ofNat 1)),
        .error (.engine (.duplicateKey "db.notes" "1"))], s) ∧
      (∀ batchSize, ∃ a, c.asDocuments.aggregate [] batchSize = .ok a ∧
        (a.collect s).1 = .ok [⟨[("_id", generated), ("n", .ofNat 1)]⟩, ⟨[("_id", .ofNat 1)]⟩]) ∧
      (c.count s).1 = .ok 2 := by
  intro host notes c generated ds
  obtain ⟨s₀, hstart⟩ : ∃ s₀, Server.start {} host = .ok s₀ := ⟨_, rfl⟩
  have hreachable := World.Reachable.start hstart
  obtain ⟨hopen, hids, hscan, hhost, hjournal⟩ : s₀.isClosed = false ∧ s₀.engine.nextCursor = 1 ∧
      s₀.engine.store.scan "db" "notes" = [] ∧ s₀.host = host ∧ s₀.engine.store.journal = none := by
    obtain rfl := Except.ok.inj hstart
    exact ⟨rfl, rfl, rfl, rfl, rfl⟩
  have hone : (Value.ofNat 1).text = "1" := by decide +kernel
  have hgenerated : generated.text = "\x7b\"$oid\":\"a\"\x7d" := by decide +kernel
  have hfresh : host.Fresh [] ds :=
    ⟨fun _ => by simp, fun hid => absurd hid (by decide), fun hid => absurd hid (by decide), trivial⟩
  have hwritable : s₀.engine.store.Writable notes ds := by
    intro hdurable
    rw [hjournal] at hdurable
    cases hdurable
  rcases hrun : c.insertAll ds s₀ with ⟨answers, s⟩
  obtain ⟨stored, hinserted, hread, hcount⟩ := inserted_documents_are_read_back hreachable hopen
    (hids ▸ by decide) c hscan (hhost ▸ hfresh) hwritable hrun
  rw [show (World.mk s₀ []).server.host = host from hhost] at hinserted
  unfold ds at hinserted
  cases hinserted with | cons hfirst hinserted =>
  cases hinserted with | cons hsecond hinserted =>
  cases hinserted with | cons hthird hinserted =>
  cases hinserted
  -- nothing is stored at first, so the first document is new
  cases hfirst with
  | refused hother => cases hother
  | stored hid hnew =>
  obtain ⟨_, rfl⟩ := hid
  -- the second one has another text, and the third one has the text of the second
  cases hsecond with
  | refused hother hkey hsame =>
    obtain rfl := List.mem_singleton.mp hother
    have hkeys : some generated.text = some (Value.ofNat 1).text := hsame.trans hkey.symm
    rw [hone, hgenerated] at hkeys
    exact absurd (Option.some.inj hkeys) (by decide)
  | stored hid' hnew' =>
  cases hthird with
  | stored hid'' hnew'' =>
    exact absurd rfl (hnew'' ⟨[("_id", .ofNat 1)]⟩ (List.mem_append_right _ (List.mem_singleton.mpr rfl)))
  | refused hother hkey hsame =>
  have hkey : some (Value.ofNat 1).text = _ := hkey
  rw [hone] at hkey
  obtain rfl := Option.some.inj hkey
  exact ⟨s₀, s, hstart, hhost ▸ hfresh, hwritable, hrun, hread, hcount⟩

end DocStore
