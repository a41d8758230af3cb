import DocStore.Proofs.Client.Bindings
import DocStore.Proofs.Store.Changes
import DocStore.Proofs.Stream.Kept

/-!
# DocStore — streams that share a server

A stream fetches from one cursor of the server, its own.

* **`Server.read_aggregate_eq_ok`**, **`Server.read_getMore_eq_ok`** — what a batch that a client gets
  says of the cursor that the engine holds.
* **`ResultCursor.Leads.kept`** — a fetch spares the cursors of all others, so using a stream does.
-/

namespace DocStore

/-! ## §1 — replies with a batch -/

/-- The batch of a reply that describes a cursor is the one it was made of, if 64 bits hold the id. -/
theorem Reply.batch_cursor {command batchName : String} (hid : batchName ≠ "id")
    (hns : batchName ≠ "ns") (id : CursorId) (ns : String) (documents : List Document) :
    batch command batchName ((Reply.cursor id ns batchName documents).put "ok" .one)
      = if id < 2 ^ 63 then .ok ⟨id, documents⟩
        else .error (.unexpectedReply command .missingCursorId) := by
  have hcursor : (((Reply.cursor id ns batchName documents).put "ok" .one).field? "cursor").bind
      Value.asObject? = some [("id", .ofInt id), ("ns", .string ns),
        (batchName, .array (documents.map Document.toValue))] := rfl
  have hfirst : (Fields.find? [("id", Value.ofInt id), ("ns", .string ns),
      (batchName, .array (documents.map Document.toValue))] "id").bind Value.asInt?
        = if id < 2 ^ 63 then some id else none := Value.asInt?_ofInt id
  have hbatch : (Fields.find? [("id", Value.ofInt id), ("ns", .string ns),
      (batchName, .array (documents.map Document.toValue))] batchName).bind Value.asArray?
        = some (documents.map Document.toValue) := by
    simp [Fields.find?, List.lookup_cons, beq_false_of_ne hid, beq_false_of_ne hns, Value.asArray?]
  unfold batch
  simp only [hcursor, hfirst]
  by_cases hlt : id < 2 ^ 63
  · simp only [if_pos hlt, hbatch, Document.ofValues_map_toValue]
  · simp only [if_neg hlt]

/-- If such a reply is read, it is read as what it was made of. -/
theorem Reply.eq_of_batch_cursor {command batchName : String} (hid : batchName ≠ "id")
    (hns : batchName ≠ "ns") {id : CursorId} {ns : String} {documents : List Document}
    {b : CursorBatch}
    (h : batch command batchName ((Reply.cursor id ns batchName documents).put "ok" .one) = .ok b) :
    b = ⟨id, documents⟩ := by
  rw [batch_cursor hid hns] at h
  split at h
  · exact (Except.ok.inj h).symm
  · cases h

variable {id : CursorId} {ns : String} {rest : List Document}

namespace Server

/-- A request is answered by what its command is replied. -/
theorem send_eq_ok {α : Type} {s : Server} {r : Request α} {a : α} (h : (s.send r).1 = .ok a) :
    ∃ binding reply, (s.acquire.2.command binding r.database.text r.command).1 = .ok reply ∧
      r.answer reply = .ok a ∧
      (s.send r).2 = ((s.acquire.2.command binding r.database.text r.command).2.release binding).2 := by
  obtain ⟨binding, hrun, hlast⟩ := withBinding_eq_ok h
  refine ⟨binding, ?_⟩
  have hserver := engine_run r binding s.acquire.2
  unfold Request.run at hrun
  split at hrun
  · cases hrun
  · next reply s' heq =>
    refine ⟨reply, by rw [heq], hrun, ?_⟩
    rw [← hserver]
    exact hlast

theorem command_eq_ok {s : Server} {binding : ConnectionId} {db : String} {d reply : Document}
    (h : (s.command binding db d).1 = .ok reply) : (s.engine.command binding db d).1 = .ok reply := by
  have hanswer : (s.engine.command binding db d).1.mapError ClientError.engine = .ok reply := h
  cases hengine : (s.engine.command binding db d).1 with
  | error err =>
    rw [hengine] at hanswer
    cases hanswer
  | ok reply' =>
    rw [hengine] at hanswer
    have hsame : reply' = reply :=
      Except.ok.inj (show (Except.ok reply' : Except ClientError Document) = .ok reply from hanswer)
    rw [hsame]

/-- A `getMore` that is answered with a reply fetches from its cursor. -/
theorem fetchedId?_of_command_eq_ok {e : Engine} {binding : ConnectionId} {namesp : Namespace}
    {batchSize : Option Nat} {reply : Document}
    (h : (e.command binding namesp.database.text
      (ReadRequest.getMoreCommand namesp id batchSize)).1 = .ok reply) :
    (ReadRequest.getMoreCommand namesp id batchSize).fetchedId? = some id := by
  obtain ⟨c, htakes⟩ := Engine.takes_of_command_eq_ok h
  obtain ⟨name, hname, hread⟩ := htakes.read
  have hgetMore : (ReadRequest.getMoreCommand namesp id batchSize).firstName? = some "getMore" := rfl
  obtain rfl : "getMore" = name := Option.some.inj (hgetMore.symm.trans hname)
  obtain ⟨other, _, _, -, hfield⟩ := Command.readGetMore_eq_ok hread
  have hother : (ReadRequest.getMoreCommand namesp id batchSize).fetchedId? = some other := hfield
  rw [hother, fetchedId?_getMore hother]

/-- **A `getMore` that is answered** hands out the first documents that the cursor holds, at least
one. The cursor holds the others, and if there are none, the id in the answer is `0`. -/
theorem read_getMore_eq_ok {s : Server} {namesp : Namespace} {batchSize : Option Nat}
    {batch : CursorBatch} (h : s.engine.Holds id ns rest)
    (hok : (s.read (.getMore namesp id batchSize)).1 = .ok batch) :
    ∃ n, 0 < n ∧ rest ≠ [] ∧ batch = ⟨if rest.drop n = [] then 0 else id, rest.take n⟩ ∧
      (s.read (.getMore namesp id batchSize)).2.engine.Holds id ns (rest.drop n) := by
  obtain ⟨binding, reply, hreply, hanswer, hlast⟩ := send_eq_ok hok
  have hacquired : s.acquire.2.engine.Holds id ns rest := h.spares (spares_acquire h.sound)
  have hengine := command_eq_ok hreply
  rcases hacquired.command binding namesp.database.text (fetchedId?_of_command_eq_ok hengine) with
    ⟨err, herror, -⟩ | ⟨n, hn, hsome, hfetched, hholds, -⟩
  · exact absurd (herror.symm.trans hengine) (by simp)
  · obtain rfl : Engine.fetched id ns rest n = reply := Except.ok.inj (hfetched.symm.trans hengine)
    have hsent : (s.acquire.2.command binding namesp.database.text
        (ReadRequest.getMoreCommand namesp id batchSize)).2.engine.Holds id ns (rest.drop n) := hholds
    refine ⟨n, hn, hsome,
      Reply.eq_of_batch_cursor (show "nextBatch" ≠ "id" by decide) (by decide) hanswer, ?_⟩
    show ((s.send _).2).engine.Holds id ns (rest.drop n)
    rw [hlast]
    exact hsent.spares (spares_release hsent.sound binding)

/-- Acquiring a binding touches neither what is stored nor the cursors. -/
theorem engine_acquire (s : Server) : s.acquire.2.engine.store = s.engine.store ∧
    s.acquire.2.engine.nextCursor = s.engine.nextCursor := by
  unfold acquire Engine.openConnection
  split
  · exact ⟨rfl, rfl⟩
  · split
    · next heq =>
      split at heq
      · obtain ⟨-, rfl⟩ := Prod.mk.inj heq
        exact ⟨rfl, rfl⟩
      · cases heq
    · next heq =>
      split at heq
      · cases heq
      · obtain ⟨-, rfl⟩ := Prod.mk.inj heq
        exact ⟨rfl, rfl⟩

/-- **An `aggregate` that is answered** hands out the first documents of the result that its pipeline
has over what is stored. The others are held by a new cursor; if there are none, the id is `0`. -/
theorem read_aggregate_eq_ok {s : Server} {namesp : Namespace} {pipeline : List Document}
    {batchSize : Option Nat} {batch : CursorBatch} (h : s.engine.Sound)
    (hok : (s.read (.aggregate namesp pipeline batchSize)).1 = .ok batch) :
    ∃ p n, Pipeline.ofStages (pipeline.map Document.toValue) = .ok p ∧
      let results := p.run (s.engine.store.scan namesp.database.text namesp.collection)
      batch = ⟨if results.drop n = [] then 0 else s.engine.nextCursor, results.take n⟩ ∧
        (s.read (.aggregate namesp pipeline batchSize)).2.engine.Holds batch.id namesp.text
          (results.drop n) := by
  obtain ⟨binding, reply, hreply, hanswer, hlast⟩ := send_eq_ok hok
  have hacquired : Engine.Spares 0 s.engine s.acquire.2.engine := spares_acquire h
  obtain ⟨hstore, hnext⟩ := engine_acquire s
  have hengine := command_eq_ok hreply
  obtain ⟨c, htakes⟩ := Engine.takes_of_command_eq_ok hengine
  obtain ⟨name, hname, hread⟩ := htakes.read
  obtain rfl : "aggregate" = name := Option.some.inj hname
  obtain ⟨coll, stages, p, size, rfl, hcoll, hstages, hp⟩ := Command.readAggregate_eq_ok hread
  obtain rfl : namesp.collection = coll := Except.ok.inj hcoll
  obtain rfl : pipeline.map Document.toValue = stages := Except.ok.inj hstages
  obtain ⟨hfirst, hholds, -⟩ := Engine.command_of_aggregate hacquired.sound htakes
  rw [hstore, hnext] at hfirst hholds
  obtain rfl := Except.ok.inj (hfirst.symm.trans hengine)
  have hbatch := Reply.eq_of_batch_cursor (show "firstBatch" ≠ "id" by decide) (by decide) hanswer
  refine ⟨p, _, hp, hbatch, ?_⟩
  have hsent : (s.acquire.2.command binding namesp.database.text
      (ReadRequest.aggregateCommand namesp pipeline batchSize)).2.engine.Holds _ _ _ := hholds
  show ((s.send _).2).engine.Holds batch.id namesp.text _
  rw [hlast, hbatch]
  exact hsent.spares (spares_release hsent.sound binding)

end Server

/-! ## §2 — streams apart from a cursor -/

namespace ResultCursor

variable {α : Type}

/-- A cursor of a client does not fetch from the cursor of an id. -/
structure Apart (c : ResultCursor α) (id : CursorId) (s : Server) : Prop where
  sound : s.engine.Sound
  given : c.id < s.engine.nextCursor
  differs : c.id = id → id = 0

/-- Work with a cursor of a client spares the cursor of an id on the server, and leaves the one of the
client where it is or exhausted. -/
structure Leads (id : CursorId) (c : ResultCursor α) (s : Server) (c' : ResultCursor α)
    (s' : Server) : Prop where
  spares : Engine.Spares id s.engine s'.engine
  stays : c'.id = c.id ∨ c'.id = 0

variable {c c' c'' : ResultCursor α} {s s' s'' : Server}

theorem Apart.leads_self (h : c.Apart id s) : Leads id c s c s := ⟨h.sound.spares_self, Or.inl rfl⟩

theorem Leads.trans (h : Leads id c s c' s') (h' : Leads id c' s' c'' s'') : Leads id c s c'' s'' := by
  refine ⟨h.spares.trans h'.spares, ?_⟩
  rcases h'.stays with hsame | hzero
  · rw [hsame]
    exact h.stays
  · exact Or.inr hzero

theorem Apart.of_leads (h : c.Apart id s) (h' : Leads id c s c' s') : c'.Apart id s' := by
  have hnext := h'.spares.next
  refine ⟨h'.spares.sound, ?_, ?_⟩
  · rcases h'.stays with hsame | hzero
    · rw [hsame]
      exact Int.lt_of_lt_of_le h.given hnext
    · rw [hzero]
      exact h'.spares.sound.next
  · rcases h'.stays with hsame | hzero
    · rw [hsame]
      exact h.differs
    · rw [hzero]
      exact fun h0 => h0.symm

theorem Apart.nextBatch (h : c.Apart id s) :
    Leads id c s (c.nextBatch s).2.1 (c.nextBatch s).2.2 := by
  unfold ResultCursor.nextBatch
  split
  · exact ⟨h.sound.spares_self, Or.inl rfl⟩
  · split
    · exact h.leads_self
    · have hread : Engine.Spares id s.engine (s.read (.getMore c.ns c.id c.batchSize)).2.engine :=
        Server.spares_read h.sound _ fun hfetch => h.differs (Server.fetchedId?_getMore hfetch)
      -- the reply names the cursor itself or, at its end, none
      obtain ⟨ns, rest, hholds⟩ := h.sound.exists_holds h.given
      split
      · next heq =>
        rw [heq] at hread
        exact ⟨hread, Or.inl rfl⟩
      · next batch s' heq =>
        have hok : (s.read (.getMore c.ns c.id c.batchSize)).1 = .ok batch := by rw [heq]
        obtain ⟨n, -, -, hbatch, -⟩ := Server.read_getMore_eq_ok hholds hok
        rw [heq] at hread
        refine ⟨hread, ?_⟩
        show batch.id = c.id ∨ batch.id = 0
        rw [hbatch]
        by_cases hrest : rest.drop n = []
        · exact Or.inr (if_pos hrest)
        · exact Or.inl (if_neg hrest)

/-- Every fetch keeps a cursor apart, and leads on from wherever the cursor began. -/
theorem Leads.kept (c : ResultCursor α) (s : Server) :
    ItemStream.Kept fun (c' : ResultCursor α) s' => c'.Apart id s' ∧ Leads id c s c' s' := by
  rintro c' s' ⟨hapart, hleads⟩
  have hnext := hapart.nextBatch
  exact ⟨hapart.of_leads hnext, hleads.trans hnext⟩

theorem Apart.fetch (h : c.Apart id s) (fuel : Nat) :
    Leads id c s (ItemStream.fetch fuel c s).1.source (ItemStream.fetch fuel c s).2 :=
  ((Leads.kept c s).fetch fuel ⟨h, h.leads_self⟩).2

end ResultCursor

namespace ResultStream

variable {α : Type} {r : ResultStream α} {s : Server}

open ResultCursor (Apart Leads)

theorem leads_hasNext (h : r.source.Apart id s) :
    Leads id r.source s (r.hasNext s).2.1.source (r.hasNext s).2.2 :=
  ((Leads.kept r.source s).hasNext ⟨h, h.leads_self⟩).2

theorem leads_tryNext (h : r.source.Apart id s) :
    Leads id r.source s (r.tryNext s).2.1.source (r.tryNext s).2.2 :=
  ((Leads.kept r.source s).tryNext ⟨h, h.leads_self⟩).2

theorem leads_nextItem (h : r.source.Apart id s) :
    Leads id r.source s (r.nextItem s).2.1.source (r.nextItem s).2.2 :=
  ((Leads.kept r.source s).nextItem ⟨h, h.leads_self⟩).2

theorem leads_next? (h : r.source.Apart id s) :
    Leads id r.source s (r.next? s).2.1.source (r.next? s).2.2 :=
  ((Leads.kept r.source s).next? ⟨h, h.leads_self⟩).2

theorem leads_collect (h : r.source.Apart id s) :
    Leads id r.source s (r.collect s).2.1.source (r.collect s).2.2 :=
  ((Leads.kept r.source s).collect ⟨h, h.leads_self⟩).2

/-- Giving a stream up only takes cursors away. -/
theorem spares_discard (h : s.engine.Sound) :
    Engine.Spares id s.engine (ResultStream.discard r s).engine := by
  unfold ResultStream.discard ResultCursor.discard
  split
  · exact h.spares_self
  · exact Server.spares_write h _

end ResultStream

end DocStore
