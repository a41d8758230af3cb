import DocStore.Proofs.Engine.Cursors
import DocStore.Proofs.Outcome

/-!
# DocStore — what commands do to cursors

A command document fetches from a cursor if it is a `getMore` that names the cursor's id
(`Document.fetchedId?`). For every other document the cursor is spared, whatever the engine answers.

* **`Engine.spares_command`** — a command that does not fetch from a cursor spares it.
* **`Engine.Holds`** — a cursor of a namespace holds these documents, if it is still there.
* **`Engine.Holds.command`** — a command that fetches from the cursor fails and changes nothing of
  it, or hands out its first documents and leaves the others.
* **`Engine.command_of_aggregate`** — an `aggregate` hands out the first documents of the result and
  leaves the others in a new cursor.
-/

namespace DocStore

/-! ## §1 — documents that fetch -/

/-- The cursor id that a command document names if it is a `getMore`. -/
def Document.fetchedId? (d : Document) : Option CursorId :=
  if d.firstName? = some "getMore" then (d.field? "getMore").bind Value.asInt? else none

theorem Document.fetchedId?_eq_some {d : Document} {id : CursorId} (h : d.fetchedId? = some id) :
    d.firstName? = some "getMore" ∧ (d.field? "getMore").bind Value.asInt? = some id := by
  unfold fetchedId? at h
  split at h
  · next hname => exact ⟨hname, h⟩
  · cases h

namespace Command

variable {d : Document} {id : CursorId} {coll : String} {batchSize : Option Nat}

/-- The other readers read no `getMore`. -/
theorem readInsert_ne_getMore : readInsert d ≠ .ok (.getMore id coll batchSize) := by
  intro h
  obtain ⟨_, -, h⟩ := ok_of_bind h
  obtain ⟨_, -, h⟩ := ok_of_bind h
  obtain ⟨_, -, h⟩ := ok_of_bind h
  split at h <;> cases h

theorem readCount_ne_getMore : readCount d ≠ .ok (.getMore id coll batchSize) := by
  intro h
  obtain ⟨_, -, h⟩ := ok_of_bind h
  obtain ⟨_, -, h⟩ := ok_of_bind h
  cases h

theorem readAggregate_ne_getMore : readAggregate d ≠ .ok (.getMore id coll batchSize) := by
  intro h
  obtain ⟨_, -, h⟩ := ok_of_bind h
  obtain ⟨_, -, h⟩ := ok_of_bind h
  obtain ⟨_, -, h⟩ := ok_of_bind h
  obtain ⟨_, -, h⟩ := ok_of_bind h
  obtain ⟨_, -, h⟩ := ok_of_bind h
  cases h

theorem readKillCursors_ne_getMore : readKillCursors d ≠ .ok (.getMore id coll batchSize) := by
  intro h
  obtain ⟨_, -, h⟩ := ok_of_bind h
  obtain ⟨_, -, h⟩ := ok_of_bind h
  cases h

theorem readDrop_ne_getMore : readDrop d ≠ .ok (.getMore id coll batchSize) := by
  intro h
  obtain ⟨_, -, h⟩ := ok_of_bind h
  cases h

theorem readGetMore_eq_ok {c : Command} (h : readGetMore d = .ok c) :
    ∃ id coll batchSize, c = .getMore id coll batchSize ∧
      (d.field? "getMore").bind Value.asInt? = some id := by
  unfold readGetMore at h
  split at h
  · cases h
  · next id hid =>
    obtain ⟨coll, -, h⟩ := ok_of_bind h
    obtain ⟨batchSize, -, h⟩ := ok_of_bind h
    exact ⟨id, coll, batchSize, (Except.ok.inj h).symm, hid⟩

/-- An `aggregate` runs the pipeline that its document holds over the collection that it names. -/
theorem readAggregate_eq_ok {c : Command} (h : readAggregate d = .ok c) :
    ∃ coll stages pipeline batchSize, c = .aggregate coll pipeline batchSize ∧
      d.stringField "aggregate" = .ok coll ∧ d.arrayField "pipeline" = .ok stages ∧
      Pipeline.ofStages stages = .ok pipeline := by
  obtain ⟨coll, hcoll, h⟩ := ok_of_bind h
  obtain ⟨stages, hstages, h⟩ := ok_of_bind h
  obtain ⟨pipeline, hpipeline, h⟩ := ok_of_bind h
  obtain ⟨_, -, h⟩ := ok_of_bind h
  obtain ⟨batchSize, -, h⟩ := ok_of_bind h
  obtain ⟨name, hname, hcoll⟩ := ok_of_bind hcoll
  obtain ⟨_, -, hcoll⟩ := ok_of_bind hcoll
  obtain rfl : name = coll := Except.ok.inj hcoll
  exact ⟨name, stages, pipeline, batchSize, (Except.ok.inj h).symm, hname, hstages, hpipeline⟩

/-- Only a document named so is read as a `getMore`. -/
theorem ofDocument_eq_getMore {name : String}
    (h : ofDocument name d = .ok (.getMore id coll batchSize)) :
    name = "getMore" ∧ (d.field? "getMore").bind Value.asInt? = some id := by
  unfold ofDocument at h
  split at h
  · cases h
  · cases h
  · cases h
  · cases h
  · cases h
  · cases h
  · cases h
  · exact absurd h readInsert_ne_getMore
  · exact absurd h readCount_ne_getMore
  · exact absurd h readAggregate_ne_getMore
  · obtain ⟨id', coll', batchSize', heq, hid⟩ := readGetMore_eq_ok h
    injection heq with heq
    exact ⟨rfl, heq ▸ hid⟩
  · exact absurd h readKillCursors_ne_getMore
  · cases h
  · cases h
  · exact absurd h readDrop_ne_getMore
  · cases h
  · cases h

end Command

namespace Engine

variable {e e' : Engine} {id : CursorId}

/-! ## §2 — commands that do not fetch -/

/-- Killing cursors takes cursors away, and nothing else. -/
theorem killCursors_sublist (e : Engine) (ns : String) (ids : List Value) :
    (e.killCursors ns ids).2.cursors.Sublist e.cursors ∧
      (e.killCursors ns ids).2.nextCursor = e.nextCursor := by
  induction ids generalizing e with
  | nil => exact ⟨List.Sublist.refl _, rfl⟩
  | cons v vs ih =>
    unfold killCursors
    split
    · exact ⟨List.Sublist.refl _, rfl⟩
    · next other _ =>
      have hone : ∀ found : Bool, (if found then e.removeCursor other else e).cursors.Sublist e.cursors ∧
          (if found then e.removeCursor other else e).nextCursor = e.nextCursor := by
        intro found
        cases found
        · exact ⟨List.Sublist.refl _, rfl⟩
        · exact ⟨List.filter_sublist, rfl⟩
      -- one id takes one cursor away or none, the others go on from there
      obtain ⟨hsub, hnext⟩ := hone ((e.cursor? other).any (·.ns = ns))
      obtain ⟨hsub', hnext'⟩ :=
        ih (if (e.cursor? other).any (·.ns = ns) then e.removeCursor other else e)
      simp only
      split
      · next heq =>
        rw [heq] at hsub' hnext'
        exact ⟨hsub'.trans hsub, hnext'.trans hnext⟩
      · next heq =>
        rw [heq] at hsub' hnext'
        exact ⟨hsub'.trans hsub, hnext'.trans hnext⟩

/-- A fetch as it goes: it fails and changes nothing, or takes from the cursor it names. -/
theorem performGetMore_cases (e : Engine) (db : String) (id : CursorId) (coll : String)
    (batchSize : Option Nat) :
    (∃ err, e.performGetMore db id coll batchSize = (.error err, e)) ∨
      ∃ c n counters, e.cursor? id = some c ∧ c.ns = namespaceText db coll ∧
        n = max (batchSize.getD e.options.batchSize) 1 ∧
        e.performGetMore db id coll batchSize
          = (.ok (Reply.cursor (if c.remaining.drop n = [] then 0 else id) c.ns "nextBatch"
              (c.remaining.take n)), { e with counters := counters }.takeFrom id c n) := by
  unfold performGetMore
  cases hc : e.cursor? id with
  | none => exact Or.inl ⟨_, rfl⟩
  | some c =>
    simp only
    split
    · exact Or.inl ⟨_, rfl⟩
    · next hns =>
      have hns : c.ns = namespaceText db coll := by simpa using hns
      refine Or.inr ⟨c, _, { e.counters with getMores := e.counters.getMores + 1 }, rfl, hns, rfl, ?_⟩
      unfold takeFrom
      by_cases hrest : c.remaining.drop (max (batchSize.getD e.options.batchSize) 1) = []
      · rw [if_pos (List.isEmpty_iff.mpr hrest), if_pos (List.isEmpty_iff.mpr hrest), if_pos hrest,
          hns]
      · have hsome : ¬ (c.remaining.drop (max (batchSize.getD e.options.batchSize) 1)).isEmpty = true :=
          fun hnone => hrest (List.isEmpty_iff.mp hnone)
        rw [if_neg hsome, if_neg hsome, if_neg hrest, hns]

/-- **What a command does to the table of cursors**: some of them go, or a new one is parked, or one
is fetched from. One case for each command. -/
theorem perform_table (e : Engine) (db : String) (c : Command) :
    ((e.perform db c).2.cursors.Sublist e.cursors ∧
        (e.perform db c).2.nextCursor = e.nextCursor) ∨
      (∃ coll pipeline batchSize counters rest, c = .aggregate coll pipeline batchSize ∧
        (e.perform db c).2
          = (parkCursor { e with counters := counters } (namespaceText db coll) rest).2) ∨
      ∃ id coll batchSize counters cursor n, c = .getMore id coll batchSize ∧
        e.cursor? id = some cursor ∧
        (e.perform db c).2 = { e with counters := counters }.takeFrom id cursor n := by
  cases c with
  | ping => exact Or.inl ⟨List.Sublist.refl _, rfl⟩
  | hello => exact Or.inl ⟨List.Sublist.refl _, rfl⟩
  | buildInfo => exact Or.inl ⟨List.Sublist.refl _, rfl⟩
  | serverStatus => exact Or.inl ⟨List.Sublist.refl _, rfl⟩
  | insert coll ds =>
    simp only [perform, performInsert]
    split <;> exact Or.inl ⟨List.Sublist.refl _, rfl⟩
  | count coll filter => exact Or.inl ⟨List.Sublist.refl _, rfl⟩
  | aggregate coll pipeline batchSize => exact Or.inr (Or.inl ⟨_, _, _, _, _, rfl, rfl⟩)
  | getMore id coll batchSize =>
    show ((e.performGetMore db id coll batchSize).2.cursors.Sublist e.cursors ∧
      (e.performGetMore db id coll batchSize).2.nextCursor = e.nextCursor) ∨ _
    rcases performGetMore_cases e db id coll batchSize with
      ⟨err, hrun⟩ | ⟨c, n, counters, hcursor, -, -, hrun⟩
    · rw [hrun]
      exact Or.inl ⟨List.Sublist.refl _, rfl⟩
    · exact Or.inr (Or.inr ⟨id, coll, batchSize, counters, c, n, rfl, hcursor,
        congrArg Prod.snd hrun⟩)
  | killCursors coll ids =>
    have hkilled := killCursors_sublist e (namespaceText db coll) ids
    simp only [perform, performKillCursors]
    split
    · next heq =>
      rw [heq] at hkilled
      exact Or.inl hkilled
    · next heq =>
      rw [heq] at hkilled
      exact Or.inl hkilled
  | listCollections => exact Or.inl ⟨List.Sublist.refl _, rfl⟩
  | listDatabases => exact Or.inl ⟨List.Sublist.refl _, rfl⟩
  | drop coll =>
    simp only [perform, performDrop]
    split
    · exact Or.inl ⟨List.Sublist.refl _, rfl⟩
    · exact Or.inl ⟨List.filter_sublist, rfl⟩
  | dropDatabase =>
    simp only [perform, performDropDatabase]
    split <;> exact Or.inl ⟨List.Sublist.refl _, rfl⟩

/-- **What is asked for spares a cursor**, unless it is a fetch from it. -/
theorem spares_perform (h : e.Sound) (db : String) {c : Command}
    (hc : ∀ coll batchSize, c = .getMore id coll batchSize → id = 0) :
    Spares id e (e.perform db c).2 := by
  have hcounted : ∀ counters, Spares id e { e with counters := counters } :=
    fun counters => spares_of_eq h rfl rfl
  rcases perform_table e db c with
    ⟨hsub, hnext⟩ | ⟨coll, _, _, counters, rest, -, hrun⟩ |
      ⟨other, coll, batchSize, counters, cursor, n, rfl, hcursor, hrun⟩
  · exact spares_of_sublist h hsub hnext
  · rw [hrun]
    exact (hcounted counters).trans (spares_parkCursor (hcounted counters).sound _ rest)
  · rw [hrun]
    by_cases hne : id = other
    · -- the fetch names the id itself, which is then no cursor's
      subst hne
      have hzero := hc coll batchSize rfl
      rw [hzero, h.cursor?_zero] at hcursor
      cases hcursor
    · exact (hcounted counters).trans (spares_takeFrom (hcounted counters).sound hne cursor n)

/-- **A command that does not fetch from a cursor spares it**, whatever it is answered. The id `0` is
no cursor's, so no command fetches from it. -/
theorem spares_command (h : e.Sound) (connection : ConnectionId) (db : String) {d : Document}
    (hd : d.fetchedId? = some id → id = 0) : Spares id e (e.command connection db d).2 := by
  unfold command
  split
  · exact h.spares_self
  split
  · unfold run
    have hcounted : Spares id e e.countCommand := spares_of_eq h rfl rfl
    split
    · exact h.spares_self
    · exact h.spares_self
    · next name _ hname =>
      simp only
      split
      · exact hcounted
      · next c hcommand =>
        -- the command is a fetch from the cursor only if the document is
        have hc : ∀ coll batchSize, c = .getMore id coll batchSize → id = 0 := by
          rintro coll batchSize rfl
          obtain ⟨rfl, hid⟩ := Command.ofDocument_eq_getMore hcommand
          exact hd (by rw [Document.fetchedId?, if_pos hname, hid])
        have hperform := hcounted.trans (spares_perform hcounted.sound db hc)
        split
        · next heq =>
          rw [heq] at hperform
          exact hperform
        · next heq =>
          rw [heq] at hperform
          exact hperform
  · exact h.spares_self

/-! ## §3 — other work on an engine -/

theorem spares_openConnection (h : e.Sound) : Spares id e e.openConnection.2 := by
  unfold openConnection
  split
  · exact h.spares_self
  · exact spares_of_eq h rfl rfl

theorem spares_closeConnection (h : e.Sound) (connection : ConnectionId) :
    Spares id e (e.closeConnection connection).2 := by
  unfold closeConnection
  split
  · exact spares_of_eq h rfl rfl
  split <;> exact h.spares_self

theorem spares_pump (h : e.Sound) : Spares id e e.pump.2 := by
  unfold pump
  split
  · exact h.spares_self
  · split <;> exact spares_of_sublist h List.filter_sublist rfl

theorem spares_close (h : e.Sound) : Spares id e e.close.2 := by
  unfold close
  split
  · exact h.spares_self
  · exact spares_of_sublist h (List.nil_sublist _) rfl

/-! ## §4 — commands that fetch -/

/-- The cursor of an id holds these documents for a namespace, or is gone for good. -/
structure Holds (e : Engine) (id : CursorId) (ns : String) (rest : List Document) : Prop where
  sound : e.Sound
  given : id < e.nextCursor
  cursor : ∀ c, e.cursor? id = some c → c.ns = ns ∧ c.remaining = rest

variable {ns : String} {rest : List Document}

/-- The cursor of an id that was given out holds something, or nothing if it is gone. -/
theorem Sound.exists_holds (h : e.Sound) (hid : id < e.nextCursor) : ∃ ns rest, e.Holds id ns rest := by
  cases hc : e.cursor? id with
  | none => exact ⟨"", [], h, hid, fun c hc' => by simp [hc] at hc'⟩
  | some c =>
    refine ⟨c.ns, c.remaining, h, hid, fun c' hc' => ?_⟩
    obtain rfl : c = c' := Option.some.inj (hc.symm.trans hc')
    exact ⟨rfl, rfl⟩

theorem Holds.spares (h : e.Holds id ns rest) (h' : Spares id e e') : e'.Holds id ns rest :=
  ⟨h'.sound, Int.lt_of_lt_of_le h.given h'.next, fun c hc => h.cursor c (h'.same h.given c hc)⟩

/-- The reply to a fetch of `n` documents. The id is `0` if they are the last ones. -/
def fetched (id : CursorId) (ns : String) (rest : List Document) (n : Nat) : Document :=
  (Reply.cursor (if rest.drop n = [] then 0 else id) ns "nextBatch" (rest.take n)).put "ok" .one

/-- **A command that fetches from a cursor** fails, and the cursor holds what it held, or hands out
the first documents of the cursor, which then holds the others. -/
theorem Holds.command (h : e.Holds id ns rest) (connection : ConnectionId) (db : String)
    {d : Document} (hd : d.fetchedId? = some id) :
    (∃ err, (e.command connection db d).1 = .error err ∧
      Spares id e (e.command connection db d).2 ∧
      (e.command connection db d).2.cursor? id = e.cursor? id) ∨
      ∃ n, 0 < n ∧ rest ≠ [] ∧ (e.command connection db d).1 = .ok (fetched id ns rest n) ∧
        (e.command connection db d).2.Holds id ns (rest.drop n) ∧
        (rest.drop n ≠ [] → ((e.command connection db d).2.cursor? id).isSome) := by
  obtain ⟨hname, hid⟩ := Document.fetchedId?_eq_some hd
  have hcounted : Spares id e e.countCommand := spares_of_eq h.sound rfl rfl
  unfold Engine.command
  split
  · exact Or.inl ⟨_, rfl, h.sound.spares_self, rfl⟩
  split
  · unfold run
    rw [hname]
    split
    · exact Or.inl ⟨_, rfl, h.sound.spares_self, rfl⟩
    · next hnone => cases hnone
    · next name _ hsome =>
      obtain rfl := Option.some.inj hsome
      simp only
      cases hcommand : Command.ofDocument "getMore" d with
      | error err => exact Or.inl ⟨_, rfl, hcounted, rfl⟩
      | ok c =>
        obtain ⟨id', coll, batchSize, rfl, hid'⟩ := Command.readGetMore_eq_ok hcommand
        obtain rfl : id = id' := Option.some.inj (hid.symm.trans hid')
        rcases performGetMore_cases e.countCommand db id coll batchSize with
          ⟨err, hrun⟩ | ⟨c, n, counters, hcursor, hns, hn, hrun⟩
        · simp only [perform, hrun]
          exact Or.inl ⟨_, rfl, hcounted, rfl⟩
        · -- counting the fetch leaves the table alone, so the cursor holds what it held
          have hkept := h.spares hcounted
          obtain ⟨rfl, rfl⟩ := hkept.cursor c hcursor
          have hfetch : Spares id e.countCommand { e.countCommand with counters := counters } :=
            spares_of_eq hcounted.sound rfl rfl
          obtain ⟨htaken, hnext, hrest, hthere⟩ := hfetch.sound.takeFrom hcursor n
          simp only [perform, hrun]
          refine Or.inr ⟨n, by omega, hkept.sound.remaining_ne_nil hcursor, rfl,
            ⟨htaken, ?_, hrest⟩, hthere⟩
          rw [hnext]
          exact hkept.given
  · exact Or.inl ⟨_, rfl, h.sound.spares_self, rfl⟩

/-! ## §5 — commands that are carried out -/

/-- A command document that is read as this command is sent on a connection that takes it. -/
structure Takes (e : Engine) (connection : ConnectionId) (db : String) (d : Document)
    (c : Command) : Prop where
  running : e.closed = false
  connected : e.connections.contains connection = true
  database : checkDatabaseName db = .ok ()
  read : ∃ name, d.firstName? = some name ∧ Command.ofDocument name d = .ok c

/-- Such a command is performed, and a reply to it ends in `ok`. -/
theorem Takes.command {connection : ConnectionId} {db : String} {d : Document} {c : Command}
    (h : e.Takes connection db d c) :
    e.command connection db d =
      match e.countCommand.perform db c with
      | (.error err, e) => (.error err, e)
      | (.ok reply, e) => (.ok (reply.put "ok" .one), e) := by
  obtain ⟨name, hname, hread⟩ := h.read
  have hrun : e.command connection db d = e.run db d := by
    unfold Engine.command
    rw [if_neg (by simp [h.running]), if_pos h.connected]
  rw [hrun]
  unfold run
  rcases hperform : e.countCommand.perform db c with ⟨answer, e'⟩
  cases answer <;> simp only [h.database, hname, hread, hperform]

/-- Only a command that the engine takes is answered with a reply. -/
theorem takes_of_command_eq_ok {connection : ConnectionId} {db : String} {d reply : Document}
    (h : (e.command connection db d).1 = .ok reply) : ∃ c, e.Takes connection db d c := by
  unfold Engine.command at h
  split at h
  · cases h
  next hrunning =>
  split at h
  · next hconnected =>
    unfold run at h
    split at h
    · cases h
    · cases h
    · next name hdatabase hname =>
      cases hread : Command.ofDocument name d with
      | error err =>
        simp only [hread] at h
        cases h
      | ok c => exact ⟨c, by simpa using hrunning, hconnected, hdatabase, name, hname, hread⟩
  · cases h

/-- What is parked is held under the new id; nothing is parked under `0`. -/
theorem holds_parkCursor (h : e.Sound) (ns : String) (rest : List Document) :
    (e.parkCursor ns rest).1 = (if rest = [] then 0 else e.nextCursor) ∧
      (e.parkCursor ns rest).2.Holds (if rest = [] then 0 else e.nextCursor) ns rest ∧
      (rest ≠ [] → ((e.parkCursor ns rest).2.cursor? e.nextCursor).isSome) := by
  have hspares : Spares 0 e (e.parkCursor ns rest).2 := spares_parkCursor h ns rest
  have hsound := hspares.sound
  unfold parkCursor at hsound ⊢
  by_cases hrest : rest = []
  · rw [if_pos (List.isEmpty_iff.mpr hrest), if_pos hrest]
    refine ⟨rfl, ⟨h, h.next, fun c hc => ?_⟩, fun hsome => absurd hrest hsome⟩
    rw [h.cursor?_zero] at hc
    cases hc
  · have hsome : ¬ rest.isEmpty = true := fun hnone => hrest (List.isEmpty_iff.mp hnone)
    rw [if_neg hsome] at hsound ⊢
    rw [if_neg hrest]
    have hnew : Engine.cursor? { e with
        cursors := e.cursors ++ [(e.nextCursor, ⟨ns, rest, e.now⟩)]
        nextCursor := e.nextCursor + 1 } e.nextCursor = some ⟨ns, rest, e.now⟩ :=
      hsound.cursor?_eq_some_iff.mpr (List.mem_append_right _ (List.mem_singleton.mpr rfl))
    refine ⟨rfl, ⟨hsound, Int.lt_add_one_of_le (Int.le_refl _), fun c hc => ?_⟩, fun _ => ?_⟩
    · rw [hnew] at hc
      obtain rfl := Option.some.inj hc
      exact ⟨rfl, rfl⟩
    · simp only [hnew, Option.isSome_some]

def countQuery (e : Engine) : Engine :=
  { e with counters := { e.counters with queries := e.counters.queries + 1 } }

theorem perform_aggregate (e : Engine) (db coll : String) (pipeline : Pipeline)
    (batchSize : Option Nat) :
    e.perform db (.aggregate coll pipeline batchSize) =
      let results := pipeline.run (e.store.scan db coll)
      let n := batchSize.getD e.options.batchSize
      let parked := e.countQuery.parkCursor (namespaceText db coll) (results.drop n)
      (.ok (Reply.cursor parked.1 (namespaceText db coll) "firstBatch" (results.take n)), parked.2) :=
  rfl

/-- **An `aggregate`** hands out the first documents of its result and leaves the others in a cursor
of its own; if there are none, there is no cursor, and its id is `0`. -/
theorem command_of_aggregate (h : e.Sound) {connection : ConnectionId} {db coll : String}
    {d : Document} {pipeline : Pipeline} {batchSize : Option Nat}
    (htakes : e.Takes connection db d (.aggregate coll pipeline batchSize)) :
    let results := pipeline.run (e.store.scan db coll)
    let n := batchSize.getD e.options.batchSize
    let id := if results.drop n = [] then 0 else e.nextCursor
    let ns := namespaceText db coll
    (e.command connection db d).1
        = .ok ((Reply.cursor id ns "firstBatch" (results.take n)).put "ok" .one) ∧
      (e.command connection db d).2.Holds id ns (results.drop n) ∧
      (results.drop n ≠ [] → ((e.command connection db d).2.cursor? id).isSome) := by
  intro results n id ns
  have hcounted : e.countCommand.countQuery.Sound := ⟨h.given, h.left, h.distinct, h.next⟩
  obtain ⟨hid, hholds, hthere⟩ := holds_parkCursor hcounted ns (results.drop n)
  rw [htakes.command, perform_aggregate]
  refine ⟨?_, hholds, fun hsome => ?_⟩
  · show Except.ok ((Reply.cursor (e.countCommand.countQuery.parkCursor ns (results.drop n)).1 ns
      "firstBatch" (results.take n)).put "ok" .one) = _
    rw [hid]
    rfl
  · have hself : id = e.nextCursor := if_neg hsome
    rw [hself]
    exact hthere hsome

/-- **A fetch that is carried out** hands out as many documents as it asks for, at least one, from a
cursor that is there. -/
theorem command_of_getMore {connection : ConnectionId} {db coll : String} {d : Document}
    {id : CursorId} {batchSize : Option Nat} {c : Cursor} (hc : e.cursor? id = some c)
    (hns : c.ns = namespaceText db coll)
    (htakes : e.Takes connection db d (.getMore id coll batchSize)) :
    (e.command connection db d).1
      = .ok (fetched id c.ns c.remaining (max (batchSize.getD e.options.batchSize) 1)) := by
  rw [htakes.command]
  rcases performGetMore_cases e.countCommand db id coll batchSize with
    ⟨err, hrun⟩ | ⟨c', n, counters, hc', -, rfl, hrun⟩
  · -- neither is the cursor missing nor does it belong to another namespace
    have hc' : e.countCommand.cursor? id = some c := hc
    unfold performGetMore at hrun
    simp only [hc', hns, ne_eq, not_true_eq_false, if_false] at hrun
    split at hrun
    · cases hrun
    · cases hrun
  · obtain rfl : c = c' := Option.some.inj (hc.symm.trans hc')
    simp only [perform, hrun]
    rfl

end Engine

end DocStore
