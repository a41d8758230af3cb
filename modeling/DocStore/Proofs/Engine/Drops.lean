import DocStore.Proofs.Engine.Frame
import DocStore.Proofs.Engine.Snapshot

/-!
# DocStore — cursors over collections that are dropped

A cursor keeps its namespace as a text only. Since no database has a point in its name, the text
stands for one collection of one database, and a drop that compares texts finds the cursors over its
collection and no others.

* **`Namespace.text_injective`** — the text of a namespace says which one it is.
* **`Engine.Reachable.placed`** — every cursor is over some collection that may exist.
* **`drop_takes_cursors`** — with a collection go the cursors over it, for good; the others stay. A
  database goes without its cursors, and `dropDatabase_keeps_cursor` shows one that still delivers.
-/

namespace DocStore

/-! ## §1 — the text of a namespace -/

theorem point_notMem_of_isDatabaseName {name : String} (h : isDatabaseName name = true) :
    '.' ∉ name.toList := by
  intro hpoint
  unfold isDatabaseName at h
  rw [Bool.and_eq_true, List.all_eq_true] at h
  have hall := h.2 '.' hpoint
  simp at hall

theorem toList_namespaceText (db coll : String) :
    (namespaceText db coll).toList = db.toList ++ '.' :: coll.toList := by
  unfold namespaceText
  rw [String.toList_append, String.toList_append]
  simp

/-- What stands in front of the first point of the text is the name of the database. -/
theorem takeWhile_namespaceText {db : String} (hdb : isDatabaseName db = true) (coll : String) :
    (namespaceText db coll).toList.takeWhile (· != '.') = db.toList := by
  have hpoint := point_notMem_of_isDatabaseName hdb
  have hall : ∀ c ∈ db.toList, (c != '.') = true := by
    intro c hc
    rw [bne_iff_ne]
    rintro rfl
    exact hpoint hc
  rw [toList_namespaceText, List.takeWhile_append_of_pos hall, List.takeWhile_cons_of_neg (by simp),
    List.append_nil]

theorem namespaceText_inj {db db' coll coll' : String} (hdb : isDatabaseName db = true)
    (hdb' : isDatabaseName db' = true) (h : namespaceText db coll = namespaceText db' coll') :
    db = db' ∧ coll = coll' := by
  have hdatabase : db = db' := by
    rw [← String.toList_inj, ← takeWhile_namespaceText hdb coll, h, takeWhile_namespaceText hdb']
  subst hdatabase
  have hlist := congrArg String.toList h
  rw [toList_namespaceText, toList_namespaceText] at hlist
  have hcoll := (List.cons.inj (List.append_cancel_left hlist)).2
  exact ⟨rfl, String.toList_inj.mp hcoll⟩

theorem Namespace.text_injective {ns ns' : Namespace} (h : ns.text = ns'.text) : ns = ns' := by
  obtain ⟨⟨db, hdb⟩, coll, hcoll⟩ := ns
  obtain ⟨⟨db', hdb'⟩, coll', hcoll'⟩ := ns'
  obtain ⟨rfl, rfl⟩ := namespaceText_inj hdb hdb' h
  rfl

/-- Two names that pass their checks are those of a namespace. -/
theorem exists_namespace {db coll : String} (hdb : checkDatabaseName db = .ok ())
    (hcoll : checkCollectionName coll = .ok ()) :
    ∃ ns : Namespace, ns.database.text = db ∧ ns.collection = coll := by
  have hdb : isDatabaseName db = true := by
    unfold checkDatabaseName at hdb
    split at hdb
    · assumption
    · cases hdb
  have hcoll : isCollectionName coll = true := by
    unfold checkCollectionName at hcoll
    split at hcoll
    · assumption
    · cases hcoll
  exact ⟨⟨⟨db, hdb⟩, coll, hcoll⟩, rfl, rfl⟩

/-- The cursor is over the collection that the namespace names. -/
def Cursor.Over (c : Cursor) (ns : Namespace) : Prop := c.ns = ns.text

/-- A cursor is over one collection only. -/
theorem Cursor.Over.eq {c : Cursor} {ns ns' : Namespace} (h : c.Over ns) (h' : c.Over ns') :
    ns = ns' :=
  Namespace.text_injective (h.symm.trans h')

namespace Command

variable {d : Document} {c : Command}

/-- The collection that a command names. -/
def collection? : Command → Option String
  | insert coll _ | count coll _ | aggregate coll _ _ => some coll
  | getMore _ coll _ | killCursors coll _ | drop coll => some coll
  | _ => none

/-- The collection that a command names is one that may exist. -/
def NamesWell (c : Command) : Prop :=
  ∀ coll, c.collection? = some coll → checkCollectionName coll = .ok ()

theorem checkCollectionName_of_collectionField {field coll : String}
    (h : collectionField d field = .ok coll) : checkCollectionName coll = .ok () := by
  obtain ⟨name, -, h⟩ := ok_of_bind h
  obtain ⟨_, hcheck, h⟩ := ok_of_bind h
  obtain rfl : name = coll := Except.ok.inj h
  cases hname : checkCollectionName name with
  | ok _ => rfl
  | error fault =>
    rw [hname] at hcheck
    cases hcheck

/-- The name of the collection that a command names is what this field of the document holds. -/
def NamedBy (c : Command) (d : Document) (field : String) : Prop :=
  ∃ coll, collectionField d field = .ok coll ∧ c.collection? = some coll

/-- Readers look at the name of the collection first, and then name it. -/
theorem namedBy_of_bind {field : String} {rest : String → Except EngineError Command}
    (h : collectionField d field >>= rest = .ok c)
    (hrest : ∀ coll, rest coll = .ok c → c.collection? = some coll) : c.NamedBy d field := by
  obtain ⟨coll, hfield, h⟩ := ok_of_bind h
  exact ⟨coll, hfield, hrest coll h⟩

theorem namedBy_of_readInsert (h : readInsert d = .ok c) : c.NamedBy d "insert" := by
  refine namedBy_of_bind h fun coll h => ?_
  obtain ⟨_, -, h⟩ := ok_of_bind h
  obtain ⟨_, -, h⟩ := ok_of_bind h
  split at h
  · cases h
  · rw [← Except.ok.inj h]
    rfl

theorem namedBy_of_readCount (h : readCount d = .ok c) : c.NamedBy d "count" := by
  refine namedBy_of_bind h fun coll h => ?_
  obtain ⟨_, -, h⟩ := ok_of_bind h
  rw [← Except.ok.inj h]
  rfl

theorem namedBy_of_readAggregate (h : readAggregate d = .ok c) : c.NamedBy d "aggregate" := by
  refine namedBy_of_bind h fun coll h => ?_
  obtain ⟨_, -, h⟩ := ok_of_bind h
  obtain ⟨_, -, h⟩ := ok_of_bind h
  obtain ⟨_, -, h⟩ := ok_of_bind h
  obtain ⟨_, -, h⟩ := ok_of_bind h
  rw [← Except.ok.inj h]
  rfl

theorem namedBy_of_readGetMore (h : readGetMore d = .ok c) : c.NamedBy d "collection" := by
  unfold readGetMore at h
  split at h
  · cases h
  · refine namedBy_of_bind h fun coll h => ?_
    obtain ⟨_, -, h⟩ := ok_of_bind h
    rw [← Except.ok.inj h]
    rfl

theorem namedBy_of_readKillCursors (h : readKillCursors d = .ok c) : c.NamedBy d "killCursors" := by
  refine namedBy_of_bind h fun coll h => ?_
  obtain ⟨_, -, h⟩ := ok_of_bind h
  rw [← Except.ok.inj h]
  rfl

theorem namedBy_of_readDrop (h : readDrop d = .ok c) : c.NamedBy d "drop" := by
  refine namedBy_of_bind h fun coll h => ?_
  rw [← Except.ok.inj h]
  rfl

/-- The field in which a document of this name names a collection, if it has to name one. -/
def nameField? : String → Option String
  | "getMore" => some "collection"
  | "insert" => some "insert"
  | "count" => some "count"
  | "aggregate" => some "aggregate"
  | "killCursors" => some "killCursors"
  | "drop" => some "drop"
  | _ => none

/-- **Where the collection of a command stands**: in the field that goes with the name of the document.
One case for each reader. -/
theorem namedBy_of_ofDocument {name : String} (h : ofDocument name d = .ok c) :
    match nameField? name with
    | some field => c.NamedBy d field
    | none => c.collection? = none := by
  unfold ofDocument at h
  split at h
  · cases h; rfl
  · cases h; rfl
  · cases h; rfl
  · cases h; rfl
  · cases h; rfl
  · cases h; rfl
  · cases h; rfl
  · exact namedBy_of_readInsert h
  · exact namedBy_of_readCount h
  · exact namedBy_of_readAggregate h
  · exact namedBy_of_readGetMore h
  · exact namedBy_of_readKillCursors h
  · cases h; rfl
  · cases h; rfl
  · exact namedBy_of_readDrop h
  · cases h; rfl
  · cases h

/-- **A command that is read names a collection that may exist**, if it names one at all. -/
theorem namesWell_of_ofDocument {name : String} (h : ofDocument name d = .ok c) : c.NamesWell := by
  have hnamed := namedBy_of_ofDocument h
  intro coll hcoll
  split at hnamed
  · obtain ⟨coll', hfield, hcoll'⟩ := hnamed
    obtain rfl : coll' = coll := Option.some.inj (hcoll'.symm.trans hcoll)
    exact checkCollectionName_of_collectionField hfield
  · rw [hnamed] at hcoll
    cases hcoll

end Command

namespace Engine

variable {e e' : Engine} {id : CursorId}

/-- A taken command that names a collection names it within a database that may exist. -/
theorem Takes.exists_namespace {connection : ConnectionId} {db coll : String} {d : Document}
    {c : Command} (h : e.Takes connection db d c) (hcoll : c.collection? = some coll) :
    ∃ ns : Namespace, ns.database.text = db ∧ ns.collection = coll := by
  obtain ⟨name, -, hread⟩ := h.read
  exact DocStore.exists_namespace h.database (Command.namesWell_of_ofDocument hread coll hcoll)

/-! ## §2 — cursors are over collections -/

/-- Every cursor is over a collection that may exist. -/
def Placed (e : Engine) : Prop := ∀ c ∈ e.cursors, ∃ ns : Namespace, c.2.Over ns

theorem Placed.of_sublist (h : e.Placed) (hsub : e'.cursors.Sublist e.cursors) : e'.Placed :=
  fun c hc => h c (hsub.subset hc)

theorem Placed.parkCursor (h : e.Placed) (ns : Namespace) (rest : List Document) :
    (e.parkCursor ns.text rest).2.Placed := by
  unfold Engine.parkCursor
  split
  · exact h
  · intro c hc
    rcases List.mem_append.mp hc with hold | hnew
    · exact h c hold
    · rw [List.mem_singleton.mp hnew]
      exact ⟨ns, rfl⟩

theorem Placed.takeFrom (h : e.Placed) {c : Cursor} (hc : e.cursor? id = some c) (hsound : e.Sound)
    (n : Nat) : (e.takeFrom id c n).Placed := by
  unfold Engine.takeFrom
  split
  · exact h.of_sublist List.filter_sublist
  · intro new hnew
    obtain ⟨old, hold, rfl⟩ := List.mem_map.mp hnew
    split
    · -- a fetch leaves the cursor over its collection
      obtain ⟨ns, hns⟩ := h _ (hsound.cursor?_eq_some_iff.mp hc)
      exact ⟨ns, hns⟩
    · exact h old hold

/-- **A taken command** opens cursors over collections that may exist. -/
theorem Placed.perform (h : e.Placed) (hsound : e.Sound) {db : String} {c : Command}
    (hc : ∀ coll, c.collection? = some coll → ∃ ns : Namespace, ns.text = namespaceText db coll) :
    (e.perform db c).2.Placed := by
  have hcounted : ∀ counters, Placed { e with counters := counters } := fun _ => h
  rcases perform_table e db c with
    ⟨hsub, -⟩ | ⟨coll, pipeline, batchSize, counters, rest, rfl, hrun⟩ |
      ⟨id, coll, batchSize, counters, cursor, n, rfl, hcursor, hrun⟩
  · exact h.of_sublist hsub
  · obtain ⟨ns, hns⟩ := hc coll rfl
    rw [hrun, ← hns]
    exact (hcounted counters).parkCursor ns rest
  · have hsound' : Sound { e with counters := counters } :=
      ⟨hsound.given, hsound.left, hsound.distinct, hsound.next⟩
    rw [hrun]
    exact (hcounted counters).takeFrom hcursor hsound' n

theorem Placed.after (h : e.Placed) (hsound : e.Sound) (c : Call) : (c.after e).Placed := by
  cases c with
  | openConnection =>
    show e.openConnection.2.Placed
    unfold openConnection
    split <;> exact h
  | closeConnection connection =>
    show (e.closeConnection connection).2.Placed
    unfold closeConnection
    split
    · exact h
    · split <;> exact h
  | command connection db d =>
    show (e.command connection db d).2.Placed
    rcases refused_or_takes e connection db d with ⟨err, hrun⟩ | ⟨err, hrun⟩ | ⟨c, htakes⟩
    · rw [hrun]
      exact h
    · rw [hrun]
      exact h
    · rw [htakes.snd_command]
      have hcounted : e.countCommand.Placed := h
      refine hcounted.perform hsound.countCommand fun coll hcoll => ?_
      obtain ⟨ns, rfl, rfl⟩ := htakes.exists_namespace hcoll
      exact ⟨ns, rfl⟩
  | pump =>
    show e.pump.2.Placed
    unfold pump
    split
    · exact h
    · split <;> exact h.of_sublist List.filter_sublist
  | close =>
    show e.close.2.Placed
    unfold close
    split
    · exact h
    · exact h.of_sublist (List.nil_sublist _)
  | move host => exact h

theorem Reachable.placed (h : e.Reachable) : e.Placed := by
  induction h with
  | @start options host e hstart =>
    obtain ⟨store, -, rfl⟩ := start_eq_ok hstart
    intro c hc
    cases hc
  | @call e hreachable c ih => exact ih.after hreachable.sound c

/-! ## §3 — cursors that are gone -/

/-- **A cursor that is gone stays gone**: no call hands out anything from it any more. -/
theorem Sound.deliver_of_gone (h : e.Sound) (hid : id < e.nextCursor) (hgone : e.cursor? id = none)
    (calls : List Call) :
    ∃ last, Engine.deliver id e calls = ([], last) ∧ last.cursor? id = none := by
  have hholds : e.Holds id "" [] := by
    refine ⟨h, hid, fun c hc => ?_⟩
    rw [hgone] at hc
    cases hc
  obtain ⟨given, left, last, hrun, hnothing, hlast, -⟩ := hholds.deliver calls
  obtain ⟨rfl, rfl⟩ := List.append_eq_nil_iff.mp hnothing.symm
  refine ⟨last, hrun, ?_⟩
  -- what would be there had something left
  cases hc : last.cursor? id with
  | none => rfl
  | some c => exact absurd (hlast.cursor c hc).2 (hlast.sound.remaining_ne_nil hc)

theorem Takes.command_of_gone {connection : ConnectionId} {db coll : String} {d : Document}
    {batchSize : Option Nat} (h : e.Takes connection db d (.getMore id coll batchSize))
    (hgone : e.cursor? id = none) :
    e.command connection db d = (.error (.cursorNotFound id), e.countCommand) := by
  rw [h.command_eq_error_iff]
  show e.countCommand.performGetMore db id coll batchSize = _
  have hgone' : e.countCommand.cursor? id = none := hgone
  unfold performGetMore
  rw [hgone']

/-- A drop that goes well takes away the cursors of the namespace. -/
theorem Takes.cursors_of_drop {connection : ConnectionId} {db coll : String} {d reply : Document}
    (h : e.Takes connection db d (.drop coll)) (hdone : e.command connection db d = (.ok reply, e')) :
    e'.nextCursor = e.nextCursor ∧
      e'.cursors = e.cursors.filter fun c => c.2.ns != namespaceText db coll := by
  rw [h.command] at hdone
  simp only [Engine.perform, performDrop] at hdone
  rcases hdrop : e.countCommand.store.dropCollection db coll with ⟨answer, store⟩
  cases answer with
  | error err =>
    simp only [hdrop] at hdone
    cases hdone
  | ok dropped =>
    simp only [hdrop] at hdone
    obtain ⟨-, rfl⟩ := Prod.mk.inj hdone
    exact ⟨rfl, rfl⟩

theorem Takes.cursors_of_dropDatabase {connection : ConnectionId} {db : String} {d : Document}
    (h : e.Takes connection db d .dropDatabase) :
    (e.command connection db d).2.cursors = e.cursors := by
  rw [h.snd_command]
  simp only [Engine.perform, performDropDatabase]
  split <;> rfl

end Engine

/-- **Cursors go with their collection.** Every cursor is over one collection. When a collection has
been dropped, the cursors over it are gone for good: nothing that follows hands out a document of them,
and a fetch is answered that there is no such cursor. All other cursors are as they were. When a
database has been dropped, all cursors are as they were. -/
theorem drop_takes_cursors {e e' : Engine} (h : e.Reachable) {connection : ConnectionId}
    {db : String} {d reply : Document} {c : Command} (htakes : e.Takes connection db d c)
    (hdone : e.command connection db d = (.ok reply, e')) :
    (∀ id cursor, e.cursor? id = some cursor → ∃ ns : Namespace, ∀ other, cursor.Over other ↔ other = ns) ∧
      (∀ coll, c = .drop coll → ∃ dropped : Namespace,
        dropped.database.text = db ∧ dropped.collection = coll ∧
        (∀ id cursor, e'.cursor? id = some cursor ↔
          e.cursor? id = some cursor ∧ ¬ cursor.Over dropped) ∧
        ∀ id cursor, e.cursor? id = some cursor → cursor.Over dropped →
          ∀ calls, ∃ last, Engine.deliver id e' calls = ([], last) ∧ last.cursor? id = none ∧
            ∀ connection' db' d' coll' size, last.Takes connection' db' d' (.getMore id coll' size) →
              last.command connection' db' d' = (.error (.cursorNotFound id), last.countCommand)) ∧
      (c = .dropDatabase → e'.cursors = e.cursors) := by
  have hafter : e' = (e.command connection db d).2 := by rw [hdone]
  have hsound : e'.Sound := by
    rw [hafter]
    exact (h.call (.command connection db d)).sound
  refine ⟨fun id cursor hcursor => ?_, ?_, ?_⟩
  · obtain ⟨ns, hover⟩ := h.placed _ (h.sound.cursor?_eq_some_iff.mp hcursor)
    refine ⟨ns, fun other => ⟨fun hother => hother.eq hover, ?_⟩⟩
    rintro rfl
    exact hover
  · rintro coll rfl
    obtain ⟨dropped, rfl, rfl⟩ := htakes.exists_namespace rfl
    obtain ⟨hnext, hcursors⟩ := htakes.cursors_of_drop hdone
    have hkept : ∀ id cursor, e'.cursor? id = some cursor ↔
        e.cursor? id = some cursor ∧ ¬ cursor.Over dropped := by
      intro id cursor
      rw [hsound.cursor?_eq_some_iff, h.sound.cursor?_eq_some_iff, hcursors, List.mem_filter,
        bne_iff_ne]
      exact Iff.rfl
    refine ⟨dropped, rfl, rfl, hkept, fun id cursor hcursor hover calls => ?_⟩
    have hgone : e'.cursor? id = none := by
      cases hc : e'.cursor? id with
      | none => rfl
      | some cursor' =>
        obtain ⟨hsame, hnot⟩ := (hkept id cursor').mp hc
        obtain rfl : cursor = cursor' := Option.some.inj (hcursor.symm.trans hsame)
        exact absurd hover hnot
    have hid : id < e'.nextCursor := by
      rw [hnext]
      exact (h.sound.given _ (h.sound.cursor?_eq_some_iff.mp hcursor)).2
    obtain ⟨last, hrun, hlast⟩ := hsound.deliver_of_gone hid hgone calls
    exact ⟨last, hrun, hlast, fun _ _ _ _ _ htakes' => htakes'.command_of_gone hlast⟩
  · rintro rfl
    rw [hafter]
    exact htakes.cursors_of_dropDatabase

/-- Two cursors, over a collection that is dropped and over another one. -/
theorem drop_takes_cursors_of_two :
    let host : Host := { ids := fun _ => "", showTime := fun _ => "" }
    let document (n : Nat) : Value := .object [("_id", .ofNat n)]
    let insert (coll : String) : Engine.Call := .command 1 "db" ⟨[("insert", .string coll),
      ("documents", .array [document 1, document 2])]⟩
    let aggregate (coll : String) : Engine.Call := .command 1 "db" ⟨[("aggregate", .string coll),
      ("pipeline", .array []), ("cursor", .object [("batchSize", .ofNat 1)])]⟩
    let drop : Document := ⟨[("drop", .string "a")]⟩
    let getMore : Document := ⟨[("getMore", .ofNat 1), ("collection", .string "a")]⟩
    ∃ e₀, Engine.start {} host = .ok e₀ ∧
      let e := [.openConnection, insert "a", insert "a.b", aggregate "a", aggregate "a.b"].foldl
        (fun e (c : Engine.Call) => c.after e) e₀
      e.Takes 1 "db" drop (.drop "a") ∧
      ∃ reply e', e.command 1 "db" drop = (.ok reply, e') ∧
        e.cursors.map Prod.fst = [1, 2] ∧ (e'.cursor? 1).isNone ∧ (e'.cursor? 2).isSome ∧
        ∃ last, Engine.deliver 1 e' [insert "a", .command 1 "db" getMore] = ([], last) := by
  intro host document insert aggregate drop getMore
  have hcalls := fun e₀ (h : Engine.start {} host = .ok e₀) =>
    (((((Engine.Reachable.start h).call .openConnection).call (insert "a")).call
      (insert "a.b")).call (aggregate "a")).call (aggregate "a.b")
  have hrun := fun e e' (h : Engine.Reachable e) (htakes : e.Takes 1 "db" drop (.drop "a")) reply
    (hdone : e.command 1 "db" drop = (.ok reply, e')) => (drop_takes_cursors h htakes hdone).2.1
  -- the names are put in, for the rest is evaluated
  subst host document insert aggregate drop getMore
  refine ⟨_, rfl, ?_⟩
  intro e
  have htakes : e.Takes 1 "db" ⟨[("drop", .string "a")]⟩ (.drop "a") :=
    ⟨rfl, rfl, rfl, "drop", rfl, rfl⟩
  obtain ⟨reply, hreply⟩ : ∃ reply, (e.command 1 "db" ⟨[("drop", .string "a")]⟩).1 = .ok reply :=
    ⟨_, rfl⟩
  obtain ⟨dropped, hdb, hcoll, -, hgone⟩ :=
    hrun e _ (hcalls _ rfl) htakes reply (Prod.ext hreply rfl) "a" rfl
  have hfirst : Cursor.Over ⟨"db.a", [⟨[("_id", .ofNat 2)]⟩], 0⟩ dropped := by
    unfold Cursor.Over Namespace.text
    rw [hdb, hcoll]
    rfl
  obtain ⟨last, hlast, -⟩ := hgone 1 _ rfl hfirst _
  exact ⟨htakes, reply, _, Prod.ext hreply rfl, rfl, rfl, rfl, last, hlast⟩

/-- **A database goes without its cursors**: one over a collection of it hands out a document that is
dropped. -/
theorem dropDatabase_keeps_cursor :
    let host : Host := { ids := fun _ => "", showTime := fun _ => "" }
    let document (n : Nat) : Value := .object [("_id", .ofNat n)]
    let insert : Document := ⟨[("insert", .string "c"),
      ("documents", .array [document 1, document 2])]⟩
    let aggregate : Document := ⟨[("aggregate", .string "c"), ("pipeline", .array []),
      ("cursor", .object [("batchSize", .ofNat 1)])]⟩
    let dropDatabase : Document := ⟨[("dropDatabase", .ofNat 1)]⟩
    let getMore : Document := ⟨[("getMore", .ofNat 1), ("collection", .string "c")]⟩
    ∃ e₀, Engine.start {} host = .ok e₀ ∧
      let e := [.openConnection, .command 1 "test" insert, .command 1 "test" aggregate].foldl
        (fun e (c : Engine.Call) => c.after e) e₀
      ∃ reply e', e.command 1 "test" dropDatabase = (.ok reply, e') ∧
        e'.store.catalog.collection? "test" "c" = none ∧
        (Engine.deliver 1 e' [.command 1 "test" getMore]).1 = [document 2] := by
  intro host document insert aggregate dropDatabase getMore
  -- the names are put in, for the rest is evaluated
  subst host document insert aggregate dropDatabase getMore
  refine ⟨_, rfl, ?_⟩
  refine ⟨_, _, Prod.ext rfl rfl, ?_, ?_⟩
  · rfl
  · rfl

end DocStore
