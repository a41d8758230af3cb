import DocStore.Proofs.Engine.Frame
import DocStore.Proofs.Engine.Snapshot
import DocStore.Proofs.Pipeline.Exchange

/-!
# DocStore — ways of counting

How many documents a filter wants can be asked in several ways: by a `count`, by the documents that a
`$match` lets through, fetched to the last one, and by a `$count` behind the `$match`. They agree, and
what a filter and its `$nor` count makes up the whole.

* **`Document.Counts`**, **`Document.Aggregates`** — the command documents that ask.
* **`Engine.Delivers`** — what an `aggregate` hands out in all, however its cursor is fetched from.
* **`Engine.Holds.drain`** — as many fetches as there are documents left come to the end of a cursor, by
  induction on the fetches.
* **`counts_agree`** — the main statement.
-/

namespace DocStore

/-! ## §1 — commands that count -/

/-- A `count` of a collection, with a query or without one. -/
structure Document.Counts (d : Document) (coll : String) (query : Option Value) : Prop where
  name : d.firstName? = some "count"
  coll : d.field? "count" = some (.string coll)
  query : d.field? "query" = query

/-- An `aggregate` of a collection with stages as they are written, and with a batch size or without one. -/
structure Document.Aggregates (d : Document) (coll : String) (stages : List Value) : Prop where
  name : d.firstName? = some "aggregate"
  coll : d.field? "aggregate" = some (.string coll)
  stages : d.field? "pipeline" = some (.array stages)
  cursor : ∃ options size,
    d.documentField? "cursor" = .ok options ∧ Command.readBatchSize options = .ok size

/-- A `getMore` of a cursor over a collection. -/
def Document.Fetches (d : Document) (id : CursorId) (coll : String) : Prop :=
  d.firstName? = some "getMore" ∧ ∃ size, Command.ofDocument "getMore" d = .ok (.getMore id coll size)

namespace Engine

variable {e : Engine} {connection : ConnectionId} {ns : Namespace} {d : Document}

/-- The engine is open, and a connection of it too. -/
structure Serves (e : Engine) (connection : ConnectionId) : Prop where
  running : e.closed = false
  connected : e.connections.contains connection = true

theorem Serves.takes (h : e.Serves connection) {name : String} {c : Command}
    (hname : d.firstName? = some name) (hread : Command.ofDocument name d = .ok c) :
    e.Takes connection ns.database.text d c :=
  ⟨h.running, h.connected, ns.database.check, name, hname, hread⟩

theorem Serves.command (h : e.Serves connection) (connection' : ConnectionId) (db : String)
    (d : Document) : (e.command connection' db d).2.Serves connection := by
  obtain ⟨store, cursors, nextCursor, counters, halike⟩ := command_frame e connection' db d
  rw [halike]
  exact ⟨h.running, h.connected⟩

/-- A `count` whose query is accepted is answered with the number of documents that the filter wants. -/
theorem Serves.count (h : e.Serves connection) {query : Option Value} {filter : Filter}
    (hd : d.Counts ns.collection query) (hquery : Filter.ofValue (query.getD .null) = .ok filter) :
    (e.command connection ns.database.text d).1 = .ok ((Reply.count
      ((e.store.scan ns.database.text ns.collection).filter filter.accepts).length).put "ok" .one) := by
  have hread : Command.ofDocument "count" d = .ok (.count ns.collection filter) := by
    show Command.readCount d = _
    unfold Command.readCount
    rw [Command.collectionField_of_namespace ns hd.coll, hd.query]
    show (Filter.ofValue (query.getD .null) >>= fun _ => _) = _
    rw [hquery]
    rfl
  rw [(h.takes hd.name hread).command, ← e.store.count_eq]
  rfl

/-- An `aggregate` with stages that are accepted is taken. -/
theorem Serves.takes_aggregate (h : e.Serves connection) {stages : List Value} {pipeline : Pipeline}
    (hd : d.Aggregates ns.collection stages) (hstages : Pipeline.ofStages stages = .ok pipeline) :
    ∃ size, e.Takes connection ns.database.text d (.aggregate ns.collection pipeline size) := by
  obtain ⟨options, size, hcursor, hsize⟩ := hd.cursor
  have hfield : d.arrayField "pipeline" = .ok stages := by
    unfold Document.arrayField
    rw [hd.stages]
  refine ⟨size, h.takes hd.name ?_⟩
  show Command.readAggregate d = _
  unfold Command.readAggregate
  rw [Command.collectionField_of_namespace ns hd.coll, hfield]
  show (Pipeline.ofStages stages >>= fun _ => _) = _
  rw [hstages]
  show (d.documentField? "cursor" >>= fun _ => _) = _
  rw [hcursor]
  show (Command.readBatchSize options >>= fun _ => _) = _
  rw [hsize]
  rfl

/-! ## §2 — fetching to the end -/

/-- An `aggregate` delivers documents: those of the first batch, if there is no cursor; those of the first
batch and of what is fetched from its cursor up to the reply with the id `0`, whatever else is done in
between; and as many fetches as there are documents hand them all out. -/
def Delivers (e : Engine) (connection : ConnectionId) (ns : Namespace) (d : Document)
    (results : List Value) : Prop :=
  ∃ reply e₁ id first, e.command connection ns.database.text d = (.ok reply, e₁) ∧
    Reply.said? "firstBatch" reply = some (.ofInt id, first) ∧
    (id = 0 → first = results) ∧
    (∀ (calls : List Call) given last, Engine.deliver id e₁ calls = (given, last) →
      ∀ (c : Call) batch, c.delivery? id last = some (.ofInt 0, batch) →
        first ++ given ++ batch = results) ∧
    (∀ fetches : List Document, (∀ fetch ∈ fetches, fetch.Fetches id ns.collection) →
      results.length ≤ fetches.length →
      first ++ (Engine.deliver id e₁ (fetches.map (.command connection ns.database.text))).1 = results)

/-- **Enough fetches come to the end of a cursor.** Induction on the fetches, each of which hands out a
document as long as one is left. -/
theorem Holds.drain {id : CursorId} {rest : List Document} (h : e.Holds id ns.text rest)
    (hserves : e.Serves connection) (hthere : rest ≠ [] → (e.cursor? id).isSome)
    {fetches : List Document} (hfetches : ∀ fetch ∈ fetches, fetch.Fetches id ns.collection)
    (hmany : rest.length ≤ fetches.length) :
    (Engine.deliver id e (fetches.map (.command connection ns.database.text))).1
      = rest.map Document.toValue := by
  induction fetches generalizing e rest with
  | nil =>
    obtain rfl := List.length_eq_zero_iff.mp (Nat.le_zero.mp hmany)
    rfl
  | cons fetch fetches ih =>
    obtain ⟨hname, size, hread⟩ := hfetches fetch List.mem_cons_self
    obtain ⟨given, left, hrest, hafter, hgiven, hkept⟩ :=
      h.after (.command connection ns.database.text fetch)
    have hfetched : fetch.fetchedId? = some id := by
      rw [Document.fetchedId?, if_pos hname, (Command.ofDocument_eq_getMore hread).2]
    have hlater : left.length ≤ fetches.length := by
      rw [hrest, List.length_append, List.length_cons] at hmany
      by_cases hnone : rest = []
      · rw [(List.append_eq_nil_iff.mp (hrest.symm.trans hnone)).2]
        exact Nat.zero_le _
      · -- the cursor is there, so the fetch hands out a document
        obtain ⟨c, hc⟩ := Option.isSome_iff_exists.mp (hthere hnone)
        obtain ⟨hns, hremaining⟩ := h.cursor c hc
        obtain ⟨next, hdelivery⟩ := (hserves.takes hname hread).delivery? hc hns
        rcases hgiven with ⟨hmissing, -⟩ | ⟨hbatch, -⟩
        · cases hmissing.symm.trans hdelivery
        · have hlength := congrArg (fun batch : Value × List Value => batch.2.length)
            (Option.some.inj (hbatch.symm.trans hdelivery))
          simp only [List.length_map, List.length_take, hremaining] at hlength
          have hsome := List.length_pos_iff.mpr hnone
          omega
    have hrun := ih hafter (hserves.command _ _ _)
      (fun hleft => hkept hfetched (hthere (by simp [hrest, hleft])) hleft)
      (fun fetch hfetch => hfetches fetch (List.mem_cons_of_mem _ hfetch)) hlater
    rw [List.map_cons, Engine.deliver]
    rcases hgiven with ⟨hmissing, rfl⟩ | ⟨hbatch, -⟩
    · rw [hmissing, hrest]
      exact hrun
    · rw [hbatch, hrest, List.map_append]
      exact congrArg _ hrun

/-- **An `aggregate` that is taken delivers its result.** -/
theorem Reachable.delivers (h : e.Reachable) (hserves : e.Serves connection) {pipeline : Pipeline}
    {size : Option Nat}
    (htakes : e.Takes connection ns.database.text d (.aggregate ns.collection pipeline size)) :
    e.Delivers connection ns d
      ((pipeline.run (e.store.scan ns.database.text ns.collection)).map Document.toValue) := by
  obtain ⟨hreply, hholds, hthere⟩ := command_of_aggregate h.sound htakes
  generalize pipeline.run (e.store.scan ns.database.text ns.collection) = docs at hreply hholds hthere ⊢
  generalize size.getD e.options.batchSize = n at hreply hholds hthere
  have hsplit : docs = docs.take n ++ docs.drop n := (List.take_append_drop n docs).symm
  have hid : docs.drop n ≠ [] → (if docs.drop n = [] then (0 : CursorId) else e.nextCursor) ≠ 0 :=
    fun hrest => by
      rw [if_neg hrest]
      exact Int.ne_of_gt h.sound.next
  refine ⟨_, _, _, (docs.take n).map Document.toValue, Prod.ext hreply rfl,
    Reply.said?_cursor (show "firstBatch" ≠ "id" by decide) (by decide) _ _ _, fun hzero => ?_,
    fun calls given last hrun c batch hdelivery => ?_, fun fetches hfetches hmany => ?_⟩
  · rw [map_toValue_eq_iff hsplit]
    exact Classical.not_not.mp fun hrest => hid hrest hzero
  · obtain ⟨given', left, last', hrun', hwhole, hnext, -⟩ :=
      hholds.delivers_rest hsplit hid hthere calls
    obtain ⟨rfl, rfl⟩ := Prod.mk.inj (hrun.symm.trans hrun')
    obtain ⟨taken, left', hwhole', rfl, hend⟩ := hnext c _ batch hdelivery
    rw [← List.map_append, ← List.map_append, map_toValue_eq_iff hwhole']
    exact hend.mp rfl
  · have hrest : (docs.drop n).length ≤ fetches.length := by
      rw [List.length_map] at hmany
      rw [List.length_drop]
      omega
    rw [Holds.drain hholds (hserves.command _ _ _) hthere hfetches hrest, ← List.map_append, ← hsplit]

end Engine

/-! ## §3 — the ways agree -/

/-- A filter in a `$nor` is accepted, and wants the other documents. -/
theorem Filter.ofValue_nor {f : Value} {F : Filter} (hf : ofValue f = .ok F) :
    ∃ other, ofValue (.object [("$nor", .array [f])]) = .ok other ∧
      ∀ d, other.accepts d = !F.accepts d := by
  refine ⟨.every [.none [F]], ?_, fun d => ?_⟩
  · have hreadF : read f = .ok F := mapError_eq_ok_iff.mp hf
    have hname : isOperatorName "$nor" = true := rfl
    simp only [ofValue, read, readEntries, hname, if_true, readLogical, readItems, hreadF]
    rfl
  · simp [accepts, allMatch, anyMatches]

/-- The stage that counts under a name. -/
def Stage.countIn (name : String) : Value := .object [("$count", .string name)]

theorem Pipeline.ofStages_cons {v : Value} {vs : List Value} {stage : Stage} {p : Pipeline}
    (hv : readStage v = .ok stage) (hvs : ofStages vs = .ok p) :
    ofStages (v :: vs) = .ok (stage :: p) := by
  simp only [ofStages, hv, hvs]
  rfl

/-- A count behind a match tells how many documents were let through, unless there is none. -/
theorem Pipeline.run_match_count (f : Filter) (name : String) (docs : List Document) :
    (run [.filter f, .count name] docs).map Document.toValue
      = if (docs.filter f.accepts).length = 0 then []
        else [.object [(name, .ofNat (docs.filter f.accepts).length)]] := by
  show (if (docs.filter f.accepts).isEmpty then [] else _).map Document.toValue = _
  simp only [List.length_eq_zero_iff, List.isEmpty_iff]
  split <;> rfl

/-- **Three ways of counting agree**, on any engine that is open, in any collection that can be named,
whether it is there or not, and for any filter that is accepted. The number that a `count` gives is that of
the documents which an `aggregate` with a `$match` delivers, and is what a `$count` behind the `$match`
gives, which delivers nothing if the number is zero. What a filter and its `$nor` count make up what is
counted without a filter. -/
theorem counts_agree {e : Engine} (h : e.Reachable) {connection : ConnectionId}
    (hserves : e.Serves connection) (ns : Namespace) {f : Value} {filter : Filter}
    (hf : Filter.ofValue f = .ok filter) :
    let counted (d : Document) (n : Nat) : Prop :=
      (e.command connection ns.database.text d).1 = .ok ((Reply.count n).put "ok" .one)
    ∃ n others : Nat,
      (∀ d, d.Counts ns.collection (some f) → counted d n) ∧
      (∀ d, d.Aggregates ns.collection [Filter.inStage f] →
        ∃ results, e.Delivers connection ns d results ∧ results.length = n) ∧
      (∀ d, d.Aggregates ns.collection [Filter.inStage f, Stage.countIn "n"] →
        e.Delivers connection ns d (if n = 0 then [] else [.object [("n", .ofNat n)]])) ∧
      (∀ d, d.Counts ns.collection (some (.object [("$nor", .array [f])])) → counted d others) ∧
      ∀ d query, query = none ∨ query = some .null ∨ query = some (.object []) →
        d.Counts ns.collection query → counted d (n + others) := by
  intro counted
  obtain ⟨other, hother, hnot⟩ := Filter.ofValue_nor hf
  generalize hdocs : e.store.scan ns.database.text ns.collection = docs
  have hcounted {d : Document} {query : Option Value} {F : Filter} (hd : d.Counts ns.collection query)
      (hquery : Filter.ofValue (query.getD .null) = .ok F) : counted d (docs.filter F.accepts).length := by
    rw [← hdocs]
    exact hserves.count hd hquery
  have hmatch := Pipeline.readStage_filter hf
  have hcount : Pipeline.readStage (Stage.countIn "n") = .ok (.count "n") := rfl
  have hnil : Pipeline.ofStages [] = .ok [] := rfl
  refine ⟨(docs.filter filter.accepts).length, (docs.filter other.accepts).length,
    fun d hd => hcounted hd hf, fun d hd => ?_, fun d hd => ?_, fun d hd => hcounted hd hother,
    fun d query hquery hd => ?_⟩
  · obtain ⟨size, htakes⟩ := hserves.takes_aggregate hd (Pipeline.ofStages_cons hmatch hnil)
    refine ⟨_, h.delivers hserves htakes, ?_⟩
    rw [hdocs, List.length_map]
    rfl
  · obtain ⟨size, htakes⟩ := hserves.takes_aggregate hd
      (Pipeline.ofStages_cons hmatch (Pipeline.ofStages_cons hcount hnil))
    have hdelivers := h.delivers hserves htakes
    rw [hdocs, Pipeline.run_match_count] at hdelivers
    exact hdelivers
  · have hall : ∃ F, Filter.ofValue (query.getD .null) = .ok F ∧ ∀ d, F.accepts d = true := by
      rcases hquery with rfl | rfl | rfl <;> exact ⟨.all, rfl, fun _ => rfl⟩
    obtain ⟨F, hF, haccepts⟩ := hall
    have hwhole : (docs.filter F.accepts).length
        = (docs.filter filter.accepts).length + (docs.filter other.accepts).length := by
      rw [List.filter_eq_self.mpr fun d _ => haccepts d, ← List.countP_eq_length_filter,
        ← List.countP_eq_length_filter, funext hnot, List.length_eq_countP_add_countP filter.accepts]
      simp
    rw [← hwhole]
    exact hcounted hd hF

/-- Three documents, of which two pass a filter on a field. -/
theorem counts_agree_of_three :
    let host : Host := { ids := fun _ => "", showTime := fun _ => "" }
    let document (id tag : String) : Value := .object [("_id", .string id), ("tag", .string tag)]
    let insert : Engine.Call := .command 1 "db" ⟨[("insert", .string "notes"),
      ("documents", .array [document "1" "a", document "2" "b", document "3" "a"])]⟩
    let ns : Namespace := ⟨⟨"db", by decide⟩, "notes", by decide⟩
    let f : Value := .object [("tag", .string "a")]
    let count : Document := ⟨[("count", .string "notes"), ("query", f)]⟩
    let aggregate : Document := ⟨[("aggregate", .string "notes"), ("pipeline", .array [Filter.inStage f]),
      ("cursor", .object [("batchSize", .ofNat 1)])]⟩
    ∃ e₀, Engine.start {} host = .ok e₀ ∧
      let e := insert.after (Engine.Call.openConnection.after e₀)
      e.Serves 1 ∧ Filter.ofValue f = .ok (.every [.field "tag" [.eq (.string "a")]]) ∧
      (e.command 1 "db" count).1 = .ok ((Reply.count 2).put "ok" .one) ∧
      ∃ results, e.Delivers 1 ns aggregate results ∧ results.length = 2 := by
  intro host document insert ns f count aggregate
  refine ⟨_, rfl, ?_⟩
  intro e
  have hstart : Engine.Reachable _ := .start (show Engine.start {} host = .ok _ from rfl)
  have hreachable : e.Reachable := (hstart.call .openConnection).call insert
  have hserves : e.Serves 1 := ⟨rfl, rfl⟩
  have hf : Filter.ofValue f = .ok (.every [.field "tag" [.eq (.string "a")]]) := rfl
  have htwo : (e.command 1 "db" count).1 = .ok ((Reply.count 2).put "ok" .one) := by
    have htakes : e.Takes 1 ns.database.text count (.count "notes" _) := hserves.takes rfl rfl
    rw [htakes.command]
    rfl
  obtain ⟨n, others, hcount, hmatch, -⟩ := counts_agree hreachable hserves ns hf
  obtain ⟨results, hdelivers, hlength⟩ := hmatch aggregate ⟨rfl, rfl, rfl, _, _, rfl, rfl⟩
  have hn : Value.ofNat n = .ofNat 2 := by
    have hreply := Except.ok.inj ((hcount count ⟨rfl, rfl, rfl⟩).symm.trans htwo)
    exact Option.some.inj (congrArg (·.field? "n") hreply)
  refine ⟨hserves, hf, htwo, results, hdelivers, ?_⟩
  rw [hlength]
  exact Int.ofNat.inj (Number.int.inj (Value.number.inj hn))

end DocStore
