import DocStore.Proofs.Engine.Commands

/-!
# DocStore — a cursor delivers the result of its aggregate

The result of an `aggregate` is made once, from the documents that are stored when it runs. What its
reply and the replies to later fetches hand out, one after the other, is the beginning of this
result, whatever else is done to the engine in between.

* **`Engine.Call`** — everything that can be done to an engine, and `Engine.Reachable`, what an engine
  can become by it.
* **`Engine.deliver`** — a run of calls, with what it hands out from a cursor.
* **`Engine.Holds.deliver`** — the invariant of such a run: what was handed out and what the cursor
  still holds make up what it held before.
* **`cursor_delivers_snapshot`** — the main statement.
-/

namespace DocStore

/-- What a reply says of a cursor: the id, and the documents of the batch under a name. -/
def Reply.said? (batchName : String) (reply : Document) : Option (Value × List Value) :=
  (reply.field? "cursor").bind fun cursor =>
    (cursor.step? "id").bind fun id =>
      ((cursor.step? batchName).bind Value.asArray?).map fun batch => (id, batch)

/-- The reply that describes a cursor says what it was made of. -/
theorem Reply.said?_cursor {batchName : String} (hid : batchName ≠ "id") (hns : batchName ≠ "ns")
    (id : CursorId) (ns : String) (batch : List Document) :
    said? batchName ((Reply.cursor id ns batchName batch).put "ok" .one)
      = some (.ofInt id, batch.map Document.toValue) := by
  have hcursor : ((Reply.cursor id ns batchName batch).put "ok" .one).field? "cursor"
      = some (.object [("id", .ofInt id), ("ns", .string ns),
          (batchName, .array (batch.map Document.toValue))]) := rfl
  have hbatch : Value.step? batchName (.object [("id", .ofInt id), ("ns", .string ns),
      (batchName, .array (batch.map Document.toValue))])
      = some (.array (batch.map Document.toValue)) := by
    simp [Value.step?, Fields.find?, List.lookup_cons, beq_false_of_ne hid, beq_false_of_ne hns]
  unfold said?
  rw [hcursor]
  simp only [Option.bind_some]
  rw [hbatch]
  rfl

namespace Engine

/-! ## §1 — calls -/

/-- What can be done to an engine. The host goes its own way as well: time passes, ids are drawn by
others, and the disk changes. -/
inductive Call where
  | openConnection
  | closeConnection (connection : ConnectionId)
  | command (connection : ConnectionId) (db : String) (d : Document)
  | pump
  | close
  | move (host : Host)

namespace Call

def after : Call → Engine → Engine
  | openConnection, e => e.openConnection.2
  | closeConnection connection, e => (e.closeConnection connection).2
  | command connection db d, e => (e.command connection db d).2
  | pump, e => e.pump.2
  | close, e => e.close.2
  | move host, e => { e with store := { e.store with host } }

/-- The reply to a call, if it is a command and is not refused. -/
def reply? : Call → Engine → Option Document
  | command connection db d, e => (e.command connection db d).1.toOption
  | _, _ => none

/-- The cursor id that a call fetches from. -/
def fetchedId? : Call → Option CursorId
  | command _ _ d => d.fetchedId?
  | _ => none

/-- What a call hands out from the cursor of an id: the id in the reply, and the documents. -/
def delivery? (id : CursorId) (c : Call) (e : Engine) : Option (Value × List Value) :=
  if c.fetchedId? = some id then (c.reply? e).bind (Reply.said? "nextBatch") else none

end Call

/-- The engines that calls lead to. -/
inductive Reachable : Engine → Prop where
  | start {options : Options} {host : Host} {e : Engine} (h : Engine.start options host = .ok e) :
      Reachable e
  | call {e : Engine} (h : Reachable e) (c : Call) : Reachable (c.after e)

/-- A run of calls: what they hand out from the cursor of an id, and the engine after them. -/
def deliver (id : CursorId) : Engine → List Call → List Value × Engine
  | e, [] => ([], e)
  | e, c :: calls =>
    let (given, last) := deliver id (c.after e) calls
    (((c.delivery? id e).map Prod.snd).getD [] ++ given, last)

/-- No call of a run removes the cursor of an id, unless it fetches from it. -/
def Keeps (id : CursorId) : Engine → List Call → Prop
  | _, [] => True
  | e, c :: calls =>
    (c.fetchedId? ≠ some id → (e.cursor? id).isSome → ((c.after e).cursor? id).isSome) ∧
      Keeps id (c.after e) calls

/-! ## §2 — the table through calls -/

variable {e : Engine} {id : CursorId} {ns : String} {rest : List Document}

theorem Call.spares (h : e.Sound) {c : Call} (hc : c.fetchedId? = some id → id = 0) :
    Spares id e (c.after e) := by
  cases c with
  | openConnection => exact spares_openConnection h
  | closeConnection connection => exact spares_closeConnection h connection
  | command connection db d => exact spares_command h connection db hc
  | pump => exact spares_pump h
  | close => exact spares_close h
  | move host => exact spares_of_eq h rfl rfl

/-- The table of an engine that calls lead to is in order. -/
theorem Reachable.sound (h : e.Reachable) : e.Sound := by
  induction h with
  | start h => exact sound_of_start h
  | @call e _ c ih =>
    have hspares : Spares 0 e (c.after e) := Call.spares ih fun _ => rfl
    exact hspares.sound

/-- **One call**: what it hands out from a cursor and what the cursor holds after it make up what it
held. The id in the reply is `0` if nothing is left. Only the end of the cursor makes a fetch remove
it. -/
theorem Holds.after (h : e.Holds id ns rest) (c : Call) :
    ∃ given left, rest = given ++ left ∧ (c.after e).Holds id ns left ∧
      ((c.delivery? id e = none ∧ given = []) ∨
        c.delivery? id e = some (.ofInt (if left = [] then 0 else id), given.map Document.toValue) ∧
          rest ≠ []) ∧
      (c.fetchedId? = some id → (e.cursor? id).isSome → left ≠ [] →
        ((c.after e).cursor? id).isSome) := by
  by_cases hfetch : c.fetchedId? = some id
  · cases c with
    | command connection db d =>
      rcases h.command connection db hfetch with
        ⟨err, hreply, hspares, hsame⟩ | ⟨n, hn, hsome, hreply, hholds, hthere⟩
      · refine ⟨[], rest, rfl, h.spares hspares, Or.inl ⟨?_, rfl⟩, fun _ hsome _ => ?_⟩
        · simp only [Call.delivery?, hfetch, if_true, Call.reply?, hreply]
          rfl
        · show ((e.command connection db d).2.cursor? id).isSome
          rw [hsame]
          exact hsome
      · refine ⟨rest.take n, rest.drop n, (List.take_append_drop n rest).symm, hholds,
          Or.inr ⟨?_, hsome⟩, fun _ _ hleft => hthere hleft⟩
        simp only [Call.delivery?, hfetch, if_true, Call.reply?, hreply]
        exact Reply.said?_cursor (show "nextBatch" ≠ "id" by decide) (by decide) _ ns _
    | openConnection => cases hfetch
    | closeConnection connection => cases hfetch
    | pump => cases hfetch
    | close => cases hfetch
    | move host => cases hfetch
  · -- any other call hands out nothing from this cursor
    refine ⟨[], rest, rfl, h.spares (Call.spares h.sound fun hc => absurd hc hfetch),
      Or.inl ⟨if_neg hfetch, rfl⟩, fun hc => absurd hc hfetch⟩

/-- **A run of calls**: what they hand out from a cursor and what the cursor holds after them make up
what it held before them. If the cursor is there before and no call removes it, it is there after them
until nothing is left. Induction on the calls. -/
theorem Holds.deliver (h : e.Holds id ns rest) (calls : List Call) :
    ∃ given left last, Engine.deliver id e calls = (given.map Document.toValue, last) ∧
      rest = given ++ left ∧ last.Holds id ns left ∧
      (Keeps id e calls → (rest ≠ [] → (e.cursor? id).isSome) → left ≠ [] →
        (last.cursor? id).isSome) := by
  induction calls generalizing e rest with
  | nil => exact ⟨[], rest, e, rfl, rfl, h, fun _ hthere hleft => hthere hleft⟩
  | cons c calls ih =>
    obtain ⟨given, left, hrest, hafter, hgiven, hfetched⟩ := h.after c
    obtain ⟨given', left', last, hrun, hleft, hlast, hkept⟩ := ih hafter
    refine ⟨given ++ given', left', last, ?_, ?_, hlast, fun hkeeps hthere hsome => ?_⟩
    · simp only [Engine.deliver, hrun, List.map_append]
      rcases hgiven with ⟨hnone, rfl⟩ | ⟨hsome, -⟩
      · rw [hnone]
        rfl
      · rw [hsome]
        rfl
    · rw [hrest, hleft, List.append_assoc]
    · -- either the call fetches and something is left, or the run keeps the cursor
      refine hkept hkeeps.2 (fun hleft => ?_) hsome
      have hbefore : (e.cursor? id).isSome := hthere (by simp [hrest, hleft])
      by_cases hfetch : c.fetchedId? = some id
      · exact hfetched hfetch hbefore hleft
      · exact hkeeps.1 hfetch hbefore

/-- A fetch that an engine takes from a cursor that is there hands out as much as it asks for. -/
theorem Takes.delivery? {connection : ConnectionId} {db coll : String} {d : Document}
    {batchSize : Option Nat} {c : Cursor} (hc : e.cursor? id = some c)
    (hns : c.ns = namespaceText db coll)
    (h : e.Takes connection db d (.getMore id coll batchSize)) :
    ∃ next, (Call.command connection db d).delivery? id e
      = some (next, (c.remaining.take (max (batchSize.getD e.options.batchSize) 1)).map
          Document.toValue) := by
  obtain ⟨name, hname, hread⟩ := h.read
  obtain ⟨rfl, hid⟩ := Command.ofDocument_eq_getMore hread
  have hfetch : d.fetchedId? = some id := by
    rw [Document.fetchedId?, if_pos hname, hid]
  have hreply := command_of_getMore hc hns h
  refine ⟨.ofInt (if c.remaining.drop (max (batchSize.getD e.options.batchSize) 1) = [] then 0
    else id), ?_⟩
  simp only [Call.delivery?, Call.fetchedId?, hfetch, if_true, Call.reply?, hreply]
  exact Reply.said?_cursor (show "nextBatch" ≠ "id" by decide) (by decide) _ c.ns _

/-- What was handed out of a result is all of it exactly if nothing is left. -/
theorem map_toValue_eq_iff {given left results : List Document} (h : results = given ++ left) :
    given.map Document.toValue = results.map Document.toValue ↔ left = [] := by
  rw [h, List.map_append, List.self_eq_append_right, List.map_eq_nil_iff]

theorem ofInt_eq_zero_iff {n : Int} : Value.ofInt n = .ofInt 0 ↔ n = 0 := by
  simp [Value.ofInt]

/-- **A cursor goes on where the first batch ends**, whatever calls follow. Here `first` is what was
handed out of the results when the cursor was opened, and `rest` what it then held. -/
theorem Holds.delivers_rest {results first : List Document} (h : e.Holds id ns rest)
    (hresults : results = first ++ rest) (hid : rest ≠ [] → id ≠ 0)
    (hthere : rest ≠ [] → (e.cursor? id).isSome) (calls : List Call) :
    ∃ given left last, Engine.deliver id e calls = (given.map Document.toValue, last) ∧
      results = first ++ given ++ left ∧
      (∀ (c : Call) next batch, c.delivery? id last = some (next, batch) →
        ∃ taken left', results = first ++ given ++ taken ++ left' ∧
          batch = taken.map Document.toValue ∧ (next = .ofInt 0 ↔ left' = [])) ∧
      (Keeps id e calls → left = [] ∨
        ∃ c, last.cursor? id = some c ∧ c.ns = ns ∧ c.remaining = left) := by
  obtain ⟨given, left, last, hrun, hrest, hlast, hkept⟩ := h.deliver calls
  have hwhole : results = first ++ given ++ left := by
    rw [List.append_assoc, ← hrest, hresults]
  refine ⟨given, left, last, hrun, hwhole, fun c next batch hdelivery => ?_, fun hkeeps => ?_⟩
  · obtain ⟨taken, left', hleft, -, hgiven, -⟩ := hlast.after c
    rcases hgiven with ⟨hnone, -⟩ | ⟨hsome, hne⟩
    · rw [hnone] at hdelivery
      cases hdelivery
    · rw [hsome] at hdelivery
      obtain ⟨rfl, rfl⟩ := Prod.mk.inj (Option.some.inj hdelivery)
      refine ⟨taken, left', ?_, rfl, ?_⟩
      · rw [List.append_assoc (first ++ given), ← hleft, ← hwhole]
      · have hid : id ≠ 0 := hid fun hnone => hne (List.append_eq_nil_iff.mp (hrest ▸ hnone)).2
        rw [ofInt_eq_zero_iff]
        split
        · next hnone => simp [hnone]
        · next hsome => simp [hsome, hid]
  · by_cases hleft : left = []
    · exact Or.inl hleft
    · obtain ⟨c, hc⟩ := Option.isSome_iff_exists.mp (hkept hkeeps hthere hleft)
      exact Or.inr ⟨c, hc, hlast.cursor c hc⟩

end Engine

/-- **A cursor delivers the snapshot taken by its aggregate**, once and in order. An `aggregate` that
an engine takes is answered with the first documents of its result. Whatever calls follow, what they
hand out from its cursor goes on where the first batch ends, and a reply has the id `0` exactly if
the result is complete with it. While no other call removes the cursor, it holds exactly what is
missing, and a fetch that the engine takes hands out as much of it as it asks for, but at least one
document. -/
theorem cursor_delivers_snapshot {e : Engine} (h : e.Reachable) {connection : ConnectionId}
    {db coll : String} {d : Document} {pipeline : Pipeline} {batchSize : Option Nat}
    (htakes : e.Takes connection db d (.aggregate coll pipeline batchSize)) :
    let results := (pipeline.run (e.store.scan db coll)).map Document.toValue
    ∃ reply e₁ id first, e.command connection db d = (.ok reply, e₁) ∧
      Reply.said? "firstBatch" reply = some (.ofInt id, first) ∧
      first = results.take (batchSize.getD e.options.batchSize) ∧
      (id = 0 ↔ first = results) ∧
      ∀ calls, ∃ given last, Engine.deliver id e₁ calls = (given, last) ∧
        first ++ given <+: results ∧
        (∀ (c : Engine.Call) next batch, c.delivery? id last = some (next, batch) →
          first ++ given ++ batch <+: results ∧
          (next = .ofInt 0 ↔ first ++ given ++ batch = results)) ∧
        (Engine.Keeps id e₁ calls → first ++ given = results ∨
          ∃ c, last.cursor? id = some c ∧
            first ++ given ++ c.remaining.map Document.toValue = results ∧
            ∀ connection' db' coll' d' size, last.Takes connection' db' d' (.getMore id coll' size) →
              namespaceText db' coll' = namespaceText db coll →
              ∃ next, (Engine.Call.command connection' db' d').delivery? id last
                = some (next, (c.remaining.map Document.toValue).take
                    (max (size.getD last.options.batchSize) 1))) := by
  intro results
  obtain ⟨hreply, hholds, hthere⟩ := Engine.command_of_aggregate h.sound htakes
  generalize hdocs : pipeline.run (e.store.scan db coll) = docs at hreply hholds hthere
  generalize batchSize.getD e.options.batchSize = n at hreply hholds hthere ⊢
  have hsplit : docs = docs.take n ++ docs.drop n := (List.take_append_drop n docs).symm
  have hid : (if docs.drop n = [] then (0 : CursorId) else e.nextCursor) = 0 ↔ docs.drop n = [] := by
    by_cases hrest : docs.drop n = []
    · simp [hrest]
    · simp only [hrest, if_false, iff_false]
      exact Int.ne_of_gt h.sound.next
  rw [show results = docs.map Document.toValue by rw [← hdocs]]
  refine ⟨_, _, _, (docs.take n).map Document.toValue, Prod.ext hreply rfl,
    Reply.said?_cursor (show "firstBatch" ≠ "id" by decide) (by decide) _ _ _, by rw [List.map_take],
    hid.trans (Engine.map_toValue_eq_iff hsplit).symm, fun calls => ?_⟩
  obtain ⟨given, left, last, hrun, hwhole, hnext, hkept⟩ :=
    hholds.delivers_rest hsplit (fun hrest hzero => hrest (hid.mp hzero)) hthere calls
  refine ⟨_, last, hrun, ?_, fun c next batch hdelivery => ?_, fun hkeeps => ?_⟩
  · refine ⟨left.map Document.toValue, ?_⟩
    rw [← List.map_append, ← List.map_append, ← hwhole]
  · obtain ⟨taken, left', hwhole', rfl, hzero⟩ := hnext c next batch hdelivery
    rw [← List.map_append, ← List.map_append, Engine.map_toValue_eq_iff hwhole']
    refine ⟨⟨left'.map Document.toValue, ?_⟩, hzero⟩
    rw [← List.map_append, ← hwhole']
  · rw [← List.map_append, Engine.map_toValue_eq_iff hwhole]
    rcases hkept hkeeps with hnone | ⟨c, hc, hns, hremaining⟩
    · exact Or.inl hnone
    · refine Or.inr ⟨c, hc, ?_, fun connection' db' coll' d' size htakes' hsame => ?_⟩
      · rw [← List.map_append, hremaining, ← hwhole]
      · rw [← List.map_take]
        exact htakes'.delivery? hc (hns.trans hsame.symm)

/-- A result of three documents, of which one is handed out at once and one after another insert. -/
theorem cursor_delivers_snapshot_of_three :
    let host : Host := { ids := fun _ => "", showTime := fun _ => "" }
    let document (n : Nat) : Value := .object [("_id", .ofNat n)]
    let insert (ns : List Nat) : Engine.Call := .command 1 "db" ⟨[("insert", .string "notes"),
      ("documents", .array (ns.map document))]⟩
    let aggregate : Document := ⟨[("aggregate", .string "notes"), ("pipeline", .array []),
      ("cursor", .object [("batchSize", .ofNat 1)])]⟩
    let getMore : Engine.Call := .command 1 "db" ⟨[("getMore", .ofNat 1),
      ("collection", .string "notes"), ("batchSize", .ofNat 1)]⟩
    ∃ e₀, Engine.start {} host = .ok e₀ ∧
      let e := (insert [1, 2, 3]).after (Engine.Call.openConnection.after e₀)
      e.Takes 1 "db" aggregate (.aggregate "notes" [] (some 1)) ∧
      ∃ reply e₁ id first given last, e.command 1 "db" aggregate = (.ok reply, e₁) ∧
        Reply.said? "firstBatch" reply = some (.ofInt id, first) ∧
        Engine.deliver id e₁ [insert [4], getMore] = (given, last) ∧
        first ++ given <+: (e.store.scan "db" "notes").map Document.toValue := by
  intro host document insert aggregate getMore
  refine ⟨_, rfl, ?_⟩
  intro e
  have hstart : Engine.Reachable _ := .start (show Engine.start {} host = .ok _ from rfl)
  have hreachable : e.Reachable := (hstart.call .openConnection).call (insert [1, 2, 3])
  have htakes : e.Takes 1 "db" aggregate (.aggregate "notes" [] (some 1)) :=
    ⟨rfl, rfl, rfl, "aggregate", rfl, rfl⟩
  obtain ⟨reply, e₁, id, first, hcommand, hsaid, -, -, hcalls⟩ :=
    cursor_delivers_snapshot hreachable htakes
  obtain ⟨given, last, hrun, hgiven, -⟩ := hcalls [insert [4], getMore]
  exact ⟨htakes, reply, e₁, id, first, given, last, hcommand, hsaid, hrun, hgiven⟩

end DocStore
