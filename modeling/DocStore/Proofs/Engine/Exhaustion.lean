import DocStore.Proofs.Engine.Custody
import DocStore.Proofs.Engine.Drops
import DocStore.Proofs.Engine.Syncs

/-!
# DocStore — cursors come to an end

The id of a cursor is given out once, in the reply to the `aggregate` that opens it, and ids are counted up
from one. In the table a cursor always has something left, so every fetch that has a reply hands out a
document, whatever batch size it asks for. A cursor with so many documents is at its end after as many
fetches.

* **`Engine.openedIds`** — the ids that calls give out. **`Engine.Sound.opened?_call`** is the step, one id
  at most, and **`Engine.Sound.openedIds_eq`** the run, by induction on the calls.
* **`Engine.Sound.fetch`** — a `getMore` with a reply.
* **`Engine.answered`** — the ids in the replies to fetches from a cursor. **`Engine.Holds.step`** is the
  step, a document less at least, and **`Engine.Holds.answered`** the run.
* **`cursors_come_to_an_end`** — the main statement.
-/

namespace DocStore

/-! ## §1 — ids that are given out -/

namespace Reply

/-- The id of the cursor that a reply with a first batch tells of. The id `0` is no cursor's. -/
def opened? (reply : Document) : Option CursorId :=
  match said? "firstBatch" reply with
  | some (.number (.int id), _) => if id = 0 then none else some id
  | _ => none

theorem opened?_cursor (id : CursorId) (ns : String) (batch : List Document) :
    opened? ((Reply.cursor id ns "firstBatch" batch).put "ok" .one)
      = if id = 0 then none else some id := by
  unfold opened?
  rw [said?_cursor (show "firstBatch" ≠ "id" by decide) (by decide)]
  rfl

end Reply

namespace Engine

/-- The id that a call gives out. -/
def Call.opened? (c : Call) (e : Engine) : Option CursorId := (c.reply? e).bind Reply.opened?

/-- The ids that calls give out, in order. -/
def openedIds : Engine → List Call → List CursorId
  | _, [] => []
  | e, c :: calls => (c.opened? e).toList ++ openedIds (c.after e) calls

variable {e e' : Engine} {id : CursorId} {ns : String} {rest : List Document}

/-- A step from one engine to another gives out no id, or the next one. -/
def GivesOut (e e' : Engine) (given : Option CursorId) : Prop :=
  (given = none ∧ e'.nextCursor = e.nextCursor) ∨
    (given = some e.nextCursor ∧ e'.nextCursor = e.nextCursor + 1)

/-- An `aggregate` gives out an id if it leaves something behind. -/
theorem Sound.givesOut_aggregate (h : e.Sound) {db coll : String} {pipeline : Pipeline}
    {batchSize : Option Nat} {reply : Document}
    (hrun : e.perform db (.aggregate coll pipeline batchSize) = (.ok reply, e')) :
    GivesOut e e' (Reply.opened? (reply.put "ok" .one)) := by
  rw [perform_aggregate] at hrun
  obtain ⟨hreply, rfl⟩ := Prod.mk.inj hrun
  obtain rfl := Except.ok.inj hreply
  rw [Reply.opened?_cursor]
  unfold parkCursor
  split
  · exact Or.inl ⟨rfl, rfl⟩
  · exact Or.inr ⟨if_neg (Int.ne_of_gt h.next), rfl⟩

/-- Nothing else gives out an id. One case for each command. -/
theorem opened?_perform {db : String} {c : Command}
    (hc : ∀ coll pipeline batchSize, c ≠ .aggregate coll pipeline batchSize) {reply : Document}
    (hrun : e.perform db c = (.ok reply, e')) : Reply.opened? (reply.put "ok" .one) = none := by
  cases c with
  | ping | hello | buildInfo | serverStatus | count coll filter | listDatabases =>
    obtain rfl := Except.ok.inj (Prod.mk.inj hrun).1
    rfl
  | listCollections =>
    obtain rfl := Except.ok.inj (Prod.mk.inj hrun).1
    exact Reply.opened?_cursor 0 _ _
  | aggregate coll pipeline batchSize => exact absurd rfl (hc coll pipeline batchSize)
  | getMore id coll batchSize =>
    rcases performGetMore_cases e db id coll batchSize with
      ⟨err, hfail⟩ | ⟨c, n, counters, -, -, -, hfetch⟩
    · cases hfail.symm.trans hrun
    · obtain rfl := Except.ok.inj (Prod.mk.inj (hfetch.symm.trans hrun)).1
      rfl
  | insert coll ds =>
    simp only [perform, performInsert] at hrun
    split at hrun
    · cases hrun
    · obtain rfl := Except.ok.inj (Prod.mk.inj hrun).1
      rfl
  | killCursors coll ids =>
    simp only [perform, performKillCursors] at hrun
    split at hrun
    · cases hrun
    · obtain rfl := Except.ok.inj (Prod.mk.inj hrun).1
      rfl
  | drop coll =>
    simp only [perform, performDrop] at hrun
    split at hrun
    · cases hrun
    · obtain rfl := Except.ok.inj (Prod.mk.inj hrun).1
      rfl
  | dropDatabase =>
    simp only [perform, performDropDatabase] at hrun
    split at hrun
    · cases hrun
    · obtain rfl := Except.ok.inj (Prod.mk.inj hrun).1
      rfl

/-- A command that is taken gives out an id if it is an `aggregate` and leaves something behind. -/
theorem Sound.givesOut_taken (h : e.Sound) {connection : ConnectionId} {db : String} {d : Document}
    {c : Command} (htakes : e.Takes connection db d c) :
    GivesOut e (e.command connection db d).2 ((Call.command connection db d).opened? e) := by
  show GivesOut e (e.command connection db d).2
    ((e.command connection db d).1.toOption.bind Reply.opened?)
  have hcommand := htakes.command
  rcases hrun : e.countCommand.perform db c with ⟨answer, e'⟩
  rw [hrun] at hcommand
  rw [hcommand]
  by_cases hc : ∃ coll pipeline batchSize, c = .aggregate coll pipeline batchSize
  · obtain ⟨coll, pipeline, batchSize, rfl⟩ := hc
    obtain ⟨reply, rfl⟩ : ∃ reply, answer = .ok reply := ⟨_, (congrArg Prod.fst hrun).symm⟩
    exact h.countCommand.givesOut_aggregate hrun
  · have hother : ∀ coll pipeline batchSize, c ≠ .aggregate coll pipeline batchSize :=
      fun coll pipeline batchSize heq => hc ⟨coll, pipeline, batchSize, heq⟩
    obtain ⟨-, hnext⟩ := keys_perform h.countCommand db hother
    rw [hrun] at hnext
    cases answer with
    | error err => exact Or.inl ⟨rfl, hnext⟩
    | ok reply => exact Or.inl ⟨opened?_perform hother hrun, hnext⟩

/-- **One call** gives out no id, or the next one. -/
theorem Sound.opened?_call (h : e.Sound) (c : Call) : GivesOut e (c.after e) (c.opened? e) := by
  by_cases hcommand : ∃ connection db d, c = .command connection db d
  · obtain ⟨connection, db, d, rfl⟩ := hcommand
    rcases refused_or_takes e connection db d with ⟨err, hrun⟩ | ⟨err, hrun⟩ | ⟨c, htakes⟩
    · simp only [Call.opened?, Call.reply?, Call.after, hrun]
      exact Or.inl ⟨rfl, rfl⟩
    · simp only [Call.opened?, Call.reply?, Call.after, hrun]
      exact Or.inl ⟨rfl, rfl⟩
    · exact h.givesOut_taken htakes
  · have hnone : c.opened? e = none := by
      cases c with
      | command connection db d => exact absurd ⟨connection, db, d, rfl⟩ hcommand
      | _ => rfl
    obtain ⟨-, hnext⟩ := keys_call h fun connection db d heq => absurd ⟨connection, db, d, heq⟩ hcommand
    exact Or.inl ⟨hnone, hnext⟩

/-- **A run of calls** gives out the next ids, one after the other. Induction on the calls. -/
theorem Sound.openedIds_eq (h : e.Sound) (calls : List Call) :
    e.openedIds calls = (List.range (e.openedIds calls).length).map (fun n : Nat => e.nextCursor + n) ∧
      (e.follow calls).nextCursor = e.nextCursor + (e.openedIds calls).length := by
  have hcount (next : Int) (n : Nat) : next + 1 + n = next + (n + 1 : Nat) := by omega
  induction calls generalizing e with
  | nil => exact ⟨rfl, (Int.add_zero _).symm⟩
  | cons c calls ih =>
    have hspares : Spares 0 e (c.after e) := Call.spares h fun _ => rfl
    obtain ⟨hids, hlast⟩ := ih hspares.sound
    show (c.opened? e).toList ++ openedIds (c.after e) calls = _ ∧
      ((c.after e).follow calls).nextCursor = _
    rw [Engine.openedIds]
    generalize (c.after e).openedIds calls = later at hids hlast ⊢
    rcases h.opened?_call c with ⟨hgiven, hnext⟩ | ⟨hgiven, hnext⟩
    · rw [hnext] at hids hlast
      rw [hgiven]
      exact ⟨hids, hlast⟩
    · rw [hnext] at hids hlast
      rw [hgiven]
      refine ⟨?_, ?_⟩
      · -- the first id is the next one, the others are counted from there
        show e.nextCursor :: later = (List.range (later.length + 1)).map _
        rw [List.range_succ_eq_map, List.map_cons, List.map_map]
        exact List.cons_eq_cons.mpr ⟨(Int.add_zero _).symm,
          hids.trans (List.map_congr_left fun n _ => hcount _ n)⟩
      · rw [hlast]
        exact hcount _ _

/-- An id that has been given out is not given out again. -/
theorem Sound.notMem_openedIds (h : e.Sound) (hid : id < e.nextCursor) (calls : List Call) :
    id ∉ e.openedIds calls := by
  rw [(h.openedIds_eq calls).1]
  intro hmem
  obtain ⟨n, -, rfl⟩ := List.mem_map.mp hmem
  exact absurd hid (Int.not_lt.mpr (Int.le_add_of_nonneg_right (Int.natCast_nonneg n)))

/-! ## §2 — fetches with a reply -/

/-- **A `getMore` with a reply** was a fetch from a cursor that is there, of one document at least. -/
theorem Sound.fetch {connection : ConnectionId} {db : String} {d reply : Document}
    (hname : d.firstName? = some "getMore") (hreply : (e.command connection db d).1 = .ok reply) :
    ∃ id c n, d.fetchedId? = some id ∧ e.cursor? id = some c ∧ 0 < n ∧
      reply = fetched id c.ns c.remaining n := by
  obtain ⟨asked, htakes⟩ := takes_of_command_eq_ok hreply
  obtain ⟨name, hname', hread⟩ := htakes.read
  obtain rfl := Option.some.inj (hname'.symm.trans hname)
  obtain ⟨id, coll, batchSize, rfl, hid⟩ := Command.readGetMore_eq_ok hread
  have hfetched : d.fetchedId? = some id := by
    rw [Document.fetchedId?, if_pos hname, hid]
  rw [htakes.command] at hreply
  simp only [perform] at hreply
  rcases performGetMore_cases e.countCommand db id coll batchSize with
    ⟨err, hrun⟩ | ⟨c, n, counters, hc, -, hn, hrun⟩
  · rw [hrun] at hreply
    cases hreply
  · rw [hrun] at hreply
    exact ⟨id, c, n, hfetched, hc, by omega, (Except.ok.inj hreply).symm⟩

/-- What is said in the reply to a fetch. -/
theorem said?_fetched (id : CursorId) (ns : String) (rest : List Document) (n : Nat) :
    Reply.said? "nextBatch" (fetched id ns rest n)
      = some (.ofInt (if rest.drop n = [] then 0 else id), (rest.take n).map Document.toValue) :=
  Reply.said?_cursor (show "nextBatch" ≠ "id" by decide) (by decide) _ ns _

/-- The batch of a fetch with a reply is not empty, since no cursor is. -/
theorem Sound.exists_batch (h : e.Sound) {connection : ConnectionId} {db : String} {d reply : Document}
    (hname : d.firstName? = some "getMore") (hreply : (e.command connection db d).1 = .ok reply) :
    ∃ next first others, Reply.said? "nextBatch" reply = some (next, first :: others) := by
  obtain ⟨id, c, n, -, hc, hn, rfl⟩ := Sound.fetch hname hreply
  obtain ⟨first, others, hremaining⟩ := List.exists_cons_of_ne_nil (h.remaining_ne_nil hc)
  obtain ⟨m, rfl⟩ := Nat.exists_eq_add_of_lt hn
  rw [said?_fetched, hremaining]
  exact ⟨_, first.toValue, (others.take (0 + m)).map Document.toValue, rfl⟩

theorem Call.command_of_reply? {connection : ConnectionId} {db : String} {d reply : Document}
    (h : (Call.command connection db d).reply? e = some reply) :
    (e.command connection db d).1 = .ok reply := by
  change (e.command connection db d).1.toOption = some reply at h
  cases hanswer : (e.command connection db d).1 with
  | error err =>
    rw [hanswer] at h
    cases h
  | ok reply' =>
    rw [hanswer] at h
    rw [Option.some.inj h]

theorem Sound.delivery?_ne_nil (h : e.Sound) {c : Call} {next : Value} {batch : List Value}
    (hdelivery : c.delivery? id e = some (next, batch)) : batch ≠ [] := by
  unfold Call.delivery? at hdelivery
  split at hdelivery
  · next hfetch =>
    obtain ⟨reply, hreply, hsaid⟩ := Option.bind_eq_some_iff.mp hdelivery
    cases c with
    | command connection db d =>
      obtain ⟨next', first, others, hbatch⟩ :=
        h.exists_batch (Document.fetchedId?_eq_some hfetch).1 (Call.command_of_reply? hreply)
      obtain ⟨-, rfl⟩ := Prod.mk.inj (Option.some.inj (hsaid.symm.trans hbatch))
      exact List.cons_ne_nil _ _
    | _ => cases hfetch
  · cases hdelivery

/-! ## §3 — until the end -/

/-- The ids in the replies to fetches from a cursor, in order. Fetches that fail are not among them. -/
def answered (id : CursorId) : Engine → List Call → List Value
  | _, [] => []
  | e, c :: calls => ((c.delivery? id e).map Prod.fst).toList ++ answered id (c.after e) calls

/-- **One call** leaves the documents of a cursor, or there is one less of them at least. Then the reply has
the id `0` if there is none any more. -/
theorem Holds.step (h : e.Holds id ns rest) (c : Call) :
    ∃ left, (c.after e).Holds id ns left ∧
      (c.delivery? id e = none ∧ left = rest ∨
        ∃ batch, c.delivery? id e = some (.ofInt (if left = [] then 0 else id), batch) ∧
          left.length < rest.length) ∧
      (c.fetchedId? = some id → (e.cursor? id).isSome → left ≠ [] →
        ((c.after e).cursor? id).isSome) := by
  obtain ⟨given, left, rfl, hafter, hgiven, hthere⟩ := h.after c
  refine ⟨left, hafter, ?_, hthere⟩
  rcases hgiven with ⟨hnone, rfl⟩ | ⟨hsome, -⟩
  · exact Or.inl ⟨hnone, rfl⟩
  · have hbatch := h.sound.delivery?_ne_nil hsome
    refine Or.inr ⟨_, hsome, ?_⟩
    rw [List.length_append]
    have hpos := List.length_pos_iff.mpr hbatch
    rw [List.length_map] at hpos
    omega

/-- A cursor without documents is not there, and no fetch from it has a reply. Induction on the calls. -/
theorem Holds.answered_of_nil (h : e.Holds id ns []) (calls : List Call) :
    answered id e calls = [] ∧ (e.follow calls).Holds id ns [] := by
  induction calls generalizing e with
  | nil => exact ⟨rfl, h⟩
  | cons c calls ih =>
    obtain ⟨left, hafter, hanswer, -⟩ := h.step c
    rcases hanswer with ⟨hnone, rfl⟩ | ⟨batch, -, hless⟩
    · obtain ⟨hanswered, hlast⟩ := ih hafter
      refine ⟨?_, hlast⟩
      rw [Engine.answered, hnone, hanswered]
      rfl
    · exact absurd hless (Nat.not_lt_zero _)

/-- **A run of calls**: fetches from a cursor are answered with its id, each with a document of it less,
until one is answered with `0`. Unless other calls remove it, the cursor is there until then. Induction on
the calls. -/
theorem Holds.answered (h : e.Holds id ns rest) (hrest : rest ≠ []) (calls : List Call) :
    (∃ k, k < rest.length ∧ answered id e calls = List.replicate k (.ofInt id) ++ [.ofInt 0] ∧
      (e.follow calls).cursor? id = none) ∨
    ∃ k left, left ≠ [] ∧ k + left.length ≤ rest.length ∧
      answered id e calls = List.replicate k (.ofInt id) ∧ (e.follow calls).Holds id ns left ∧
      (Keeps id e calls → (e.cursor? id).isSome → ((e.follow calls).cursor? id).isSome) := by
  induction calls generalizing e rest with
  | nil => exact Or.inr ⟨0, rest, hrest, (Nat.zero_add _).le, rfl, h, fun _ hthere => hthere⟩
  | cons c calls ih =>
    obtain ⟨left, hafter, hanswer, hfetched⟩ := h.step c
    have hkept (hleft : left ≠ []) (hkeeps : Keeps id e (c :: calls)) (hthere : (e.cursor? id).isSome) :
        ((c.after e).cursor? id).isSome := by
      by_cases hfetch : c.fetchedId? = some id
      · exact hfetched hfetch hthere hleft
      · exact hkeeps.1 hfetch hthere
    rw [Engine.answered]
    rcases hanswer with ⟨hnone, rfl⟩ | ⟨batch, hsome, hless⟩
    · rw [hnone]
      rcases ih hafter hrest with hend | ⟨k, later, hlater, hk, hanswered, hlast, hthere⟩
      · exact Or.inl hend
      · exact Or.inr ⟨k, later, hlater, hk, hanswered, hlast,
          fun hkeeps hbefore => hthere hkeeps.2 (hkept hrest hkeeps hbefore)⟩
    · rw [hsome]
      by_cases hleft : left = []
      · -- this was the last document, and nothing follows
        subst hleft
        obtain ⟨hanswered, hlast⟩ := hafter.answered_of_nil calls
        rw [hanswered, if_pos rfl]
        exact Or.inl ⟨0, Nat.lt_of_le_of_lt (Nat.zero_le _) hless, rfl, hlast.cursor?_eq_none⟩
      · rw [if_neg hleft]
        rcases ih hafter hleft with ⟨k, hk, hanswered, hgone⟩ |
          ⟨k, later, hlater, hk, hanswered, hlast, hthere⟩
        · exact Or.inl ⟨k + 1, by omega, by rw [hanswered]; rfl, hgone⟩
        · exact Or.inr ⟨k + 1, later, hlater, by omega, by rw [hanswered]; rfl, hlast,
            fun hkeeps hbefore => hthere hkeeps.2 (hkept hleft hkeeps hbefore)⟩

/-- What fetches make of a cursor while other things are done. They are answered with its id, less often
than there are documents, and then with `0`, when it is gone; or not yet with `0`. In that case, and unless
other calls have removed the cursor, it is there with so many documents less at least, and a fetch that the
engine takes has a reply. -/
def RunsOut (e : Engine) (id : CursorId) (c : Cursor) (calls : List Call) : Prop :=
  ∃ k < c.remaining.length,
    (answered id e calls = List.replicate k (.ofInt id) ++ [.ofInt 0] ∧
      (e.follow calls).cursor? id = none) ∨
    (answered id e calls = List.replicate k (.ofInt id) ∧ (Keeps id e calls →
      ∃ left, (e.follow calls).cursor? id = some left ∧ left.ns = c.ns ∧
        k + left.remaining.length ≤ c.remaining.length ∧
        ∀ connection db coll d size, namespaceText db coll = c.ns →
          (e.follow calls).Takes connection db d (.getMore id coll size) →
          ∃ reply, ((e.follow calls).command connection db d).1 = .ok reply))

theorem Sound.runsOut (h : e.Sound) {c : Cursor} (hc : e.cursor? id = some c) (calls : List Call) :
    e.RunsOut id c calls := by
  have hholds : e.Holds id c.ns c.remaining := by
    refine ⟨h, (h.given _ (h.cursor?_eq_some_iff.mp hc)).2, fun c' hc' => ?_⟩
    obtain rfl := Option.some.inj (hc.symm.trans hc')
    exact ⟨rfl, rfl⟩
  rcases hholds.answered (h.remaining_ne_nil hc) calls with
    ⟨k, hk, hanswered, hgone⟩ | ⟨k, left, hleft, hk, hanswered, hlast, hthere⟩
  · exact ⟨k, hk, Or.inl ⟨hanswered, hgone⟩⟩
  · have hpos := List.length_pos_iff.mpr hleft
    refine ⟨k, by omega, Or.inr ⟨hanswered, fun hkeeps => ?_⟩⟩
    obtain ⟨last, hfound⟩ := Option.isSome_iff_exists.mp (hthere hkeeps (by rw [hc]; rfl))
    obtain ⟨hns, hremaining⟩ := hlast.cursor last hfound
    exact ⟨last, hfound, hns, by rw [hremaining]; exact hk, fun connection db coll d size hsame htakes =>
      ⟨_, command_of_getMore hfound (hns.trans hsame.symm) htakes⟩⟩

theorem Reachable.follow (h : e.Reachable) (calls : List Call) : (e.follow calls).Reachable := by
  induction calls generalizing e with
  | nil => exact h
  | cons c calls ih => exact ih (h.call c)

end Engine

/-- **Cursors come to an end.** Let any calls be made on an engine that has been started. The ids that were
given out are the numbers from one on, as many as cursors were opened, so 64 bits hold them while cursors
are fewer than that. Every cursor in the table has something left, an id between one and the next one to be
given out, and a collection of a database that it is over. No id that was given out is given out again, and
a cursor that is gone stays gone. A `getMore` with a reply hands out one document at least. And a cursor
runs out: with `m` documents, and unless other calls remove it, it answers with the id `0` after at most `m`
fetches that have a reply. -/
theorem cursors_come_to_an_end {options : Options} {host : Host} {e₀ : Engine}
    (hstart : Engine.start options host = .ok e₀) (calls : List Engine.Call) :
    let e := e₀.follow calls
    let n := (e₀.openedIds calls).length
    e₀.openedIds calls = (List.range n).map (fun i : Nat => (i : Int) + 1) ∧ e.nextCursor = n + 1 ∧
      (e.cursors.map Prod.fst).Nodup ∧
      (∀ c ∈ e.cursors, c.2.remaining ≠ [] ∧ 1 ≤ c.1 ∧ c.1 < e.nextCursor ∧
        ∃ ns : Namespace, c.2.Over ns) ∧
      (∀ id, id < e.nextCursor → ∀ later, id ∉ e.openedIds later ∧
        (e.cursor? id = none → (e.follow later).cursor? id = none)) ∧
      (∀ connection db d reply, d.firstName? = some "getMore" →
        (e.command connection db d).1 = .ok reply →
        ∃ next first others, Reply.said? "nextBatch" reply = some (next, first :: others)) ∧
      ∀ id c, e.cursor? id = some c → ∀ later, e.RunsOut id c later := by
  intro e n
  have hreachable : e.Reachable := (Engine.Reachable.start hstart).follow calls
  have hsound : e.Sound := hreachable.sound
  have hfirst : e₀.nextCursor = 1 := by
    obtain ⟨store, -, rfl⟩ := Engine.start_eq_ok hstart
    rfl
  obtain ⟨hids, hnext⟩ := (Engine.sound_of_start hstart).openedIds_eq calls
  rw [hfirst] at hids hnext
  refine ⟨hids.trans (List.map_congr_left fun i _ => Int.add_comm _ _), hnext.trans (Int.add_comm _ _),
    hsound.distinct, fun c hc => ?_, fun id hid later => ⟨hsound.notMem_openedIds hid later, fun hgone => ?_⟩,
    fun connection db d reply hname hreply => hsound.exists_batch hname hreply,
    fun id c hc later => hsound.runsOut hc later⟩
  · obtain ⟨hpos, hlt⟩ := hsound.given c hc
    exact ⟨hsound.left c hc, hpos, hlt, hreachable.placed c hc⟩
  · have hnothing : e.Holds id "" [] :=
      ⟨hsound, hid, fun c hc => by rw [hgone] at hc; cases hc⟩
    exact (hnothing.answered_of_nil later).2.cursor?_eq_none

/-- Two documents in a cursor, fetched with a batch size of zero. -/
theorem cursors_come_to_an_end_of_two :
    let host : Host := { ids := fun _ => "", showTime := fun _ => "" }
    let document (n : Nat) : Value := .object [("_id", .ofNat n)]
    let insert : Engine.Call := .command 1 "db" ⟨[("insert", .string "notes"),
      ("documents", .array [document 1, document 2])]⟩
    let aggregate : Engine.Call := .command 1 "db" ⟨[("aggregate", .string "notes"),
      ("pipeline", .array []), ("cursor", .object [("batchSize", .ofNat 0)])]⟩
    let fetch : Engine.Call := .command 1 "db" ⟨[("getMore", .ofNat 1),
      ("collection", .string "notes"), ("batchSize", .ofNat 0)]⟩
    let calls := [.openConnection, insert, aggregate]
    ∃ e₀, Engine.start {} host = .ok e₀ ∧ e₀.openedIds calls = [1] ∧
      let e := e₀.follow calls
      e.nextCursor = 2 ∧ ∃ c, e.cursor? 1 = some c ∧ c.remaining.length = 2 ∧
        (Engine.answered 1 e [fetch, .pump, fetch, fetch]).map Value.asInt? = [some 1, some 0] ∧
        e.RunsOut 1 c [fetch, .pump, fetch, fetch] := by
  intro host document insert aggregate fetch calls
  obtain ⟨e₀, hstart⟩ : ∃ e₀, Engine.start {} host = .ok e₀ := ⟨_, rfl⟩
  obtain ⟨-, hnext, -, -, -, -, hruns⟩ := cursors_come_to_an_end hstart calls
  have hopened : e₀.openedIds calls = [1] := by
    obtain rfl := Except.ok.inj hstart
    decide +kernel
  rw [hopened] at hnext
  obtain ⟨c, hc, hlength⟩ : ∃ c, (e₀.follow calls).cursor? 1 = some c ∧ c.remaining.length = 2 := by
    obtain rfl := Except.ok.inj hstart
    exact ⟨_, rfl, rfl⟩
  have hanswered : (Engine.answered 1 (e₀.follow calls) [fetch, .pump, fetch, fetch]).map Value.asInt?
      = [some 1, some 0] := by
    obtain rfl := Except.ok.inj hstart
    decide +kernel
  exact ⟨e₀, hstart, hopened, hnext, c, hc, hlength, hanswered, hruns 1 c hc _⟩

end DocStore
