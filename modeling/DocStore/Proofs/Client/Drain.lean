import Mathlib
import DocStore.Proofs.Client.Requests

/-!
# DocStore — collecting a result

A result that is collected comes in batches. The first one may be empty, every later one hands out at
least one document, so the stream fetches exactly as often as the rest of the result takes, and leaves
the server as it found it but for the account of its requests.

* **`Server.collecting`** — the server in the middle of it, as a function of what has been fetched.
* **`Server.Ready.read_aggregate`**, **`Server.Ready.read_getMore`** — the two steps.
* **`ResultStream.takeAll_of_collecting`** — all fetches, by induction on what the server keeps.
* **`collect_of_any_batchSize`** — the main statement.
-/

namespace DocStore

/-! ## §1 — fetching from the last cursor of the table -/

/-- The entry of a cursor that holds these documents. Nothing left needs no entry. -/
def Cursor.entry (id : CursorId) (c : Cursor) : List (CursorId × Cursor) :=
  if c.remaining = [] then [] else [(id, c)]

namespace Engine

variable {e : Engine} {id : CursorId} {others : List (CursorId × Cursor)} {c : Cursor}

theorem cursor?_of_last (hcursors : e.cursors = others ++ [(id, c)])
    (hothers : ∀ other ∈ others, other.1 ≠ id) : e.cursor? id = some c := by
  have hnone : others.lookup id = none := by
    rw [List.lookup_eq_none_iff]
    intro other hother
    simpa using (hothers other hother).symm
  unfold cursor?
  rw [hcursors, List.lookup_append, hnone]
  simp

theorem removeCursor_of_last (hcursors : e.cursors = others ++ [(id, c)])
    (hothers : ∀ other ∈ others, other.1 ≠ id) : e.removeCursor id = { e with cursors := others } := by
  have hkept : others.filter (fun other => other.1 != id) = others := by
    rw [List.filter_eq_self]
    intro other hother
    simpa using hothers other hother
  unfold removeCursor
  rw [hcursors, List.filter_append, hkept]
  simp

theorem updateCursor_of_last (hcursors : e.cursors = others ++ [(id, c)])
    (hothers : ∀ other ∈ others, other.1 ≠ id) (new : Cursor) :
    e.updateCursor id new = { e with cursors := others ++ [(id, new)] } := by
  have hkept : others.map (fun old => if old.1 = id then (id, new) else old) = others := by
    calc others.map (fun old => if old.1 = id then (id, new) else old)
        = others.map (fun old => old) :=
          List.map_congr_left fun old hold => if_neg (hothers old hold)
      _ = others := List.map_id' others
  unfold updateCursor
  rw [hcursors, List.map_append, hkept]
  simp

/-- **A pipeline's result** is handed out in part, and the others go into a cursor behind all that are
there. -/
theorem performAggregate_eq (e : Engine) (db coll : String) (p : Pipeline) (batchSize : Option Nat)
    {results : List Document} (hresults : results = p.run (e.store.scan db coll)) {n : Nat}
    (hn : n = batchSize.getD e.options.batchSize) :
    e.performAggregate db coll p batchSize
      = (.ok (Reply.cursor (if results.drop n = [] then 0 else e.nextCursor) (namespaceText db coll)
          "firstBatch" (results.take n)),
        { e with
          cursors := e.cursors ++
            Cursor.entry e.nextCursor ⟨namespaceText db coll, results.drop n, e.now⟩
          nextCursor := e.nextCursor + if results.drop n = [] then 0 else 1
          counters := { e.counters with queries := e.counters.queries + 1 } }) := by
  unfold performAggregate parkCursor Cursor.entry
  simp only [← hresults, ← hn, List.isEmpty_iff]
  split
  · rw [List.append_nil, Int.add_zero]
  · rfl

/-- **A fetch from the last cursor** hands out the first documents of it, and the others stay in it. -/
theorem performGetMore_of_last (hcursors : e.cursors = others ++ [(id, c)])
    (hothers : ∀ other ∈ others, other.1 ≠ id) {db coll : String}
    (hns : c.ns = namespaceText db coll) (batchSize : Option Nat) {n : Nat}
    (hn : n = max (batchSize.getD e.options.batchSize) 1) :
    e.performGetMore db id coll batchSize
      = (.ok (Reply.cursor (if c.remaining.drop n = [] then 0 else id) c.ns "nextBatch"
          (c.remaining.take n)),
        { e with
          cursors := others ++ Cursor.entry id ⟨c.ns, c.remaining.drop n, e.now⟩
          counters := { e.counters with getMores := e.counters.getMores + 1 } }) := by
  have hcounted : ({ e with counters := { e.counters with getMores := e.counters.getMores + 1 } } :
    Engine).cursors = others ++ [(id, c)] := hcursors
  unfold performGetMore
  simp only [cursor?_of_last hcursors hothers, hns, ne_eq, not_true_eq_false, if_false, ← hn,
    List.isEmpty_iff, removeCursor_of_last hcounted hothers, updateCursor_of_last hcounted hothers,
    Cursor.entry]
  split
  · rw [List.append_nil]
  · rfl

end Engine

/-! ## §2 — requests while a result is collected -/

namespace Server

/-- A server while a result is collected on it: the pipeline has been run, `fetches` requests for more
have been answered, and the rest of the result is the last entry of the table. No binding is held between
the requests. -/
def collecting (s : Server) (ns : String) (next : CursorId) (fetches : Nat) (kept : List Document) :
    Server where
  engine := { s.engine with
    connections := []
    cursors := s.engine.cursors ++ Cursor.entry s.engine.nextCursor ⟨ns, kept, s.engine.now⟩
    nextCursor := next
    nextConnection := s.engine.nextConnection + (1 + fetches)
    totalConnections := s.engine.totalConnections + (1 + fetches)
    counters := { s.engine.counters with
      queries := s.engine.counters.queries + 1
      getMores := s.engine.counters.getMores + fetches
      commands := s.engine.counters.commands + (1 + fetches) } }
  bindings := { s.bindings with
    acquired := s.bindings.acquired + (1 + fetches)
    released := s.bindings.released + (1 + fetches) }

/-- A server that is open, with nobody at work on it and an id left for one more cursor. -/
structure Ready (s : Server) : Prop where
  accounts : s.Accounts []
  running : s.isClosed = false
  sound : s.engine.Sound
  ids : s.engine.nextCursor < 2 ^ 63

variable {s : Server} (ns : Namespace) (next : CursorId) (fetches : Nat) {kept : List Document}

theorem Accounts.collecting (h : s.Accounts []) (kept : List Document) :
    (s.collecting ns.text next fetches kept).Accounts [] := by
  have hfailures := h.failures
  have hbalance := h.balance
  refine ⟨Nat.le_add_right_of_le hfailures, ?_, ?_, List.nodup_nil, nofun⟩
  · show s.bindings.acquired + (1 + fetches) = s.bindings.released + (1 + fetches) + _
    omega
  · show [] = if s.engine.closed then [] else []
    rw [ite_self]

theorem Ready.others (h : s.Ready) : ∀ other ∈ s.engine.cursors, other.1 ≠ s.engine.nextCursor :=
  fun other hother => Int.ne_of_lt (h.sound.given other hother).2

theorem cursors_collecting (hkept : kept ≠ []) :
    (s.collecting ns.text next fetches kept).engine.cursors
      = s.engine.cursors ++ [(s.engine.nextCursor, ⟨ns.text, kept, s.engine.now⟩)] :=
  congrArg (s.engine.cursors ++ ·) (if_neg hkept)

/-- **The first batch** of a result, and the server that keeps the rest of it. -/
theorem Ready.read_aggregate (h : s.Ready) {pipeline : List Document} {p : Pipeline}
    (hp : Pipeline.ofStages (pipeline.map Document.toValue) = .ok p) (batchSize : Option Nat)
    {results : List Document} (hresults : results
      = p.run (s.engine.store.scan ns.database.text ns.collection))
    {n : Nat} (hn : n = batchSize.getD s.engine.options.batchSize) :
    s.read (.aggregate ns pipeline batchSize)
      = (.ok ⟨if results.drop n = [] then 0 else s.engine.nextCursor, results.take n⟩,
        s.collecting ns.text (s.engine.nextCursor + if results.drop n = [] then 0 else 1) 0
          (results.drop n)) := by
  have hperform := s.serving.performAggregate_eq ns.database.text ns.collection p batchSize
    hresults hn
  have hid : (if results.drop n = [] then 0 else s.engine.nextCursor) < 2 ^ 63 := by
    split
    · decide
    · exact h.ids
  have hread : (Pipeline.ofStages (pipeline.map Document.toValue)).map
      (Command.aggregate ns.collection · batchSize) = .ok (.aggregate ns.collection p batchSize) := by
    rw [hp]
    rfl
  have hsend := send_of_performed h.accounts h.running
    (r := (ReadRequest.aggregate ns pipeline batchSize).request) rfl
    ((Command.ofDocument_aggregateCommand ns pipeline batchSize).trans hread) hperform
  refine hsend.trans (Prod.ext ?_ rfl)
  exact (Reply.batch_cursor (by decide) (by decide) _ _ _).trans (if_pos hid)

/-- **A later batch**: at least one document more. -/
theorem Ready.read_getMore (h : s.Ready) (hkept : kept ≠ []) (batchSize : Option Nat) :
    let n := max (batchSize.getD s.engine.options.batchSize) 1
    (s.collecting ns.text next fetches kept).read (.getMore ns s.engine.nextCursor batchSize)
      = (.ok ⟨if kept.drop n = [] then 0 else s.engine.nextCursor, kept.take n⟩,
        s.collecting ns.text next (fetches + 1) (kept.drop n)) := by
  intro n
  have hcursors : (s.collecting ns.text next fetches kept).serving.cursors = _ :=
    cursors_collecting ns next fetches hkept
  have hperform := Engine.performGetMore_of_last hcursors h.others
    (rfl : ns.text = namespaceText ns.database.text ns.collection) batchSize (n := n) rfl
  have hid : (if kept.drop n = [] then 0 else s.engine.nextCursor) < 2 ^ 63 := by
    split
    · decide
    · exact h.ids
  have hsend := send_of_performed (h.accounts.collecting ns next fetches kept) h.running
    (r := (ReadRequest.getMore ns s.engine.nextCursor batchSize).request) rfl
    (Command.ofDocument_getMoreCommand ns h.ids batchSize) hperform
  refine hsend.trans (Prod.ext ?_ rfl)
  exact (Reply.batch_cursor (by decide) (by decide) _ _ _).trans (if_pos hid)

end Server

/-! ## §3 — taking what was fetched -/

theorem Decoder.decodeAll_document (documents : List Document) :
    Decoder.document.decodeAll documents = .ok documents := by
  induction documents with
  | nil => rfl
  | cons document documents ih =>
    have hfirst : Decoder.document.decode document = .ok document := rfl
    unfold decodeAll
    rw [hfirst, ih]
    rfl

namespace ItemStream

variable {σ ω α : Type} [BatchSource σ ω α] {source : σ} {w : ω}

/-- A batch that is held settles what comes next. -/
theorem settle_ofBatch {batch : List α} (hsome : batch ≠ []) :
    (⟨source, .ofBatch batch⟩ : ItemStream σ α).settle w = (⟨source, .ofBatch batch⟩, w) := by
  obtain ⟨first, rest, rfl⟩ := List.exists_cons_of_ne_nil hsome
  rfl

/-- A search ends at the first batch that has items. -/
theorem fetch_of_batch {batch : List α} {source' : σ} {w' : ω}
    (hnext : BatchSource.hasNext source = true)
    (hbatch : BatchSource.nextBatch source w = (.ok batch, source', w')) (hsome : batch ≠ [])
    (fuel : Nat) : fetch (fuel + 1) source w = (⟨source', .ofBatch batch⟩, w') := by
  obtain ⟨first, rest, rfl⟩ := List.exists_cons_of_ne_nil hsome
  unfold fetch
  rw [if_pos hnext, hbatch]
  rfl

/-- What is taken of a stream depends on what comes next. -/
theorem takeAll_of_settle {s s' : ItemStream σ α} {w' : ω} (h : s.settle w = s'.settle w') {fuel : Nat}
    (hfuel : 0 < fuel) : takeAll fuel s w = takeAll fuel s' w' := by
  obtain ⟨fuel, rfl⟩ : ∃ m, fuel = m + 1 := ⟨fuel - 1, by omega⟩
  unfold takeAll tryNext
  rw [h]

/-- The items that are held are taken first. Induction on them. -/
theorem takeAll_of_items {fuel : Nat} {more : List α} {rest : ItemStream σ α × ω}
    (h : takeAll fuel ⟨source, .unknown⟩ w = (.ok more, rest)) (batch : List α) :
    takeAll (batch.length + fuel) ⟨source, .ofBatch batch⟩ w = (.ok (batch ++ more), rest) := by
  induction batch with
  | nil =>
    rw [List.length_nil, Nat.zero_add]
    exact h
  | cons first batch ih =>
    have htry : (⟨source, .ofBatch (first :: batch)⟩ : ItemStream σ α).tryNext w
        = (.ok (some first), ⟨source, .ofBatch batch⟩, w) := rfl
    rw [List.length_cons, Nat.add_right_comm]
    unfold takeAll
    rw [htry]
    simp only [ih]
    rfl

end ItemStream

namespace ResultStream

open ItemStream (fetch takeAll)

variable {s : Server} (ns : Namespace) (next : CursorId) {kept : List Document}

/-- The cursor of a client behind the first batch, while the server keeps these documents. -/
def cursorOf (s : Server) (ns : Namespace) (batchSize : Option Nat) (kept : List Document) :
    ResultCursor Document :=
  ⟨ns, .document, none, if kept = [] then 0 else s.engine.nextCursor, batchSize⟩

/-- **One search** behind the first batch takes one fetch, or none at the end. -/
theorem fetch_of_collecting (h : s.Ready) (batchSize : Option Nat) (kept : List Document)
    (fetches fuel : Nat) :
    let n := max (batchSize.getD s.engine.options.batchSize) 1
    fetch (fuel + 1) (cursorOf s ns batchSize kept) (s.collecting ns.text next fetches kept)
      = if kept = [] then (⟨cursorOf s ns batchSize [], .ended⟩, s.collecting ns.text next fetches [])
        else (⟨cursorOf s ns batchSize (kept.drop n), .ofBatch (kept.take n)⟩,
          s.collecting ns.text next (fetches + 1) (kept.drop n)) := by
  intro n
  split
  · next hnone =>
    rw [hnone]
    rfl
  · next hkept =>
    have hid : s.engine.nextCursor ≠ 0 := Int.ne_of_gt h.sound.next
    have hread := h.read_getMore ns next fetches hkept batchSize
    have hbatch : BatchSource.nextBatch (cursorOf s ns batchSize kept)
        (s.collecting ns.text next fetches kept) = (.ok (kept.take n),
          cursorOf s ns batchSize (kept.drop n),
          s.collecting ns.text next (fetches + 1) (kept.drop n)) := by
      show ResultCursor.nextBatch _ _ = _
      unfold ResultCursor.nextBatch cursorOf
      simp only [if_neg hkept, if_neg hid, hread, Decoder.decodeAll_document]
      rfl
    have hnext : BatchSource.hasNext (cursorOf s ns batchSize kept) = true := by
      show ResultCursor.hasNext _ = true
      unfold ResultCursor.hasNext cursorOf
      simp [if_neg hkept, hid]
    -- as something is kept, the batch is not empty
    have hsome : kept.take n ≠ [] := fun hnone =>
      (List.take_eq_nil_iff.mp hnone).elim (Nat.ne_of_gt (Nat.le_max_right _ 1)) hkept
    exact ItemStream.fetch_of_batch hnext hbatch hsome fuel

/-- Fetches of `n` documents each: the first one leaves what the others fetch. -/
theorem ceilDiv_length {n : Nat} (hn : 0 < n) (hkept : kept ≠ []) :
    kept.length ⌈/⌉ n = 1 + (kept.drop n).length ⌈/⌉ n := by
  have hlength := List.length_pos_iff.mpr hkept
  have hfirst : (kept.length + n - 1) / n = 1 + (kept.length - 1) / n := by
    rw [show kept.length + n - 1 = kept.length - 1 + n by omega, Nat.add_div_right _ hn, Nat.add_comm]
  rw [List.length_drop, Nat.ceilDiv_eq_add_pred_div, Nat.ceilDiv_eq_add_pred_div, hfirst]
  rcases Nat.le_total n kept.length with hle | hle
  · rw [Nat.sub_add_cancel hle]
  · -- the first fetch takes everything
    rw [Nat.sub_eq_zero_of_le hle, Nat.div_eq_of_lt (by omega), Nat.div_eq_of_lt (by omega)]

/-- **Everything that is kept is fetched**, in as many fetches as it takes. Induction on the fuel, of
which every batch spends as much as it has documents. -/
theorem takeAll_of_collecting (h : s.Ready) (batchSize : Option Nat) (fetches : Nat) {fuel : Nat}
    (hfuel : kept.length < fuel) :
    takeAll fuel ⟨cursorOf s ns batchSize kept, .unknown⟩ (s.collecting ns.text next fetches kept)
      = (.ok kept, ⟨cursorOf s ns batchSize [], .ended⟩, s.collecting ns.text next
          (fetches + kept.length ⌈/⌉ max (batchSize.getD s.engine.options.batchSize) 1) []) := by
  induction fuel using Nat.strong_induction_on generalizing fetches kept with
  | _ fuel ih =>
    have hn : 0 < max (batchSize.getD s.engine.options.batchSize) 1 := by omega
    have hfetch := fetch_of_collecting ns next h batchSize kept fetches
    generalize max (batchSize.getD s.engine.options.batchSize) 1 = n at hn hfetch ih ⊢
    by_cases hkept : kept = []
    · subst hkept
      obtain ⟨fuel, rfl⟩ : ∃ m, fuel = m + 1 := ⟨fuel - 1, by omega⟩
      rw [List.length_nil, zero_ceilDiv]
      rfl
    · simp only [if_neg hkept] at hfetch
      have hlength := congrArg List.length (List.take_append_drop n kept)
      rw [List.length_append] at hlength
      have hbatch : 0 < (kept.take n).length := by
        have hsome := List.length_pos_iff.mpr hkept
        rw [List.length_take]
        omega
      obtain ⟨left, rfl⟩ : ∃ left, fuel = (kept.take n).length + left :=
        ⟨fuel - (kept.take n).length, by omega⟩
      have hleft : (kept.drop n).length < left := by omega
      have hrest := ih left (by omega) (fetches + 1) hleft
      rw [ceilDiv_length hn hkept, ← Nat.add_assoc]
      have hsettle : (⟨cursorOf s ns batchSize kept, .unknown⟩ : ResultStream Document).settle
          (s.collecting ns.text next fetches kept)
          = (⟨cursorOf s ns batchSize (kept.drop n), .ofBatch (kept.take n)⟩ :
            ResultStream Document).settle (s.collecting ns.text next (fetches + 1) (kept.drop n)) := by
        rw [ItemStream.settle_ofBatch (List.length_pos_iff.mp hbatch)]
        exact hfetch _
      rw [ItemStream.takeAll_of_settle hsettle (by omega), ItemStream.takeAll_of_items hrest,
        List.take_append_drop]

/-- The cursor of a client when it is opened with a first batch. -/
def openedCursor (s : Server) (ns : Namespace) (batchSize : Option Nat) (first kept : List Document) :
    ResultCursor Document :=
  { cursorOf s ns batchSize kept with pending := some first }

theorem documentsLeft_openedCursor (h : s.Ready) (batchSize : Option Nat)
    (first kept : List Document) :
    (openedCursor s ns batchSize first kept).documentsLeft (s.collecting ns.text next 0 kept)
      = first.length + kept.length := by
  unfold ResultCursor.documentsLeft openedCursor cursorOf
  by_cases hkept : kept = []
  · subst hkept
    have hnone : (s.collecting ns.text next 0 []).engine.cursor? 0 = none := by
      show (s.engine.cursors ++ []).lookup 0 = none
      rw [List.append_nil]
      exact h.sound.cursor?_zero
    rw [if_pos rfl]
    simp only [hnone]
    rfl
  · simp only [if_neg hkept, Engine.cursor?_of_last (Server.cursors_collecting ns next 0 hkept) h.others]
    rfl

/-- **The whole of a stream**: the first batch, which is passed over if it is empty, and what is kept
behind it. -/
theorem collect_of_collecting (h : s.Ready) (batchSize : Option Nat) (first kept : List Document) :
    ItemStream.collect ⟨openedCursor s ns batchSize first kept, .unknown⟩
        (s.collecting ns.text next 0 kept)
      = (.ok (first ++ kept), ⟨cursorOf s ns batchSize [], .ended⟩, s.collecting ns.text next
          (kept.length ⌈/⌉ max (batchSize.getD s.engine.options.batchSize) 1) []) := by
  have hrest := takeAll_of_collecting ns next h batchSize 0
    (show kept.length < kept.length + 4 by omega)
  rw [Nat.zero_add] at hrest
  have hfuel : 0 + ((openedCursor s ns batchSize first kept).documentsLeft
      (s.collecting ns.text next 0 kept) + 3) + 1 = first.length + (kept.length + 4) := by
    rw [documentsLeft_openedCursor ns next h]
    omega
  show takeAll (0 + ((openedCursor s ns batchSize first kept).documentsLeft
    (s.collecting ns.text next 0 kept) + 3) + 1) _ _ = _
  rw [hfuel, ← ItemStream.takeAll_of_items hrest first]
  refine ItemStream.takeAll_of_settle ?_ (by omega)
  by_cases hfirst : first = []
  · -- the search goes on with one unit of fuel less
    subst hfirst
    have hfetch := fetch_of_collecting ns next h batchSize kept 0
    exact (hfetch _).trans (hfetch _).symm
  · rw [ItemStream.settle_ofBatch hfirst]
    have hbatch : BatchSource.nextBatch (openedCursor s ns batchSize first kept)
        (s.collecting ns.text next 0 kept)
          = (.ok first, cursorOf s ns batchSize kept, s.collecting ns.text next 0 kept) := by
      show ResultCursor.nextBatch _ _ = _
      unfold ResultCursor.nextBatch openedCursor cursorOf
      simp only [Decoder.decodeAll_document]
    exact ItemStream.fetch_of_batch rfl hbatch hfirst _

end ResultStream

/-! ## §4 — collecting -/

/-- **Opening a stream**: it has the first batch, and the server keeps the others. -/
theorem Aggregation.stream_of_ready {α : Type} {s : Server} (h : s.Ready) (a : Aggregation α)
    {p : Pipeline} (hp : Pipeline.ofStages (a.pipeline.map Document.toValue) = .ok p)
    {results : List Document} (hresults : results
      = p.run (s.engine.store.scan a.collection.ns.database.text a.collection.ns.collection))
    {b : Nat} (hb : b = a.batchSize.getD s.engine.options.batchSize) :
    a.stream s = (.ok ⟨⟨a.collection.ns, a.collection.decoder, some (results.take b),
        if results.drop b = [] then 0 else s.engine.nextCursor, a.batchSize⟩, .unknown⟩,
      s.collecting a.collection.ns.text
        (s.engine.nextCursor + if results.drop b = [] then 0 else 1) 0 (results.drop b)) := by
  have hread := h.read_aggregate a.collection.ns hp a.batchSize hresults hb
  unfold stream ResultCursor.open
  rw [hread]

/-- **Collecting a result**, and the server after it. -/
theorem Aggregation.collect_of_ready {s : Server} (h : s.Ready) {a : Aggregation Document}
    (hdocuments : a.collection.decoder = .document) {p : Pipeline}
    (hp : Pipeline.ofStages (a.pipeline.map Document.toValue) = .ok p) {results : List Document}
    (hresults : results
      = p.run (s.engine.store.scan a.collection.ns.database.text a.collection.ns.collection))
    {b : Nat} (hb : b = a.batchSize.getD s.engine.options.batchSize) :
    a.collect s = (.ok results, s.collecting a.collection.ns.text
      (s.engine.nextCursor + if results.drop b = [] then 0 else 1)
      ((results.drop b).length ⌈/⌉ max b 1) []) := by
  have hstream : a.stream s = (.ok ⟨ResultStream.openedCursor s a.collection.ns a.batchSize
      (results.take b) (results.drop b), .unknown⟩,
      s.collecting a.collection.ns.text
        (s.engine.nextCursor + if results.drop b = [] then 0 else 1) 0 (results.drop b)) := by
    rw [stream_of_ready h a hp hresults hb, hdocuments]
    rfl
  have hall := ResultStream.collect_of_collecting a.collection.ns
    (s.engine.nextCursor + if results.drop b = [] then 0 else 1) h a.batchSize (results.take b)
    (results.drop b)
  rw [← hb, List.take_append_drop] at hall
  unfold collect
  rw [hstream]
  simp only [hall]
  rfl

/-- **The batch size never changes what a client sees.** On an open server in use, collect the results
of a pipeline over a collection of documents, with whatever batch size. They are the pipeline's results
over what is stored, in order. If `b` of them may come at once, the others are fetched `b` at a time, but
at least one at a time, and each request has a binding of its own. Afterwards the server is as it was, but
for the account of these requests. Ids of cursors are numbers of 64 bits, and there has to be one left. -/
theorem collect_of_any_batchSize {w : World} (h : w.Reachable) (hopen : w.server.isClosed = false)
    (hids : w.server.engine.nextCursor < 2 ^ 63) {a : Aggregation Document}
    (hdocuments : a.collection.decoder = .document) {p : Pipeline}
    (hp : Pipeline.ofStages (a.pipeline.map Document.toValue) = .ok p) :
    let e := w.server.engine
    let results := p.run (e.store.scan a.collection.ns.database.text a.collection.ns.collection)
    let n := results.length
    let b := a.batchSize.getD e.options.batchSize
    let fetches := (n - min n b) ⌈/⌉ max b 1
    ∃ s, a.collect w.server = (.ok results, s) ∧
      s.engine.counters = { e.counters with
        queries := e.counters.queries + 1
        getMores := e.counters.getMores + fetches
        commands := e.counters.commands + (1 + fetches) } ∧
      s.engine.totalConnections = e.totalConnections + (1 + fetches) ∧
      s.bindings = { w.server.bindings with
        acquired := w.server.bindings.acquired + (1 + fetches)
        released := w.server.bindings.released + (1 + fetches) } ∧
      s.engine.cursors = e.cursors ∧ s.engine.store = e.store ∧ s.isClosed = false := by
  intro e results n b fetches
  have hready : w.server.Ready := ⟨h.server.accounts, hopen, h.apart.sound, hids⟩
  have hlength : (results.drop b).length = n - min n b := by
    rw [List.length_drop]
    omega
  have hcollect := Aggregation.collect_of_ready hready hdocuments hp
    (rfl : results = _) (rfl : b = _)
  rw [hlength] at hcollect
  refine ⟨_, hcollect, rfl, rfl, rfl, ?_, rfl, hopen⟩
  exact List.append_nil _

/-- Five documents in batches of two: two come at once, and the others with two requests for more. -/
theorem collect_of_any_batchSize_of_five :
    let host : Host := { ids := fun _ => "", showTime := fun _ => "" }
    let notes : Namespace := ⟨⟨"db", by decide⟩, "notes", by decide⟩
    let documents : List Document := [1, 2, 3, 4, 5].map fun n => ⟨[("_id", .ofNat n)]⟩
    let insert : World.Call := .write (.insert notes documents (by decide))
    let a : Aggregation Document := ⟨⟨notes, {}, .document⟩, [], some 2⟩
    ∃ s₀ s, Server.start {} host = .ok s₀ ∧
      a.collect (insert.after ⟨s₀, []⟩).server = (.ok documents, s) ∧
      s.engine.counters = ⟨5, 1, 2, 4⟩ ∧ s.bindings = ⟨4, 4, 0⟩ ∧ s.openCursors = 0 := by
  intro host notes documents insert a
  obtain ⟨s₀, hstart⟩ : ∃ s₀, Server.start {} host = .ok s₀ := ⟨_, rfl⟩
  have hreachable : (insert.after ⟨s₀, []⟩).Reachable := (World.Reachable.start hstart).call insert
  obtain rfl := Except.ok.inj hstart
  generalize hw : insert.after _ = w at hreachable
  have hopen : w.server.isClosed = false := by
    rw [← hw]
    decide +kernel
  have hids : w.server.engine.nextCursor = 1 := by
    rw [← hw]
    decide +kernel
  have hscan : w.server.engine.store.scan "db" "notes" = documents := by
    rw [← hw]
    cbv
  have hcounters : w.server.engine.counters = ⟨5, 0, 0, 1⟩ := by
    rw [← hw]
    decide +kernel
  have hbindings : w.server.bindings = ⟨1, 1, 0⟩ := by
    rw [← hw]
    decide +kernel
  have hcursors : w.server.engine.cursors.length = 0 := by
    rw [← hw]
    decide +kernel
  obtain ⟨s, hcollect, hcounted, -, hbound, hkept, -, -⟩ :=
    collect_of_any_batchSize hreachable hopen (hids ▸ by decide) (a := a) rfl (p := []) rfl
  have hresults : Pipeline.run [] (w.server.engine.store.scan a.collection.ns.database.text
      a.collection.ns.collection) = documents := hscan
  have hfetches : (documents.length - min documents.length 2) ⌈/⌉ max 2 1 = 2 :=
    Nat.ceilDiv_eq_add_pred_div 3 2
  rw [hresults] at hcollect hcounted hbound
  rw [show a.batchSize.getD w.server.engine.options.batchSize = 2 from rfl, hfetches]
    at hcounted hbound
  refine ⟨_, s, rfl, hw ▸ hcollect, ?_, ?_, ?_⟩
  · rw [hcounted, hcounters]
  · rw [hbound, hbindings]
  · unfold Server.openCursors
    rw [hkept, hcursors]

end DocStore
