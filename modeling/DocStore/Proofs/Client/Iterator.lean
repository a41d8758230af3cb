import DocStore.Proofs.Client.World
import DocStore.Proofs.Stream.Outcomes

/-!
# DocStore — a stream never ends early

A stream hands out the results of its pipeline in order, and says that there are no more only when
there are no more, or after it has told a failure. Others may drop the collection, kill the cursor,
let it time out or close the server in between; then the next fetch fails, and the failure is told.

* **`ResultCursor.Backs.fetch`** — one search for the next item: it finds the next results, fails, or
  ends because nothing is left.
* **`ResultStream.Stands`** — the invariant of a run: what was told, what the stream holds and what it
  has not fetched yet make up the result, unless a failure is told or about to be.
* **`no_silent_truncation`** — the main statement, for every way in which a stream is pulled between
  any calls of others.
-/

namespace DocStore

/-- Documents that are all read are read one by one. -/
theorem Decoder.map_decode_of_decodeAll {α : Type} {d : Decoder α} {documents : List Document}
    {items : List α} (h : d.decodeAll documents = .ok items) :
    documents.map d.decode = items.map .ok := by
  induction documents generalizing items with
  | nil =>
    obtain rfl := Except.ok.inj h
    rfl
  | cons document documents ih =>
    unfold decodeAll at h
    cases hfirst : d.decode document with
    | error e =>
      rw [hfirst] at h
      cases h
    | ok a =>
      rw [hfirst] at h
      cases hrest : d.decodeAll documents with
      | error e =>
        simp only [hrest] at h
        cases h
      | ok more =>
        simp only [hrest] at h
        obtain rfl : a :: more = items := Except.ok.inj h
        rw [List.map_cons, List.map_cons, hfirst, ih hrest]

namespace ResultCursor

variable {α : Type} {c : ResultCursor α} {id : CursorId} {s s' : Server} {kept : List Document}

/-! ## §1 — a cursor of a client and its cursor on the server -/

/-- The server keeps these documents for a cursor of a client, or has nothing of it any more. If they
are none, the client knows. -/
structure Backs (c : ResultCursor α) (id : CursorId) (s : Server) (kept : List Document) : Prop where
  holds : s.engine.Holds id c.ns.text kept
  exhausted : kept = [] → c.id = 0
  named : kept ≠ [] → c.id = id ∧ id ≠ 0

theorem Backs.spares (h : c.Backs id s kept) (h' : Engine.Spares id s.engine s'.engine) :
    c.Backs id s' kept :=
  ⟨h.holds.spares h', h.exhausted, h.named⟩

/-- The id of a cursor of a client was given out, or is `0`. -/
theorem Backs.given (h : c.Backs id s kept) : c.id < s.engine.nextCursor := by
  by_cases hkept : kept = []
  · rw [h.exhausted hkept]
    exact h.holds.sound.next
  · rw [(h.named hkept).1]
    exact h.holds.given

/-- **One fetch** fails, or hands out the next documents, of which the server hands out at least
one. -/
theorem Backs.nextBatch (h : c.Backs id s kept) (hnext : c.hasNext = true) :
    (∃ e, (c.nextBatch s).1 = .error e) ∨
      ∃ documents kept', (c.nextBatch s).1 = c.decoder.decodeAll documents ∧
        c.pending.getD [] ++ kept = documents ++ kept' ∧
        (c.pending = none → documents ≠ []) ∧
        (c.nextBatch s).2.1.pending = none ∧ (c.nextBatch s).2.1.decoder = c.decoder ∧
        (c.nextBatch s).2.1.Backs id (c.nextBatch s).2.2 kept' := by
  unfold ResultCursor.nextBatch
  cases hpending : c.pending with
  | some documents =>
    exact Or.inr ⟨documents, kept, rfl, rfl, (fun hnone => by cases hnone), rfl, rfl, h.holds,
      h.exhausted, h.named⟩
  | none =>
    have hid : c.id ≠ 0 := by
      unfold hasNext at hnext
      rw [hpending] at hnext
      simpa using hnext
    -- the server keeps something, so the cursor is named
    have hkept : kept ≠ [] := fun hnone => hid (h.exhausted hnone)
    obtain ⟨hsame, hzero⟩ := h.named hkept
    simp only [if_neg hid]
    rcases hread : s.read (.getMore c.ns c.id c.batchSize) with ⟨answer, s'⟩
    cases answer with
    | error e => exact Or.inl ⟨e, rfl⟩
    | ok batch =>
      rw [hsame] at hread
      have hok : (s.read (.getMore c.ns id c.batchSize)).1 = .ok batch := by rw [hread]
      obtain ⟨n, hn, -, hbatch, hholds⟩ := Server.read_getMore_eq_ok h.holds hok
      rw [hread] at hholds
      rw [hbatch]
      refine Or.inr ⟨kept.take n, kept.drop n, rfl, (List.take_append_drop n kept).symm, ?_, rfl,
        rfl, hholds, fun hnone => if_pos hnone, fun hsome => ⟨if_neg hsome, hzero⟩⟩
      intro _ hnone
      rcases List.take_eq_nil_iff.mp hnone with hn0 | hkept0
      · omega
      · exact hkept hkept0

/-- **A search for the next item** fails, ends because nothing is left, or finds the next results. It
takes at most two fetches: a first batch may be empty, a later one never is. Induction on the fuel. -/
theorem Backs.fetch (h : c.Backs id s kept) {fuel : Nat} (hfuel : c.pending.toList.length < fuel) :
    (∃ e, (ItemStream.fetch fuel c s).1.held = .failed e) ∨
      ((ItemStream.fetch fuel c s).1.held = .ended ∧ c.pending.getD [] ++ kept = []) ∨
      ∃ first more kept', (ItemStream.fetch fuel c s).1.held = .items first more ∧
        (ItemStream.fetch fuel c s).1.source.pending = none ∧
        (ItemStream.fetch fuel c s).1.source.decoder = c.decoder ∧
        (ItemStream.fetch fuel c s).1.source.Backs id (ItemStream.fetch fuel c s).2 kept' ∧
        (c.pending.getD [] ++ kept).map c.decoder.decode
          = (first :: more).map .ok ++ kept'.map c.decoder.decode := by
  induction fuel generalizing c s kept with
  | zero => omega
  | succ fuel ih =>
    unfold ItemStream.fetch
    by_cases hnext : c.hasNext = true
    · rw [if_pos (show BatchSource.hasNext c = true from hnext)]
      have hbatch := h.nextBatch hnext
      rcases hrun : BatchSource.nextBatch c s with ⟨answer, c', s'⟩
      rw [show c.nextBatch s = (answer, c', s') from hrun] at hbatch
      rcases hbatch with ⟨e, rfl⟩ | ⟨documents, kept', rfl, hsplit, hsome, hpending, hdecoder, hbacks⟩
      · exact Or.inl ⟨e, rfl⟩
      · simp only at hpending hdecoder hbacks
        rcases hread : c.decoder.decodeAll documents with e | (_ | ⟨first, more⟩)
        · exact Or.inl ⟨e, rfl⟩
        · have hempty : documents = [] := by
            simpa using Decoder.map_decode_of_decodeAll hread
          -- only a first batch is empty, and that one is now taken
          have hfirst : c.pending ≠ none := fun hnone => hsome hnone hempty
          have hfuel' : c'.pending.toList.length < fuel := by
            rw [hpending]
            cases hp : c.pending with
            | none => exact absurd hp hfirst
            | some p =>
              rw [hp] at hfuel
              simp at hfuel ⊢
              omega
          have hrest := ih hbacks hfuel'
          rw [hpending, hdecoder] at hrest
          rw [hsplit, hempty]
          exact hrest
        · refine Or.inr (Or.inr ⟨first, more, kept', rfl, hpending, hdecoder, hbacks, ?_⟩)
          rw [hsplit, List.map_append, Decoder.map_decode_of_decodeAll hread]
    · have hnone : c.pending = none ∧ c.id = 0 := by
        unfold hasNext at hnext
        simpa using hnext
      have hkept : kept = [] :=
        Decidable.byContradiction fun hsome => (h.named hsome).2 ((h.named hsome).1 ▸ hnone.2)
      rw [if_neg (show ¬ BatchSource.hasNext c = true from hnext), hnone.1, hkept]
      exact Or.inr (Or.inl ⟨rfl, rfl⟩)

end ResultCursor

/-! ## §2 — pulling a stream -/

/-- What a stream tells whoever pulls it. -/
inductive Told (α : Type) where
  | item (a : α)
  | failure (e : ClientError)
  | ended
deriving DecidableEq

def Told.item? {α : Type} : Told α → Option α
  | item a => some a
  | _ => none

namespace ResultStream

variable {α : Type}

/-- Pull a stream. Only `hasNext` may tell nothing, and if it is false, it tells the end. -/
def pull : Pull → ResultStream α → Server → Option (Told α) × ResultStream α × Server
  | .hasNext, r, s =>
    match r.hasNext s with
    | (true, rest) => (none, rest)
    | (false, rest) => (some .ended, rest)
  | .tryNext, r, s =>
    match r.tryNext s with
    | (.ok (some a), rest) => (some (.item a), rest)
    | (.ok none, rest) => (some .ended, rest)
    | (.error e, rest) => (some (.failure e), rest)
  | .nextItem, r, s =>
    match r.nextItem s with
    | (.ok a, rest) => (some (.item a), rest)
    | (.error e, rest) => (some (.failure e), rest)
  | .next, r, s =>
    match r.next? s with
    | (some (.ok a), rest) => (some (.item a), rest)
    | (some (.error e), rest) => (some (.failure e), rest)
    | (none, rest) => (some .ended, rest)

/-- A stream among the calls of others: it is pulled, or someone else does something. -/
inductive Step : Type 1 where
  | pull (p : Pull)
  | call (c : World.Call)

/-- A run of steps, with what the stream tells. -/
def follow : ResultStream α × World → List Step → List (Told α) × ResultStream α × World
  | (r, w), [] => ([], r, w)
  | (r, w), .pull p :: steps =>
    let (told, r, s) := pull p r w.server
    let (more, last) := follow (r, ⟨s, w.streams⟩) steps
    (told.toList ++ more, last)
  | (r, w), .call c :: steps => follow (r, c.after w) steps

/-- Nobody sends a `getMore` of his own that names the id of a cursor. -/
def Avoids (id : CursorId) : ResultStream α × World → List Step → Prop
  | _, [] => True
  | (r, w), .pull p :: steps =>
    Avoids id ((pull p r w.server).2.1, ⟨(pull p r w.server).2.2, w.streams⟩) steps
  | (r, w), .call c :: steps => c.Avoids id w ∧ Avoids id (r, c.after w) steps

/-! ### The invariant of a run -/

/-- The items among what was told, as results. -/
def items (told : List (Told α)) : List (Except ClientError α) := (told.filterMap Told.item?).map .ok

@[simp] theorem items_append (told told' : List (Told α)) :
    items (told ++ told') = items told ++ items told' := by
  simp [items]

/-- The end is told only when all results were told as items, or after a failure. -/
def Honest (results : List (Except ClientError α)) (told : List (Told α)) : Prop :=
  ∀ before after, told = before ++ .ended :: after → (∀ e, .failure e ∉ before) →
    items before = results

/-- The items that a stream holds, as results. -/
def heldItems : Held α → List (Except ClientError α)
  | .items first more => .ok first :: more.map .ok
  | _ => []

/-- What a stream holds and has not fetched yet is what it has not told yet. -/
def Goes (results : List (Except ClientError α)) (id : CursorId) (told : List (Told α))
    (r : ResultStream α) (w : World) : Prop :=
  ∃ kept, r.source.Backs id w.server kept ∧ w.Apart id ∧
    results = items told ++ heldItems r.held ++
      (r.source.pending.getD [] ++ kept).map r.source.decoder.decode

/-- How a stream stands that has told something of its results: it goes on, or a failure is about to
be told, or it is over, and then it has told a failure or everything. -/
structure Stands (results : List (Except ClientError α)) (id : CursorId) (told : List (Told α))
    (r : ResultStream α) (w : World) : Prop where
  first : items told <+: results
  honest : Honest results told
  goes : r.held = .unknown ∨ (∃ a more, r.held = .items a more) → Goes results id told r w
  finished : r.held = .ended → (∃ e, .failure e ∈ told) ∨ items told = results

variable {results : List (Except ClientError α)} {id : CursorId} {told : List (Told α)}
  {r : ResultStream α} {w : World}

/-- Telling the end is honest when everything was told, and telling anything else always is. -/
theorem Honest.concat (h : Honest results told) {t : Told α}
    (ht : t = .ended → (∀ e, .failure e ∉ told) → items told = results) :
    Honest results (told ++ [t]) := by
  intro before after hsplit hfailures
  -- the end in question is the one told last, or an earlier one
  rcases List.eq_nil_or_concat after with rfl | ⟨after', last, rfl⟩
  · obtain ⟨rfl, hlast⟩ := List.append_inj' hsplit rfl
    exact ht (List.cons.inj hlast).1 hfailures
  · have hsplit' : told ++ [t] = (before ++ .ended :: after') ++ [last] := by
      rw [hsplit, List.append_assoc, List.cons_append, List.concat_eq_append]
    exact h before after' (List.append_inj' hsplit' rfl).1 hfailures

theorem items_concat {t : Told α} (ht : ∀ a, t ≠ .item a) : items (told ++ [t]) = items told := by
  rw [items_append]
  cases t with
  | item a => exact absurd rfl (ht a)
  | failure e => exact List.append_nil _
  | ended => exact List.append_nil _

@[simp] theorem heldItems_ofBatch (batch : List α) : heldItems (.ofBatch batch) = batch.map .ok := by
  cases batch <;> rfl

/-- **Finding out what comes next** keeps the account, and then it is known. -/
theorem Stands.settle (h : Stands results id told r w) :
    Stands results id told (r.settle w.server).1 ⟨(r.settle w.server).2, w.streams⟩ ∧
      (r.settle w.server).1.held ≠ .unknown := by
  unfold ItemStream.settle
  cases hheld : r.held with
  | items a more => exact ⟨h, by simp [hheld]⟩
  | failed e => exact ⟨h, by simp [hheld]⟩
  | ended => exact ⟨h, by simp [hheld]⟩
  | unknown =>
    obtain ⟨kept, hbacks, hapart, hresults⟩ := h.goes (Or.inl hheld)
    rw [hheld, show heldItems (.unknown : Held α) = [] from rfl, List.append_nil] at hresults
    have hfuel : r.source.pending.toList.length < BatchSource.bound r.source w.server := by
      show r.source.pending.toList.length < r.source.documentsLeft w.server + 3
      cases r.source.pending <;> simp
    -- fetching is also work with a cursor like any other, so the streams of others stay apart
    have hroams : r.source.Apart 0 w.server := ⟨hapart.sound, hbacks.given, fun _ => rfl⟩
    have hmoves := (hroams.fetch (BatchSource.bound r.source w.server)).spares
    have hworld := hapart.of_le hmoves.sound hmoves.next
    simp only
    rcases hbacks.fetch hfuel with
      ⟨e, hfailed⟩ | ⟨hended, hnone⟩ | ⟨a, more, kept', hitems, hpending, hdecoder, hbacks', hsplit⟩
    · refine ⟨⟨h.first, h.honest, ?_, ?_⟩, by simp [hfailed]⟩
      · simp [hfailed]
      · simp [hfailed]
    · refine ⟨⟨h.first, h.honest, ?_, fun _ => Or.inr ?_⟩, by simp [hended]⟩
      · simp [hended]
      · rw [hresults, hnone, List.map_nil, List.append_nil]
    · refine ⟨⟨h.first, h.honest, fun _ => ⟨kept', hbacks', hworld, ?_⟩, ?_⟩, by simp [hitems]⟩
      · rw [hresults, hsplit, hitems, hpending, hdecoder]
        simp [heldItems]
      · simp [hitems]

/-- **At the end** anything but an item may be told, the end again and again. -/
theorem Stands.tell_end (h : Stands results id told r w) (hended : r.held = .ended) {t : Told α}
    (ht : ∀ a, t ≠ .item a) : Stands results id (told ++ [t]) r w := by
  have hfinished := h.finished hended
  refine ⟨?_, h.honest.concat fun _ hnone => ?_, ?_, fun _ => ?_⟩
  · rw [items_concat ht]
    exact h.first
  · rcases hfinished with ⟨e, he⟩ | hall
    · exact absurd he (hnone e)
    · exact hall
  · simp [hended]
  · rw [items_concat ht]
    exact hfinished.imp (fun ⟨e, he⟩ => ⟨e, List.mem_append_left _ he⟩) (fun hall => hall)

/-- **One more is told**: the next item, a failure, or the end. At the end anything but an item may be
told in its place. -/
theorem Stands.tryNext (h : Stands results id told r w) :
    (∃ a, (r.tryNext w.server).1 = .ok (some a) ∧
      Stands results id (told ++ [.item a]) (r.tryNext w.server).2.1
        ⟨(r.tryNext w.server).2.2, w.streams⟩) ∨
    (∃ e, (r.tryNext w.server).1 = .error e ∧
      Stands results id (told ++ [.failure e]) (r.tryNext w.server).2.1
        ⟨(r.tryNext w.server).2.2, w.streams⟩) ∨
    ((r.tryNext w.server).1 = .ok none ∧ ∀ t, (∀ a, t ≠ .item a) →
      Stands results id (told ++ [t]) (r.tryNext w.server).2.1
        ⟨(r.tryNext w.server).2.2, w.streams⟩) := by
  have hsettle := h.settle
  unfold ItemStream.tryNext
  rcases hrun : r.settle w.server with ⟨⟨source, held⟩, s⟩
  rw [hrun] at hsettle
  obtain ⟨hstands, hknown⟩ := hsettle
  cases held with
  | unknown => exact absurd rfl hknown
  | items a more =>
    obtain ⟨kept, hbacks, hapart, hresults⟩ := hstands.goes (Or.inr ⟨a, more, rfl⟩)
    have hsplit : results = items (told ++ [.item a]) ++ more.map .ok ++
        (source.pending.getD [] ++ kept).map source.decoder.decode := by
      rw [hresults, items_append]
      simp [heldItems, items, Told.item?]
    -- the item that is told moves from what is held to what was told
    refine Or.inl ⟨a, rfl, ⟨?_, hstands.honest.concat (fun ht => by cases ht), fun _ => ?_, ?_⟩⟩
    · rw [hsplit, List.append_assoc]
      exact List.prefix_append _ _
    · exact ⟨kept, hbacks, hapart, by rw [heldItems_ofBatch]; exact hsplit⟩
    · intro hended
      cases more <;> cases hended
  | failed e =>
    refine Or.inr (Or.inl ⟨e, rfl, ⟨?_, hstands.honest.concat (fun ht => by cases ht), ?_, ?_⟩⟩)
    · rw [items_concat (by simp)]
      exact hstands.first
    · simp
    · exact fun _ => Or.inl ⟨e, by simp⟩
  | ended => exact Or.inr (Or.inr ⟨rfl, fun t ht => hstands.tell_end rfl ht⟩)

/-- **However a stream is pulled**, the account is kept. -/
theorem Stands.pull (h : Stands results id told r w) (p : Pull) :
    Stands results id (told ++ (pull p r w.server).1.toList) (pull p r w.server).2.1
      ⟨(pull p r w.server).2.2, w.streams⟩ := by
  cases p with
  | hasNext =>
    obtain ⟨hstands, hknown⟩ := h.settle
    simp only [ResultStream.pull, ItemStream.hasNext]
    rcases hrun : r.settle w.server with ⟨⟨source, held⟩, s⟩
    rw [hrun] at hstands hknown
    cases held with
    | unknown => exact absurd rfl hknown
    | items a more => simpa using hstands
    | failed e => simpa using hstands
    | ended => exact hstands.tell_end rfl (by simp)
  | tryNext =>
    have htry := h.tryNext
    simp only [ResultStream.pull]
    rcases hrun : r.tryNext w.server with ⟨answer, r', s'⟩
    rw [hrun] at htry
    rcases htry with ⟨a, rfl, hnext⟩ | ⟨e, rfl, hnext⟩ | ⟨rfl, hnext⟩
    · exact hnext
    · exact hnext
    · exact hnext .ended (by simp)
  | nextItem =>
    have htry := h.tryNext
    simp only [ResultStream.pull, ItemStream.nextItem]
    rcases hrun : r.tryNext w.server with ⟨answer, r', s'⟩
    rw [hrun] at htry
    rcases htry with ⟨a, rfl, hnext⟩ | ⟨e, rfl, hnext⟩ | ⟨rfl, hnext⟩
    · exact hnext
    · exact hnext
    · exact hnext (.failure .cursorExhausted) (by simp)
  | next =>
    have htry := h.tryNext
    simp only [ResultStream.pull, ItemStream.next?]
    rcases hrun : r.tryNext w.server with ⟨answer, r', s'⟩
    rw [hrun] at htry
    rcases htry with ⟨a, rfl, hnext⟩ | ⟨e, rfl, hnext⟩ | ⟨rfl, hnext⟩
    · exact hnext
    · exact hnext
    · exact hnext .ended (by simp)

/-- **A call of others** keeps the account, if it sends no `getMore` for the cursor. -/
theorem Stands.call (h : Stands results id told r w) {c : World.Call} (hc : c.Avoids id w) :
    Stands results id told r (c.after w) := by
  refine ⟨h.first, h.honest, fun hmore => ?_, h.finished⟩
  obtain ⟨kept, hbacks, hapart, hresults⟩ := h.goes hmore
  obtain ⟨hspares, hapart'⟩ := hapart.call hc
  exact ⟨kept, hbacks.spares hspares, hapart', hresults⟩

/-- **A run keeps the account**, if nobody else fetches from the cursor. Induction over the steps. -/
theorem Stands.follow (h : Stands results id told r w) (steps : List Step)
    (havoids : Avoids id (r, w) steps) :
    Stands results id (told ++ (follow (r, w) steps).1) (follow (r, w) steps).2.1
      (follow (r, w) steps).2.2 := by
  induction steps generalizing told r w with
  | nil =>
    rw [show (ResultStream.follow (r, w) []).1 = [] from rfl, List.append_nil]
    exact h
  | cons step steps ih =>
    cases step with
    | pull p =>
      have hrest := ih (h.pull p) havoids
      rw [List.append_assoc] at hrest
      exact hrest
    | call c => exact ih (h.call havoids.1) havoids.2

end ResultStream

/-! ## §3 — from the opening on -/

/-- **A new stream** has told nothing yet of the results of its pipeline over what is stored. -/
theorem Aggregation.stands_of_stream {α : Type} {a : Aggregation α} {w : World} (h : w.Apart 0)
    {r : ResultStream α} (hr : (a.stream w.server).1 = .ok r) :
    ∃ p, Pipeline.ofStages (a.pipeline.map Document.toValue) = .ok p ∧
      ResultStream.Stands
        ((p.run (w.server.engine.store.scan a.collection.ns.database.text
          a.collection.ns.collection)).map a.collection.decoder.decode)
        r.source.id [] r ⟨(a.stream w.server).2, w.streams⟩ := by
  have hapart := h.of_stream hr
  obtain ⟨batch, hread, rfl, hlast⟩ := stream_eq_ok hr
  obtain ⟨p, n, hp, hbatch, hholds⟩ := Server.read_aggregate_eq_ok h.sound hread
  rw [← hlast] at hholds
  refine ⟨p, hp, List.nil_prefix, fun before after hsplit => ?_, fun _ => ?_,
    fun hended => by cases hended⟩
  · cases before <;> cases hsplit
  · generalize p.run _ = documents at hbatch hholds ⊢
    refine ⟨documents.drop n, ⟨hholds, fun hnone => ?_, fun hsome => ⟨rfl, ?_⟩⟩, hapart, ?_⟩
    · rw [hbatch]
      exact if_pos hnone
    · rw [hbatch]
      dsimp only
      rw [if_neg hsome]
      exact Int.ne_of_gt h.sound.next
    · rw [hbatch]
      simp [ResultStream.items, ResultStream.heldItems]

/-- **No silent truncation.** Take any stream that is opened on a server in use, and pull it in any
ways, between any calls of others that send no `getMore` of their own for its cursor. The items that
it tells are the first results of its pipeline over what was stored when it was opened, in order. If
it tells the end and has not told a failure before, it has told all of them. -/
theorem no_silent_truncation {α : Type} {w : World} (h : w.Reachable) {a : Aggregation α}
    {r : ResultStream α} {s : Server} (hopen : a.stream w.server = (.ok r, s))
    {steps : List ResultStream.Step}
    (havoids : ResultStream.Avoids r.source.id (r, ⟨s, w.streams⟩) steps) :
    ∃ p, Pipeline.ofStages (a.pipeline.map Document.toValue) = .ok p ∧
      let results := (p.run (w.server.engine.store.scan a.collection.ns.database.text
        a.collection.ns.collection)).map a.collection.decoder.decode
      let told := (ResultStream.follow (r, ⟨s, w.streams⟩) steps).1
      (told.filterMap Told.item?).map .ok <+: results ∧
        ∀ before after, told = before ++ .ended :: after → (∀ e, .failure e ∉ before) →
          (before.filterMap Told.item?).map .ok = results := by
  obtain ⟨p, hp, hstands⟩ := Aggregation.stands_of_stream h.apart
    (show (a.stream w.server).1 = .ok r by rw [hopen])
  rw [hopen] at hstands
  have hlast := hstands.follow steps havoids
  exact ⟨p, hp, hlast.first, hlast.honest⟩

/-- A result of three documents, of which two come with the first batch. Then the collection is
dropped, and that there are more is told as a failure. -/
theorem no_silent_truncation_of_drop :
    let host : Host := { ids := fun _ => "", showTime := fun _ => "" }
    let notes : Namespace := ⟨⟨"db", by decide⟩, "notes", by decide⟩
    let insert : World.Call := .write (.insert notes
      ([1, 2, 3].map fun n => ⟨[("_id", .ofNat n)]⟩) (by decide))
    let a : Aggregation Int := ⟨⟨notes, {}, .field "_id" .int⟩, [], some 2⟩
    let steps : List ResultStream.Step :=
      [.pull .next, .call (.write (.dropCollection notes)), .pull .next, .pull .next, .pull .next]
    ∃ s₀, Server.start {} host = .ok s₀ ∧
      let w := insert.after ⟨s₀, []⟩
      ∃ r s p, a.stream w.server = (.ok r, s) ∧
        ResultStream.Avoids r.source.id (r, ⟨s, w.streams⟩) steps ∧
        (ResultStream.follow (r, ⟨s, w.streams⟩) steps).1
          = [.item 1, .item 2, .failure (.engine (.cursorNotFound 1)), .ended] ∧
        [.ok 1, .ok 2] <+: (Pipeline.run p (w.server.engine.store.scan "db" "notes")).map
          a.collection.decoder.decode := by
  intro host notes insert a steps
  refine ⟨_, rfl, ?_⟩
  intro w
  have hreachable : w.Reachable :=
    (World.Reachable.start (show Server.start {} host = .ok _ from rfl)).call insert
  have hrun : (match a.stream w.server with
      | (.ok r, s) => (ResultStream.follow (r, ⟨s, w.streams⟩) steps).1
      | _ => []) = [.item 1, .item 2, .failure (.engine (.cursorNotFound 1)), .ended] := by
    decide +kernel +zetaReduce
  rcases hopen : a.stream w.server with ⟨answer, s⟩
  rw [hopen] at hrun
  cases answer with
  | error e => cases hrun
  | ok r =>
    have havoids : ResultStream.Avoids r.source.id (r, ⟨s, w.streams⟩) steps := ⟨trivial, trivial⟩
    have hrun : (ResultStream.follow (r, ⟨s, w.streams⟩) steps).1
        = [.item 1, .item 2, .failure (.engine (.cursorNotFound 1)), .ended] := hrun
    obtain ⟨p, -, hfirst, -⟩ := no_silent_truncation hreachable hopen havoids
    rw [hrun] at hfirst
    exact ⟨r, s, p, rfl, havoids, hrun, hfirst⟩

end DocStore
