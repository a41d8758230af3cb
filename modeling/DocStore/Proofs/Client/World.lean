import DocStore.Proofs.Client.Streams

/-!
# DocStore — a server and those who use it

What clients can do, call by call, to a server and to the streams that they hold over it
(`World.Call`). It spares the cursor of an id, whatever it is, unless a `getMore` is sent that names
this id.

* **`World.Apart`** — no stream that is held fetches from the cursor of an id.
* **`World.Apart.call`** — a call that sends no `getMore` for a cursor spares it, and no stream fetches
  from it afterwards. The ids of new streams are new, so this goes for the streams opened later, too.
-/

namespace DocStore

variable {id : CursorId}

/-! ## §1 — opening streams -/

namespace Aggregation

variable {α : Type} {a : Aggregation α} {s : Server}

/-- A stream that is opened holds the first batch of an `aggregate`, and nothing of it is handed out
yet. -/
theorem stream_eq_ok {r : ResultStream α} (h : (a.stream s).1 = .ok r) :
    ∃ batch, (s.read (.aggregate a.collection.ns a.pipeline a.batchSize)).1 = .ok batch ∧
      r = ⟨⟨a.collection.ns, a.collection.decoder, some batch.documents, batch.id, a.batchSize⟩,
        .unknown⟩ ∧
      (a.stream s).2 = (s.read (.aggregate a.collection.ns a.pipeline a.batchSize)).2 := by
  unfold stream ResultCursor.open at h ⊢
  rcases hread : s.read (.aggregate a.collection.ns a.pipeline a.batchSize) with ⟨answer, s'⟩
  rw [hread] at h
  cases answer with
  | error e => cases h
  | ok batch => exact ⟨batch, rfl, (Except.ok.inj h).symm, rfl⟩

theorem spares_stream (h : s.engine.Sound) : Engine.Spares id s.engine (a.stream s).2.engine := by
  have hread : Engine.Spares id s.engine
      (s.read (.aggregate a.collection.ns a.pipeline a.batchSize)).2.engine :=
    Server.spares_read h _ fun hfetch => by cases hfetch
  unfold stream ResultCursor.open
  rcases hrun : s.read (.aggregate a.collection.ns a.pipeline a.batchSize) with ⟨answer, s'⟩
  rw [hrun] at hread
  cases answer <;> exact hread

/-- **A new stream is apart** from every cursor whose id was given out before. -/
theorem apart_of_stream (h : s.engine.Sound) (hid : id < s.engine.nextCursor) {r : ResultStream α}
    (hr : (a.stream s).1 = .ok r) : r.source.Apart id (a.stream s).2 := by
  obtain ⟨batch, hread, rfl, hlast⟩ := stream_eq_ok hr
  obtain ⟨p, n, -, hbatch, hholds⟩ := Server.read_aggregate_eq_ok h hread
  rw [hlast]
  refine ⟨hholds.sound, hholds.given, fun hsame => ?_⟩
  have hsame : batch.id = id := hsame
  rw [hbatch] at hsame
  dsimp only at hsame
  split at hsame
  · exact hsame.symm
  · rw [← hsame] at hid
    exact absurd hid (Int.lt_irrefl _)

/-- Running a pipeline and taking all results spares every cursor given out before. -/
theorem spares_collect (h : s.engine.Sound) (hid : id < s.engine.nextCursor) :
    Engine.Spares id s.engine (a.collect s).2.engine := by
  have hstream : Engine.Spares id s.engine (a.stream s).2.engine := spares_stream h
  unfold collect
  rcases hrun : a.stream s with ⟨answer, s'⟩
  rw [hrun] at hstream
  cases answer with
  | error e => exact hstream
  | ok r =>
    have hapart : r.source.Apart id (a.stream s).2 := apart_of_stream h hid (by rw [hrun])
    rw [hrun] at hapart
    have hall := hstream.trans (ResultStream.leads_collect hapart).spares
    simp only
    rcases hcollect : r.collect s' with ⟨results, r', s''⟩
    rw [hcollect] at hall
    exact hall.trans (ResultStream.spares_discard hall.sound)

end Aggregation

/-! ## §2 — calls -/

/-- A stream that someone holds, over results of any type. -/
structure HeldStream : Type 1 where
  {α : Type}
  stream : ResultStream α

/-- A server, and the streams that are held over it. -/
structure World : Type 1 where
  server : Server
  streams : List HeldStream

namespace World

/-- How a stream is used. -/
inductive Use where
  | hasNext
  | tryNext
  | nextItem
  | next
  | collect
  | discard

def Use.after {α : Type} : Use → ResultStream α → Server → ResultStream α × Server
  | hasNext, r, s => (r.hasNext s).2
  | tryNext, r, s => (r.tryNext s).2
  | nextItem, r, s => (r.nextItem s).2
  | next, r, s => (r.next? s).2
  | collect, r, s => (r.collect s).2
  | discard, r, s => (r, ResultStream.discard r s)

/-- What clients do: open streams and use them, send requests, run operations, and see to the server.
Meanwhile the host goes its own way. -/
inductive Call : Type 1 where
  | iterate {α : Type} (a : Aggregation α)
  | use (i : Nat) (u : Use)
  | collect {α : Type} (a : Aggregation α)
  | insert {α : Type} (c : TypedCollection α) (v : Value)
  | read {α : Type} (r : ReadRequest α)
  | write {α : Type} (r : WriteRequest α)
  | execute {α : Type} (o : Operation α)
  | pump
  | close
  | move (host : Host)

def Call.after : Call → World → World
  | iterate a, w =>
    match a.stream w.server with
    | (.ok r, s) => ⟨s, w.streams ++ [⟨r⟩]⟩
    | (.error _, s) => ⟨s, w.streams⟩
  | use i u, w =>
    match w.streams[i]? with
    | some held => ⟨(u.after held.stream w.server).2,
        w.streams.set i ⟨(u.after held.stream w.server).1⟩⟩
    | none => w
  | collect a, w => ⟨(a.collect w.server).2, w.streams⟩
  | insert c v, w => ⟨(c.insert v w.server).2, w.streams⟩
  | read r, w => ⟨(w.server.read r).2, w.streams⟩
  | write r, w => ⟨(w.server.write r).2, w.streams⟩
  | execute o, w => ⟨(w.server.execute o).2, w.streams⟩
  | pump, w => ⟨w.server.pump.2, w.streams⟩
  | close, w => ⟨w.server.close.2, w.streams⟩
  | move host, w => ⟨w.server.withHost host, w.streams⟩

/-- A call sends no `getMore` of its own that names the id of a cursor. -/
def Call.Avoids (id : CursorId) : Call → World → Prop
  | read r, _ => r.request.command.fetchedId? = some id → id = 0
  | execute o, w => ∀ binding, w.server.acquire.1 = .ok binding →
      o.Avoids id binding w.server.acquire.2
  | _, _ => True

/-- The worlds that calls lead to. -/
inductive Reachable : World → Prop where
  | start {options : Options} {host : Host} {s : Server} (h : Server.start options host = .ok s) :
      Reachable ⟨s, []⟩
  | call {w : World} (h : Reachable w) (c : Call) : Reachable (c.after w)

/-! ## §3 — what calls spare -/

/-- No stream that is held fetches from the cursor of an id that was given out. -/
structure Apart (w : World) (id : CursorId) : Prop where
  sound : w.server.engine.Sound
  given : id < w.server.engine.nextCursor
  streams : ∀ held ∈ w.streams, held.stream.source.Apart id w.server

variable {w : World}

/-- Using a stream spares the cursor it is apart from, and it stays apart. -/
theorem Use.leads {α : Type} {r : ResultStream α} {s : Server} (h : r.source.Apart id s) (u : Use) :
    ResultCursor.Leads id r.source s (u.after r s).1.source (u.after r s).2 := by
  cases u with
  | hasNext => exact ResultStream.leads_hasNext h
  | tryNext => exact ResultStream.leads_tryNext h
  | nextItem => exact ResultStream.leads_nextItem h
  | next => exact ResultStream.leads_next? h
  | collect => exact ResultStream.leads_collect h
  | discard => exact ⟨ResultStream.spares_discard h.sound, Or.inl rfl⟩

/-- Streams stay apart while ids are given out. -/
theorem Apart.of_le (h : w.Apart id) {s : Server} (hsound : s.engine.Sound)
    (hnext : w.server.engine.nextCursor ≤ s.engine.nextCursor) : Apart ⟨s, w.streams⟩ id := by
  refine ⟨hsound, Int.lt_of_lt_of_le h.given hnext, fun held hheld => ?_⟩
  have hapart := h.streams held hheld
  exact ⟨hsound, Int.lt_of_lt_of_le hapart.given hnext, hapart.differs⟩

theorem Apart.of_spares (h : w.Apart id) {s : Server}
    (h' : Engine.Spares id w.server.engine s.engine) : Apart ⟨s, w.streams⟩ id :=
  h.of_le h'.sound h'.next

/-- **The cursor of a new stream** is a new one: no stream that is held fetches from it. -/
theorem Apart.of_stream {α : Type} {a : Aggregation α} (h : w.Apart 0) {r : ResultStream α}
    (hr : (a.stream w.server).1 = .ok r) :
    Apart ⟨(a.stream w.server).2, w.streams⟩ r.source.id := by
  have hmoves : Engine.Spares 0 w.server.engine (a.stream w.server).2.engine :=
    Aggregation.spares_stream h.sound
  obtain ⟨batch, hread, rfl, hlast⟩ := Aggregation.stream_eq_ok hr
  obtain ⟨p, n, -, hbatch, hholds⟩ := Server.read_aggregate_eq_ok h.sound hread
  rw [← hlast] at hholds
  refine ⟨hholds.sound, hholds.given, fun held hheld => ?_⟩
  have hold := h.streams held hheld
  refine ⟨hholds.sound, Int.lt_of_lt_of_le hold.given hmoves.next, fun hsame => ?_⟩
  -- a cursor that is there has the id that came next, which no stream had yet
  have hsame : held.stream.source.id = batch.id := hsame
  rw [hbatch] at hsame ⊢
  dsimp only at hsame ⊢
  split at hsame
  · next hnone => exact if_pos hnone
  · exact absurd (hsame ▸ hold.given) (Int.lt_irrefl _)

/-- **A call that sends no `getMore` for a cursor** spares it, and leaves the streams apart from it. One
case for each kind of call. -/
theorem Apart.call (h : w.Apart id) {c : Call} (hc : c.Avoids id w) :
    Engine.Spares id w.server.engine (c.after w).server.engine ∧ (c.after w).Apart id := by
  have hserver : ∀ s : Server, Engine.Spares id w.server.engine s.engine →
      Engine.Spares id w.server.engine s.engine ∧ Apart ⟨s, w.streams⟩ id :=
    fun s hs => ⟨hs, h.of_spares hs⟩
  cases c with
  | iterate a =>
    have hstream : Engine.Spares id w.server.engine (a.stream w.server).2.engine :=
      Aggregation.spares_stream h.sound
    rcases hrun : a.stream w.server with ⟨answer, s⟩
    rw [hrun] at hstream
    simp only [Call.after, hrun]
    cases answer with
    | error e => exact hserver s hstream
    | ok r =>
      -- the new stream has a new id, the others have theirs still
      have hnew : r.source.Apart id (a.stream w.server).2 :=
        Aggregation.apart_of_stream h.sound h.given (by rw [hrun])
      rw [hrun] at hnew
      obtain ⟨hsound, hgiven, hold⟩ := h.of_spares hstream
      refine ⟨hstream, hsound, hgiven, fun held hheld => ?_⟩
      rcases List.mem_append.mp hheld with hmem | hlast
      · exact hold held hmem
      · rw [List.mem_singleton.mp hlast]
        exact hnew
  | use i u =>
    cases hi : w.streams[i]? with
    | none =>
      simp only [Call.after, hi]
      exact ⟨h.sound.spares_self, h⟩
    | some held =>
      simp only [Call.after, hi]
      have hused := h.streams held (List.mem_of_getElem? hi)
      have hleads := Use.leads hused u
      obtain ⟨hsound, hgiven, hold⟩ := h.of_spares hleads.spares
      refine ⟨hleads.spares, hsound, hgiven, fun other hother => ?_⟩
      rcases List.mem_or_eq_of_mem_set hother with hmem | rfl
      · exact hold other hmem
      · exact hused.of_leads hleads
  | collect a => exact hserver _ (Aggregation.spares_collect h.sound h.given)
  | insert c v => exact hserver _ (c.spares_insert v h.sound)
  | read r => exact hserver _ (Server.spares_read h.sound r hc)
  | write r => exact hserver _ (Server.spares_write h.sound r)
  | execute o =>
    have hacquire : Engine.Spares id w.server.engine w.server.acquire.2.engine :=
      Server.spares_acquire h.sound
    exact hserver _ (Server.spares_withBinding h.sound fun binding hbinding =>
      o.spares_run hacquire.sound (hc binding hbinding))
  | pump => exact hserver _ (Server.spares_pump h.sound)
  | close => exact hserver _ (Server.spares_close h.sound)
  | move host => exact hserver _ (Server.spares_withHost h.sound host)

/-- The id `0` is no cursor's, so every call avoids it. -/
theorem Call.avoids_zero (c : Call) (w : World) : c.Avoids 0 w := by
  cases c with
  | read r => exact fun _ => rfl
  | execute o => exact fun binding _ => o.avoids_zero binding _
  | _ => trivial

/-- In a world that calls lead to, the table of cursors is in order, and every stream that is held has
an id that was given out. -/
theorem Reachable.apart (h : w.Reachable) : w.Apart 0 := by
  induction h with
  | @start options host s h =>
    obtain ⟨e, hstart, rfl⟩ := Server.start_eq_ok h
    have hsound := Engine.sound_of_start hstart
    exact ⟨hsound, hsound.next, by simp⟩
  | call _ c ih => exact (ih.call (c.avoids_zero _)).2

end World

end DocStore
