import DocStore.Proofs.Client.Answers
import DocStore.Proofs.Engine.Snapshot

/-!
# DocStore — client and engine speak the same protocol

The client builds command documents and reads replies, the engine reads command documents and builds
replies. None of the calls of a client ever fails because the two misunderstand each other: the engine
knows the command, its names, its shape and the connection it comes on, and the client finds in the reply
what the engine put there. This is so in every state, whoever else is at work on the server.

* **`ReadRequest.without_result`**, **`WriteRequest.without_result`** — what the engine computes for a
  request fails for what is asked, never for how it is asked.
* **`FacadeCall.without_run`** — the calls, one case for each.
* **`ResultCursor.Fits.nextBatch`** — the step of a stream; a stream goes on by fetching.
* **`Sessions.Reachable.kept`** — the invariant of all that can be done to a server, by induction.
* **`calls_keep_to_the_protocol`** — the main statement.
-/

namespace DocStore

variable {α β : Type} {s : Server} {held : List ConnectionId}

/-! ## §1 — failures of the protocol -/

/-- Whether a fault is about the shape of a command document. The others are about a cursor, or about the
size of what is to be written. -/
def CommandFault.isOfShape : CommandFault → Bool
  | foreignCursor _ _ _ | recordTooLong _ => false
  | _ => true

/-- Whether an error of the engine says that it does not understand a command document, or does not know
the connection. -/
def EngineError.isOfProtocol : EngineError → Bool
  | unknownConnection _ | commandNotFound _ | invalidNamespace _ => true
  | badValue fault => fault.isOfShape
  | _ => false

/-- Whether an error says that engine and client do not understand each other. -/
def ClientError.isOfProtocol : ClientError → Bool
  | unexpectedReply _ _ => true
  | engine e => e.isOfProtocol
  | _ => false

theorem OfTask.without {x : Except EngineError α} (h : OfTask x) :
    Without EngineError.isOfProtocol x := by
  refine h.mono fun err herr => ?_
  cases err with
  | badValue fault => cases fault <;> first | rfl | cases herr
  | _ => first | rfl | cases herr

theorem Without.client {x : Except EngineError α} (h : Without EngineError.isOfProtocol x) :
    Without ClientError.isOfProtocol (x.mapError .engine) := by
  cases x with
  | error err => exact .error (h err rfl)
  | ok a => exact .ok a

/-! ## §2 — requests -/

/-- **A request that asks** is refused for a filter or a pipeline, or because of its cursor. -/
theorem ReadRequest.without_result {r : ReadRequest α} (hraw : r.isRaw = false) (e : Engine) :
    Without EngineError.isOfProtocol (r.result e) := by
  cases r with
  | count ns filter => exact .map _ (Filter.ofTask_ofValue _).without
  | aggregate ns pipeline batchSize => exact .map _ (Pipeline.ofTask_ofStages _).without
  | getMore ns id batchSize =>
    show Without _ (e.laterBatch ns id batchSize)
    unfold Engine.laterBatch
    split
    · exact .error rfl
    · split
      · exact .error rfl
      · exact .ok _
  | command => cases hraw
  | listCollections db => exact .ok _
  | listDatabases => exact .ok _

/-- The ids of cursors that are to be killed have 64 bits. -/
def WriteRequest.Fits : WriteRequest α → Prop
  | killCursors _ ids => ∀ id ∈ ids, id < 2 ^ 63
  | _ => True

/-- **A request that changes something** is refused for an `_id` that is taken, or because of the disk. -/
theorem WriteRequest.without_result {r : WriteRequest α} (hfits : r.Fits) {e : Engine} (h : e.Sound) :
    Without EngineError.isOfProtocol (r.result e) := by
  cases r with
  | insert ns documents hsome => exact (e.store.ofTask_insert _ _ _).without
  | killCursors ns ids =>
    -- all ids are read as what they are
    have hread : ∀ v ∈ ids.map Value.ofInt, v.asInt? ≠ none := by
      intro v hv
      obtain ⟨id, hid, rfl⟩ := List.mem_map.mp hv
      rw [Value.asInt?_ofInt, if_pos (hfits id hid)]
      exact nofun
    rcases h.killCursors ns.text (ids.map Value.ofInt) with ⟨⟨v, hv, hnone⟩, -⟩ | ⟨-, answer, hrun⟩
    · exact absurd hnone (hread v hv)
    · show Without _ ((e.killCursors ns.text (ids.map Value.ofInt)).1.map _)
      rw [hrun]
      exact .ok _
  | dropCollection ns => exact (e.store.ofTask_dropCollection _ _).without
  | dropDatabase db => exact .map _ (e.store.ofTask_dropDatabase _).without

namespace Server

theorem Accounts.without_read (h : s.Accounts held) {r : ReadRequest α} (hraw : r.isRaw = false)
    (hfits : r.Fits s.engine) : Without ClientError.isOfProtocol (s.read r).1 := by
  rw [h.fst_read hraw hfits]
  split
  · exact .error rfl
  · exact (r.without_result hraw s.engine).client

theorem Accounts.without_write (h : s.Accounts held) (hsound : s.engine.Sound) {r : WriteRequest α}
    (hfits : r.Fits) : Without ClientError.isOfProtocol (s.write r).1 := by
  rw [h.fst_write]
  split
  · exact .error rfl
  · exact (r.without_result hfits hsound).client

end Server

/-! ## §3 — streams -/

theorem Decoder.without_decodeAll (d : Decoder α) (documents : List Document) :
    Without ClientError.isOfProtocol (d.decodeAll documents) := by
  induction documents with
  | nil => exact .ok _
  | cons document documents ih =>
    unfold decodeAll decode
    cases d.read? document.toValue with
    | none => exact .error rfl
    | some a => exact ih.map _

namespace ResultCursor

/-- A cursor of a client goes by an id of 64 bits, on a server to which these bindings are held. -/
structure Fits (held : List ConnectionId) (c : ResultCursor α) (s : Server) : Prop where
  accounts : s.Accounts held
  id : c.id < 2 ^ 63

/-- **A fetch** is understood. The id that comes with the batch is the one that was sent, or `0`. -/
theorem Fits.nextBatch {c : ResultCursor α} (h : c.Fits held s) :
    Without ClientError.isOfProtocol (c.nextBatch s).1 ∧
      (c.nextBatch s).2.1.Fits held (c.nextBatch s).2.2 := by
  unfold ResultCursor.nextBatch
  split
  · exact ⟨c.decoder.without_decodeAll _, h.accounts, h.id⟩
  · split
    · exact ⟨.error rfl, h⟩
    · have hread : Without ClientError.isOfProtocol (s.read (.getMore c.ns c.id c.batchSize)).1 :=
        h.accounts.without_read rfl h.id
      have hkept := (Server.upheld_accounts held).read h.accounts (.getMore c.ns c.id c.batchSize)
        trivial
      have hanswer := h.accounts.fst_read (r := .getMore c.ns c.id c.batchSize) rfl h.id
      rcases hrun : s.read (.getMore c.ns c.id c.batchSize) with ⟨answer, s'⟩
      rw [hrun] at hread hkept hanswer
      cases answer with
      | error e => exact ⟨.error (hread e rfl), hkept, h.id⟩
      | ok batch =>
        refine ⟨c.decoder.without_decodeAll _, hkept, ?_⟩
        have hbatch : s.engine.laterBatch c.ns c.id c.batchSize = .ok batch :=
          Server.eq_ok_of_answer hanswer.symm
        show batch.id < 2 ^ 63
        -- so the next fetch sends an id that it can read again
        rcases Engine.id_of_laterBatch hbatch with hzero | hsame
        · rw [hzero]
          decide
        · rw [hsame]
          exact h.id

theorem kept_fits (held : List ConnectionId) : ItemStream.Kept (Fits (α := α) held) :=
  fun _ _ h => h.nextBatch.2

theorem failsWith_fits (held : List ConnectionId) :
    ItemStream.FailsWith (Fits (α := α) held) fun e => e.isOfProtocol = false :=
  fun _ _ h => h.nextBatch.1

end ResultCursor

/-- No failure that a stream still has to report is one of the protocol. -/
abbrev ResultStream.Clean (r : ResultStream α) : Prop := r.Tells fun e => e.isOfProtocol = false

/-- An id that a first batch brings has 64 bits, and nothing is reported yet. -/
theorem Aggregation.fits_stream (h : s.Accounts held) (hids : s.engine.nextCursor < 2 ^ 63)
    (a : Aggregation α) :
    Without ClientError.isOfProtocol (a.stream s).1 ∧
      ∀ r, (a.stream s).1 = .ok r → r.source.Fits held (a.stream s).2 ∧ r.Clean := by
  have hread : Without ClientError.isOfProtocol
      (s.read (.aggregate a.collection.ns a.pipeline a.batchSize)).1 := h.without_read rfl hids
  have hkept := (Server.upheld_accounts held).read h
    (.aggregate a.collection.ns a.pipeline a.batchSize) trivial
  have hanswer := h.fst_read (r := .aggregate a.collection.ns a.pipeline a.batchSize) rfl hids
  unfold stream ResultCursor.open
  rcases hrun : s.read (.aggregate a.collection.ns a.pipeline a.batchSize) with ⟨answer, s'⟩
  rw [hrun] at hread hkept hanswer
  cases answer with
  | error e => exact ⟨.error (hread e rfl), fun r hr => by cases hr⟩
  | ok batch =>
    refine ⟨.ok _, fun r hr => ?_⟩
    obtain rfl := Except.ok.inj hr
    have hbatch : s.engine.firstBatch a.collection.ns a.pipeline a.batchSize = .ok batch :=
      Server.eq_ok_of_answer hanswer.symm
    refine ⟨⟨hkept, ?_⟩, fun e he => by cases he⟩
    show batch.id < 2 ^ 63
    rcases Engine.id_of_firstBatch hbatch with hzero | hnew
    · rw [hzero]
      decide
    · rw [hnew]
      exact hids

/-- Giving a cursor up is understood, too. -/
theorem ResultCursor.Fits.without_kill {c : ResultCursor α} (h : c.Fits held s)
    (hsound : s.engine.Sound) :
    Without ClientError.isOfProtocol (s.write (.killCursors c.ns [c.id])).1 := by
  refine h.accounts.without_write hsound fun id hid => ?_
  rw [List.mem_singleton.mp hid]
  exact h.id

theorem Aggregation.without_collect (h : s.Accounts held) (hids : s.engine.nextCursor < 2 ^ 63)
    (a : Aggregation α) : Without ClientError.isOfProtocol (a.collect s).1 := by
  obtain ⟨hfail, hopened⟩ := a.fits_stream h hids
  unfold collect
  rcases hrun : a.stream s with ⟨answer, s'⟩
  rw [hrun] at hfail hopened
  cases answer with
  | error e => exact .error (hfail e rfl)
  | ok r =>
    obtain ⟨hfits, hclean⟩ := hopened r rfl
    exact ((ResultCursor.kept_fits held).tells_collect (ResultCursor.failsWith_fits held) (s := r) hfits
      hclean).1

/-! ## §4 — calls -/

/-- The calls of a client, apart from the one that sends a command document of the caller's own. -/
inductive FacadeCall : Type → Type 1 where
  | insert {α : Type} (c : TypedCollection α) (v : Value) : FacadeCall (Option Value)
  | count {α : Type} (c : TypedCollection α) : FacadeCall Nat
  | countMatching {α : Type} (c : TypedCollection α) (filter : Document) : FacadeCall Nat
  | stream {α : Type} (a : Aggregation α) : FacadeCall (ResultStream α)
  | collect {α : Type} (a : Aggregation α) : FacadeCall (List α)
  | dropCollection {α : Type} (c : TypedCollection α) : FacadeCall Bool
  | dropDatabase (db : DatabaseName) : FacadeCall Unit
  | collectionNames (db : DatabaseName) : FacadeCall (List String)
  | databaseNames : FacadeCall (List String)

def FacadeCall.run : FacadeCall β → Server → Except ClientError β × Server
  | insert c v, s => c.insert v s
  | count c, s => c.count s
  | countMatching c filter, s => c.countMatching filter s
  | stream a, s => a.stream s
  | collect a, s => a.collect s
  | dropCollection c, s => c.drop s
  | dropDatabase db, s => db.drop s
  | collectionNames db, s => db.collectionNames s
  | databaseNames, s => s.databaseNames

theorem TypedCollection.without_insert (h : s.Accounts held) (c : TypedCollection α) (v : Value) :
    Without ClientError.isOfProtocol (c.insert v s).1 := by
  -- for any server, as drawing an id takes it from the host first
  have hsend : ∀ (d : Document) (s : Server), s.Accounts held →
      Without ClientError.isOfProtocol (c.insertEncoded d s).1 := by
    intro d s h
    rw [c.fst_insertEncoded h]
    refine .map _ ?_
    split
    · exact .error rfl
    · exact (s.engine.store.ofTask_insert _ _ _).without.client
  unfold insert Codec.encodeForInsert
  cases v with
  | object fs =>
    simp only [Codec.encode]
    split
    · next heq => split at heq <;> cases heq
    · exact hsend _ _ (h.withHost _)
  | _ => exact .error rfl

/-- **The calls of a client** are understood. One case for each. -/
theorem FacadeCall.without_run (h : s.Accounts held) (hsound : s.engine.Sound)
    (hids : s.engine.nextCursor < 2 ^ 63) (c : FacadeCall β) :
    Without ClientError.isOfProtocol (c.run s).1 := by
  cases c with
  | insert c v => exact c.without_insert h v
  | count c => exact h.without_read rfl trivial
  | countMatching c filter => exact h.without_read rfl trivial
  | stream a => exact (a.fits_stream h hids).1
  | collect a => exact a.without_collect h hids
  | dropCollection c => exact h.without_write hsound trivial
  | dropDatabase db => exact h.without_write hsound trivial
  | collectionNames db => exact h.without_read rfl trivial
  | databaseNames => exact h.without_read rfl trivial

/-! ## §5 — whoever else is at work -/

/-- A server, the bindings to it that are held, and the streams over it. -/
structure Sessions : Type 1 where
  server : Server
  bindings : List ConnectionId := []
  streams : List HeldStream := []

namespace Sessions

/-- What many clients come to. Each of them makes calls, and each may hold bindings for as long as it
likes and send command documents through them while the others go on with their work. -/
inductive Reachable : Sessions → Prop where
  | start {options : Options} {host : Host} {s : Server} (h : Server.start options host = .ok s) :
      Reachable ⟨s, [], []⟩
  | call {m : Sessions} (h : Reachable m) (c : World.Call) :
      Reachable ⟨(c.after ⟨m.server, m.streams⟩).server, m.bindings,
        (c.after ⟨m.server, m.streams⟩).streams⟩
  | acquire {m : Sessions} (h : Reachable m) {own : ConnectionId} {s : Server}
      (hacquire : m.server.acquire = (.ok own, s)) : Reachable ⟨s, m.bindings ++ [own], m.streams⟩
  | command {m : Sessions} (h : Reachable m) (own : ConnectionId) (db : String) (d : Document) :
      Reachable ⟨(m.server.command own db d).2, m.bindings, m.streams⟩
  | release {m : Sessions} (h : Reachable m) {own : ConnectionId} (hown : own ∈ m.bindings) :
      Reachable ⟨(m.server.release own).2, m.bindings.erase own, m.streams⟩

/-- Clients that hold no bindings between their calls. Induction on the calls. -/
theorem reachable_of_world {w : World} (h : w.Reachable) : Reachable ⟨w.server, [], w.streams⟩ := by
  induction h with
  | start h => exact .start h
  | call _ c ih => exact ih.call c

/-- The account of bindings is true, the cursors of the streams have ids that were given out, and no
stream has a failure of the protocol to report as long as 64 bits hold the ids. -/
structure Kept (m : Sessions) : Prop where
  accounts : m.server.Accounts m.bindings
  apart : World.Apart ⟨m.server, m.streams⟩ 0
  clean : m.server.engine.nextCursor ≤ 2 ^ 63 → ∀ held ∈ m.streams, held.stream.Clean

variable {m : Sessions}

/-- The cursor of a stream that is held goes by an id of 64 bits. -/
theorem Kept.fits (h : m.Kept) (hids : m.server.engine.nextCursor ≤ 2 ^ 63) {held : HeldStream}
    (hheld : held ∈ m.streams) : held.stream.source.Fits m.bindings m.server :=
  ⟨h.accounts, Int.lt_of_lt_of_le (h.apart.streams held hheld).given hids⟩

/-- What leaves the streams alone. -/
theorem Kept.of_spares (h : m.Kept) {s : Server} {bindings : List ConnectionId}
    (haccounts : s.Accounts bindings) (hspares : Engine.Spares 0 m.server.engine s.engine) :
    Kept ⟨s, bindings, m.streams⟩ :=
  ⟨haccounts, h.apart.of_spares hspares, fun hids => h.clean (Int.le_trans hspares.next hids)⟩

theorem clean_use {r : ResultStream α} (hfits : r.source.Fits held s) (hclean : r.Clean)
    (u : World.Use) : (u.after r s).1.Clean := by
  have hkept := ResultCursor.kept_fits (α := α) held
  have hfails := ResultCursor.failsWith_fits (α := α) held
  cases u with
  | hasNext => exact hkept.tells_hasNext hfails hfits hclean
  | tryNext => exact (hkept.tells_tryNext hfails hfits hclean).2
  | nextItem => exact (hkept.tells_nextItem hfails rfl hfits hclean).2
  | next => exact (hkept.tells_next? hfails hfits hclean).2
  | collect => exact (hkept.tells_collect hfails hfits hclean).2
  | discard => exact hclean

/-- **A call** leaves the streams that are held clean, and the one that it opens. -/
theorem Kept.call (h : m.Kept) (c : World.Call) :
    Kept ⟨(c.after ⟨m.server, m.streams⟩).server, m.bindings,
      (c.after ⟨m.server, m.streams⟩).streams⟩ := by
  obtain ⟨hspares, hapart⟩ := h.apart.call (c.avoids_zero _)
  have haccounts := (Server.upheld_accounts m.bindings).call (w := ⟨m.server, m.streams⟩) h.accounts
    (c.sends_any _)
  refine ⟨haccounts, hapart, fun hids => ?_⟩
  -- ids are given out in order, so the bound held before the call as well
  have hbefore : m.server.engine.nextCursor ≤ 2 ^ 63 := Int.le_trans hspares.next hids
  have hclean := h.clean hbefore
  cases c with
  | iterate a =>
    rcases hrun : a.stream m.server with ⟨answer, s⟩
    simp only [World.Call.after, hrun]
    cases answer with
    | error e => exact hclean
    | ok r =>
      intro held hheld
      rcases List.mem_append.mp hheld with hold | hnew
      · exact hclean held hold
      · rw [List.mem_singleton.mp hnew]
        obtain ⟨batch, -, rfl, -⟩ := Aggregation.stream_eq_ok (a := a) (s := m.server) (r := r)
          (by rw [hrun])
        intro e htells
        cases htells
  | use i u =>
    cases hi : m.streams[i]? with
    | none =>
      simp only [World.Call.after, hi]
      exact hclean
    | some held =>
      simp only [World.Call.after, hi]
      have hheld := List.mem_of_getElem? hi
      intro other hother
      rcases List.mem_or_eq_of_mem_set hother with hmem | rfl
      · exact hclean other hmem
      · exact clean_use (h.fits hbefore hheld) (hclean held hheld) u
  | collect | insert | read | write | execute | pump | close | move => exact hclean

/-- **Whatever many clients do** keeps to it. Induction on what they do. -/
theorem Reachable.kept (h : m.Reachable) : m.Kept := by
  induction h with
  | start h =>
    refine ⟨Server.accounts_of_start h, (World.Reachable.start h).apart, fun _ held hheld => ?_⟩
    exact absurd hheld List.not_mem_nil
  | call _ c ih => exact ih.call c
  | @acquire m _ own s hacquire ih =>
    have hspares : Engine.Spares 0 m.server.engine m.server.acquire.2.engine :=
      Server.spares_acquire ih.apart.sound
    rw [hacquire] at hspares
    cases hstate : m.server.isClosed with
    | true =>
      rw [Server.acquire_of_closed hstate] at hacquire
      cases hacquire
    | false => exact ih.of_spares (ih.accounts.acquire hstate hacquire).1 hspares
  | command _ own db d ih =>
    exact ih.of_spares (ih.accounts.command own db d)
      (Server.spares_command ih.apart.sound own db fun _ => rfl)
  | release _ hown ih =>
    exact ih.of_spares (ih.accounts.release_of_mem hown rfl).1
      (Server.spares_release ih.apart.sound _)

end Sessions

/-- A request is answered with what the engine computes for it, through any binding that is held and with
one of its own, unless the server has been closed; and the engine never gives up because it does not
understand. -/
structure Server.Understands (s : Server) (held : List ConnectionId) (r : Request α)
    (x : Except EngineError α) : Prop where
  bound : ∀ own ∈ held, (r.run own s).1
    = if s.isClosed then .error (.engine .shutdownInProgress) else x.mapError .engine
  sent : (s.send r).1 = if s.isClosed then .error .serverClosed else x.mapError .engine
  without : Without EngineError.isOfProtocol x

theorem Server.Accounts.understands (h : s.Accounts held) {r : Request α} {x : Except EngineError α}
    (hanswered : r.answered s.engine = x.mapError .engine)
    (hsent : (s.send r).1 = if s.isClosed then .error .serverClosed else x.mapError .engine)
    (hwithout : Without EngineError.isOfProtocol x) : s.Understands held r x := by
  refine ⟨fun own hown => ?_, hsent, hwithout⟩
  cases hstate : s.isClosed with
  | true => exact run_of_closed hstate r
  | false => exact (h.run_of_held hstate hown r).trans hanswered

/-- **Client and engine speak the same protocol.** On a server that many clients work on, with bindings
held and streams open, and as long as 64 bits hold the ids of cursors, every request that a client makes
of itself is understood: the two documents on the way add nothing to what the engine computes and take
nothing from it. So no call of a client ends in a reply that is not understood, nor in an error of the
engine over a name, a command, its shape or the connection. No more does any use of a stream that is held,
or the killing of its cursor. -/
theorem calls_keep_to_the_protocol {m : Sessions} (h : m.Reachable)
    (hids : m.server.engine.nextCursor < 2 ^ 63) :
    (∀ {α : Type} (r : ReadRequest α), r.isRaw = false → r.Fits m.server.engine →
      m.server.Understands m.bindings r.request (r.result m.server.engine)) ∧
    (∀ {α : Type} (r : WriteRequest α), r.Fits →
      m.server.Understands m.bindings r.request (r.result m.server.engine)) ∧
    (∀ {β : Type} (c : FacadeCall β), Without ClientError.isOfProtocol (c.run m.server).1) ∧
    ∀ held ∈ m.streams,
      Without ClientError.isOfProtocol (held.stream.tryNext m.server).1 ∧
      Without ClientError.isOfProtocol (held.stream.nextItem m.server).1 ∧
      (∀ e, (held.stream.next? m.server).1 = some (.error e) → e.isOfProtocol = false) ∧
      Without ClientError.isOfProtocol (held.stream.collect m.server).1 ∧
      Without ClientError.isOfProtocol
        (m.server.write (.killCursors held.stream.source.ns [held.stream.source.id])).1 := by
  have hkept := h.kept
  have haccounts := hkept.accounts
  have hsound := hkept.apart.sound
  refine ⟨fun r hraw hfits => haccounts.understands (r.answered_eq hfits)
      (haccounts.fst_read hraw hfits) (r.without_result hraw _),
    fun r hfits => haccounts.understands (r.answered_eq _) (haccounts.fst_write r)
      (r.without_result hfits hsound),
    fun c => c.without_run haccounts hsound hids, fun held hheld => ?_⟩
  have hfits := hkept.fits (Int.le_of_lt hids) hheld
  have hclean := hkept.clean (Int.le_of_lt hids) held hheld
  have hfetches := ResultCursor.kept_fits (α := held.α) m.bindings
  have hfails := ResultCursor.failsWith_fits (α := held.α) m.bindings
  exact ⟨(hfetches.tells_tryNext hfails hfits hclean).1,
    (hfetches.tells_nextItem hfails rfl hfits hclean).1,
    (hfetches.tells_next? hfails hfits hclean).1,
    (hfetches.tells_collect hfails hfits hclean).1, hfits.without_kill hsound⟩

/-- Two documents are stored, a stream over them has fetched one, and someone holds a binding. The
documents are counted through it, the other document is fetched, and a new stream is opened. -/
theorem calls_keep_to_the_protocol_of_two :
    let host : Host := { ids := fun _ => "", showTime := fun _ => "" }
    let notes : Namespace := ⟨⟨"db", by decide⟩, "notes", by decide⟩
    let documents : List Document := [1, 2].map fun n => ⟨[("_id", .ofNat n)]⟩
    let a : Aggregation Document := ⟨⟨notes, {}, .document⟩, [], some 1⟩
    ∃ s₀ w own s, Server.start {} host = .ok s₀ ∧
      w = World.Call.after (.iterate a)
        (World.Call.after (.write (.insert notes documents rfl)) ⟨s₀, []⟩) ∧
      w.server.acquire = (.ok own, s) ∧ w.streams.length = 1 ∧
      ((ReadRequest.count notes none).request.run own s).1 = .ok 2 ∧
      (s.read (.getMore notes 1 (some 5))).1 = .ok ⟨0, documents.drop 1⟩ ∧
      Without ClientError.isOfProtocol (a.stream s).1 ∧
      ∀ held ∈ w.streams, Without ClientError.isOfProtocol (held.stream.tryNext s).1 := by
  intro host notes documents a
  obtain ⟨s₀, hstart⟩ : ∃ s₀, Server.start {} host = .ok s₀ := ⟨_, rfl⟩
  obtain ⟨w, hw⟩ : ∃ w, w = World.Call.after (.iterate a)
    (World.Call.after (.write (.insert notes documents rfl)) ⟨s₀, []⟩) := ⟨_, rfl⟩
  have hworld : w.Reachable := by
    rw [hw]
    exact ((World.Reachable.start hstart).call _).call _
  have hs₀ := Except.ok.inj hstart
  have hopen : w.server.isClosed = false := by
    rw [hw, ← hs₀]
    decide +kernel
  obtain ⟨own, s, hacquire⟩ : ∃ own s, w.server.acquire = (.ok own, s) :=
    ⟨_, _, Server.acquire_of_open hopen⟩
  have hsession := Sessions.reachable_of_world hworld
  have hstill := (hsession.kept.accounts.acquire hopen hacquire).2.1
  obtain ⟨hnext, hstore, hcursors⟩ : s.engine.nextCursor = w.server.engine.nextCursor ∧
      s.engine.store = w.server.engine.store ∧ s.engine.cursors = w.server.engine.cursors := by
    rw [Server.acquire_of_open hopen] at hacquire
    obtain ⟨-, rfl⟩ := Prod.mk.inj hacquire
    exact ⟨rfl, rfl, rfl⟩
  have hids : s.engine.nextCursor < 2 ^ 63 := by
    rw [hnext, hw, ← hs₀]
    decide +kernel
  have hlength : w.streams.length = 1 := by
    rw [hw, ← hs₀]
    decide +kernel
  have hcount : s.engine.counted notes none = .ok 2 := by
    unfold Engine.counted
    rw [hstore, hw, ← hs₀]
    cbv
  have hcursor : s.engine.cursor? 1 = some ⟨"db.notes", documents.drop 1, 0⟩ := by
    unfold Engine.cursor?
    rw [hcursors, hw, ← hs₀]
    cbv
  have hmore : s.engine.laterBatch notes 1 (some 5) = .ok ⟨0, documents.drop 1⟩ := by
    unfold Engine.laterBatch
    rw [hcursor]
    rfl
  obtain ⟨hread, -, hcalls, hstreams⟩ := calls_keep_to_the_protocol (hsession.acquire hacquire) hids
  have hbound := (hread (.count notes none) rfl trivial).bound own
    (List.mem_append_right _ (List.mem_singleton_self own))
  have hsent := (hread (.getMore notes 1 (some 5)) rfl (show (1 : Int) < 2 ^ 63 by decide)).sent
  refine ⟨s₀, w, own, s, hstart, hw, hacquire, hlength, ?_, ?_, hcalls (.stream a),
    fun held hmem => (hstreams held hmem).1⟩
  · rw [hbound, hstill]
    exact congrArg (Except.mapError ClientError.engine) hcount
  · refine hsent.trans ?_
    rw [hstill]
    exact congrArg (Except.mapError ClientError.engine) hmore

end DocStore
