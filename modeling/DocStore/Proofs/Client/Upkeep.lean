import DocStore.Proofs.Client.World
import DocStore.Proofs.Engine.Snapshot

/-!
# DocStore — what clients keep

Everything that clients do comes down to operations that are executed on a server, and these to calls on
the engine. What operations keep is therefore kept by requests, by streams and by the whole of a client's
calls. Some properties are kept as long as no command document of a certain kind is sent, so the kind that
may be sent is a parameter all the way up.

* **`Server.Upheld`** — a property of servers is kept by operations that send only such documents.
* **`Server.Upheld.call`** — then it is kept by the calls of clients, one case for each kind.
* **`Engine.Upholds`** — a property of engines is kept by the calls that send only such documents.
* **`Engine.Upholds.run`**, **`Engine.Upholds.upheld`** — then it is kept by such operations, by induction
  over the operation.
* **`World.Reachable.engine`** — what is known of the engines that calls lead to is known of every world.
-/

namespace DocStore

variable {Q : Document → Prop}

/-! ## §1 — the documents that are sent -/

/-- The documents that clients send of themselves to change something or to fetch. -/
structure Usual (Q : Document → Prop) : Prop where
  write : ∀ {α : Type} (r : WriteRequest α), Q r.request.command
  getMore : ∀ ns id batchSize, Q (ReadRequest.getMoreCommand ns id batchSize)

/-- All command documents that an operation comes to send are of a kind. -/
def Operation.Sends (Q : Document → Prop) {α : Type} : Operation α → ConnectionId → Server → Prop
  | done _, _, _ => True
  | fail _, _, _ => True
  | breakOff, _, _ => True
  | command db d next, binding, s =>
    Q d ∧ (next (s.command binding db d).1).Sends Q binding (s.command binding db d).2
  | execute inner next, binding, s =>
    (∀ own, s.acquire.1 = .ok own → inner.Sends Q own s.acquire.2) ∧
      match s.withBinding .error inner.run with
      | (.ok value, s) => (next (.ok value)).Sends Q binding s
      | (.error (.error e), s) => (next (.error e)).Sends Q binding s
      | (.error .brokenOff, _) => True
  | close next, binding, s => (next s.close.1).Sends Q binding s.close.2
  | inspect next, binding, s => (next binding s.bindings).Sends Q binding s

namespace World

/-- All command documents that a call comes to send are of a kind. -/
def Call.Sends (Q : Document → Prop) : Call → Server → Prop
  | iterate a, _ | collect a, _ =>
    Q (ReadRequest.aggregateCommand a.collection.ns a.pipeline a.batchSize)
  | read r, _ => Q r.request.command
  | execute o, s => ∀ binding, s.acquire.1 = .ok binding → o.Sends Q binding s.acquire.2
  | _, _ => True

end World

/-- All documents are documents of some kind. Induction over the operation. -/
theorem Operation.sends_any {α : Type} (o : Operation α) (binding : ConnectionId) (s : Server) :
    o.Sends (fun _ => True) binding s := by
  induction o generalizing binding s with
  | done value => trivial
  | fail e => trivial
  | breakOff => trivial
  | command db d next ih => exact ⟨trivial, ih _ _ _⟩
  | execute inner next ihInner ihNext =>
    unfold Sends
    refine ⟨fun own _ => ihInner own _, ?_⟩
    split
    · exact ihNext _ _ _
    · exact ihNext _ _ _
    · trivial
  | close next ih => exact ih _ _ _
  | inspect next ih => exact ih _ _ _ _

theorem World.Call.sends_any (c : World.Call) (s : Server) : c.Sends (fun _ => True) s := by
  cases c with
  | execute o => exact fun binding _ => o.sends_any binding _
  | _ => trivial

theorem usual_any : Usual fun _ => True := ⟨fun _ => trivial, fun _ _ _ => trivial⟩

/-! ## §2 — servers -/

namespace Server

/-- What is kept by operations that send only documents of a kind, and by all else that is done to a
server. -/
structure Upheld (Q : Document → Prop) (P : Server → Prop) : Prop where
  usual : Usual Q
  execute : ∀ {s : Server}, P s → ∀ {α : Type} (o : Operation α),
    (∀ binding, s.acquire.1 = .ok binding → o.Sends Q binding s.acquire.2) → P (s.execute o).2
  pump : ∀ {s : Server}, P s → P s.pump.2
  close : ∀ {s : Server}, P s → P s.close.2
  move : ∀ {s : Server}, P s → ∀ host : Host, P (s.withHost host)

/-- Sending a request is executing the operation of it. -/
theorem execute_operation {α : Type} (s : Server) (r : Request α) :
    s.execute r.operation = ((s.send r).1.mapError .error, (s.send r).2) := by
  unfold execute send Server.withBinding
  rcases s.acquire with ⟨answer, s₁⟩
  cases answer with
  | error e => rfl
  | ok own =>
    have hrun : r.operation.run own s₁ = ((r.run own s₁).1.mapError .error, (r.run own s₁).2) := by
      unfold Request.operation Request.run Operation.run
      rcases s₁.command own r.database.text r.command with ⟨reply, s₂⟩
      cases reply with
      | error e => rfl
      | ok reply =>
        dsimp only [Except.bind]
        cases r.answer reply <;> rfl
    simp only [hrun]
    rcases r.run own s₁ with ⟨result, s₂⟩
    rcases s₂.release own with ⟨released, s₃⟩
    cases result <;> cases released <;> rfl

namespace Upheld

variable {P : Server → Prop} {s : Server}

theorem send (hupheld : Upheld Q P) (h : P s) {α : Type} (r : Request α) (hr : Q r.command) :
    P (s.send r).2 := by
  -- a request is the operation that sends one command document and reads the reply
  have hexecute := hupheld.execute h r.operation fun binding _ => by
    refine ⟨hr, ?_⟩
    dsimp only
    split <;> trivial
  rw [execute_operation] at hexecute
  exact hexecute

theorem read (hupheld : Upheld Q P) (h : P s) {α : Type} (r : ReadRequest α)
    (hr : Q r.request.command) : P (s.read r).2 :=
  hupheld.send h r.request hr

theorem write (hupheld : Upheld Q P) (h : P s) {α : Type} (r : WriteRequest α) : P (s.write r).2 :=
  hupheld.send h r.request (hupheld.usual.write r)

variable {α : Type}

/-- A fetch executes one operation, or none. -/
theorem fetches (hupheld : Upheld Q P) :
    ItemStream.Kept fun (_ : ResultCursor α) (s : Server) => P s := by
  intro c s h
  show P (c.nextBatch s).2.2
  unfold ResultCursor.nextBatch
  split
  · exact h
  · split
    · exact h
    · have hread := hupheld.read h (.getMore c.ns c.id c.batchSize)
        (hupheld.usual.getMore c.ns c.id c.batchSize)
      split
      · next heq =>
        rw [heq] at hread
        exact hread
      · next heq =>
        rw [heq] at hread
        exact hread

theorem discard (hupheld : Upheld Q P) (h : P s) (c : ResultCursor α) : P (c.discard s) := by
  unfold ResultCursor.discard
  split
  · exact h
  · exact hupheld.write h _

theorem stream (hupheld : Upheld Q P) (h : P s) (a : Aggregation α)
    (ha : Q (ReadRequest.aggregateCommand a.collection.ns a.pipeline a.batchSize)) :
    P (a.stream s).2 := by
  have hread := hupheld.read h (.aggregate a.collection.ns a.pipeline a.batchSize) ha
  unfold Aggregation.stream ResultCursor.open
  rcases hrun : s.read (.aggregate a.collection.ns a.pipeline a.batchSize) with ⟨answer, s'⟩
  rw [hrun] at hread
  cases answer <;> exact hread

theorem collect (hupheld : Upheld Q P) (h : P s) (a : Aggregation α)
    (ha : Q (ReadRequest.aggregateCommand a.collection.ns a.pipeline a.batchSize)) :
    P (a.collect s).2 := by
  have hstream := hupheld.stream h a ha
  unfold Aggregation.collect
  rcases hrun : a.stream s with ⟨answer, s'⟩
  rw [hrun] at hstream
  cases answer with
  | error e => exact hstream
  | ok r =>
    have hall : P (r.collect s').2.2 := hupheld.fetches.collect (s := r) hstream
    simp only
    rcases hcollect : r.collect s' with ⟨results, r', s''⟩
    rw [hcollect] at hall
    exact hupheld.discard hall r'.source

theorem insert (hupheld : Upheld Q P) (h : P s) (c : TypedCollection α) (v : Value) :
    P (c.insert v s).2 := by
  have hsend : ∀ (d : Document) (s : Server), P s → P (c.insertEncoded d s).2 := by
    intro d s h
    unfold TypedCollection.insertEncoded
    split
    · exact h
    · next request _ =>
      have hwrite := hupheld.write h request
      split
      · next heq =>
        rw [heq] at hwrite
        exact hwrite
      · next heq =>
        rw [heq] at hwrite
        exact hwrite
      · next heq =>
        rw [heq] at hwrite
        exact hwrite
  unfold TypedCollection.insert
  split
  · exact hupheld.move h _
  · next d host _ => exact hsend d _ (hupheld.move h host)

theorem use (hupheld : Upheld Q P) (h : P s) (u : World.Use) (r : ResultStream α) :
    P (u.after r s).2 := by
  have hfetches := hupheld.fetches (α := α)
  cases u with
  | hasNext => exact hfetches.hasNext (s := r) h
  | tryNext => exact hfetches.tryNext (s := r) h
  | nextItem => exact hfetches.nextItem (s := r) h
  | next => exact hfetches.next? (s := r) h
  | collect => exact hfetches.collect (s := r) h
  | discard => exact hupheld.discard h r.source

/-- **Whatever clients do** to a server comes down to operations that are executed one after the other.
One case for each kind of call. -/
theorem call (hupheld : Upheld Q P) {w : World} (h : P w.server) {c : World.Call}
    (hc : c.Sends Q w.server) : P (c.after w).server := by
  cases c with
  | iterate a =>
    have hstream := hupheld.stream h a hc
    rcases hrun : a.stream w.server with ⟨answer, s⟩
    rw [hrun] at hstream
    simp only [World.Call.after, hrun]
    cases answer <;> exact hstream
  | use i u =>
    cases hi : w.streams[i]? with
    | none =>
      simp only [World.Call.after, hi]
      exact h
    | some held =>
      simp only [World.Call.after, hi]
      exact hupheld.use h u held.stream
  | collect a => exact hupheld.collect h a hc
  | insert c v => exact hupheld.insert h c v
  | read r => exact hupheld.read h r hc
  | write r => exact hupheld.write h r
  | execute o => exact hupheld.execute h o hc
  | pump => exact hupheld.pump h
  | close => exact hupheld.close h
  | move host => exact hupheld.move h host

end Upheld

end Server

/-! ## §3 — engines -/

namespace Engine

variable {P : Engine → Prop}

/-- If a call sends a command document, it is one of these. -/
def Call.Sends (Q : Document → Prop) : Call → Prop
  | .command _ _ d => Q d
  | _ => True

/-- Every call that sends only documents of a kind keeps a property. -/
def Upholds (Q : Document → Prop) (P : Engine → Prop) : Prop :=
  ∀ e, P e → ∀ c : Call, c.Sends Q → P (c.after e)

namespace Upholds

variable {s : Server}

theorem acquire (hupholds : Upholds Q P) (h : P s.engine) : P s.acquire.2.engine := by
  have hopen : P s.engine.openConnection.2 := hupholds _ h .openConnection trivial
  unfold Server.acquire
  split
  · exact h
  · split
    · next heq =>
      rw [heq] at hopen
      exact hopen
    · next heq =>
      rw [heq] at hopen
      exact hopen

theorem release (hupholds : Upholds Q P) (h : P s.engine) (binding : ConnectionId) :
    P (s.release binding).2.engine := by
  have hclose : P (s.engine.closeConnection binding).2 := hupholds _ h (.closeConnection binding) trivial
  unfold Server.release
  split
  · next heq =>
    rw [heq] at hclose
    exact hclose
  · next heq =>
    rw [heq] at hclose
    exact hclose

theorem command (hupholds : Upholds Q P) (h : P s.engine) (binding : ConnectionId) (db : String)
    {d : Document} (hd : Q d) : P (s.command binding db d).2.engine :=
  hupholds _ h (.command binding db d) hd

theorem close (hupholds : Upholds Q P) (h : P s.engine) : P s.close.2.engine := hupholds _ h .close trivial

theorem pump (hupholds : Upholds Q P) (h : P s.engine) : P s.pump.2.engine := by
  unfold Server.pump
  split
  · exact h
  · exact hupholds _ h .pump trivial

theorem withHost (hupholds : Upholds Q P) (h : P s.engine) (host : Host) : P (s.withHost host).engine :=
  hupholds _ h (.move host) trivial

theorem withBinding (hupholds : Upholds Q P) {ε α : Type} {failure : ClientError → ε}
    {work : ConnectionId → Server → Except ε α × Server} (h : P s.engine)
    (hwork : ∀ binding, s.acquire.1 = .ok binding → P (work binding s.acquire.2).2.engine) :
    P (s.withBinding failure work).2.engine := by
  rcases Server.withBinding_cases failure work s with ⟨err, -, hrun⟩ | ⟨binding, hbinding, hrun⟩
  · rw [hrun]
    exact hupholds.acquire h
  · rw [hrun]
    exact hupholds.release (hwork binding hbinding) binding

/-- **An operation keeps what its calls keep.** Induction over the operation, one case for each step that
it can begin with. -/
theorem run (hupholds : Upholds Q P) {α : Type} (o : Operation α) {binding : ConnectionId}
    (h : P s.engine) (ho : o.Sends Q binding s) : P (o.run binding s).2.engine := by
  induction o generalizing binding s with
  | done value => exact h
  | fail e => exact h
  | breakOff => exact h
  | command db d next ih => exact ih _ (hupholds.command h binding db ho.1) ho.2
  | execute inner next ihInner ihNext =>
    unfold Operation.Sends at ho
    obtain ⟨hown, hnext⟩ := ho
    have hinner : P (s.withBinding Failure.error inner.run).2.engine :=
      hupholds.withBinding h fun own hbinding => ihInner (hupholds.acquire h) (hown own hbinding)
    -- a failure of the inner operation is handed on, but one that broke off ends the outer one
    unfold Operation.run
    show P (match s.withBinding Failure.error inner.run with
      | (.ok value, s) => (next (.ok value)).run binding s
      | (.error (.error e), s) => (next (.error e)).run binding s
      | (.error .brokenOff, s) => (.error .brokenOff, s)).2.engine
    rcases hrun : s.withBinding Failure.error inner.run with ⟨answer, s'⟩
    rw [hrun] at hinner hnext
    cases answer with
    | ok value => exact ihNext _ hinner hnext
    | error failure =>
      cases failure with
      | error e => exact ihNext _ hinner hnext
      | brokenOff => exact hinner
  | close next ih => exact ih _ (hupholds.close h) ho
  | inspect next ih => exact ih _ _ h ho

theorem execute (hupholds : Upholds Q P) {α : Type} (o : Operation α) (h : P s.engine)
    (ho : ∀ binding, s.acquire.1 = .ok binding → o.Sends Q binding s.acquire.2) :
    P (s.execute o).2.engine :=
  hupholds.withBinding h fun binding hbinding => hupholds.run o (hupholds.acquire h) (ho binding hbinding)

/-- **What the calls on an engine keep**, operations keep that are executed on its server. -/
theorem upheld (hupholds : Upholds Q P) (husual : Usual Q) : Server.Upheld Q fun s => P s.engine :=
  ⟨husual, fun h _ o ho => hupholds.execute o h ho, hupholds.pump, hupholds.close, hupholds.withHost⟩

end Upholds

end Engine

/-- **The engine of a world** that the calls of clients lead to is one that calls on an engine lead to. -/
theorem World.Reachable.engine {w : World} (h : w.Reachable) : w.server.engine.Reachable := by
  have hupholds : Engine.Upholds (fun _ => True) Engine.Reachable := fun _ h c _ => h.call c
  have hupheld := hupholds.upheld usual_any
  induction h with
  | @start options host s h =>
    obtain ⟨e, hstart, rfl⟩ := Server.start_eq_ok h
    exact .start hstart
  | call _ c ih => exact hupheld.call ih (c.sends_any _)

end DocStore
