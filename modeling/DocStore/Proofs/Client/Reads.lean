import DocStore.Proofs.Client.Requests
import DocStore.Proofs.Engine.Changes

/-!
# DocStore — requests that ask

A request leaves the store as its command does. The requests that ask send commands that change
nothing, but for the one that sends whatever document it is given.

* **`Server.store_send`** — a request whose document names no change leaves the store as it is.
* **`Server.contents_of_raw_error`** — one that does, and fails, leaves what is stored.
* **`reads_keep_contents`** — the main statement, on what requests that ask leave alone and what they
  do not.
-/

namespace DocStore

/-! ## §1 — requests -/

namespace Server

variable {s : Server}

theorem store_release (s : Server) (binding : ConnectionId) :
    (s.release binding).2.engine.store = s.engine.store := by
  have hclose : (s.engine.closeConnection binding).2.store = s.engine.store := by
    unfold Engine.closeConnection
    split
    · rfl
    split <;> rfl
  unfold release
  split
  · next heq =>
    rw [heq] at hclose
    exact hclose
  · next heq =>
    rw [heq] at hclose
    exact hclose

/-- A request leaves the store as its command does. -/
theorem store_send {α : Type} (s : Server) (r : Request α) (hr : r.command.namesChange = false) :
    (s.send r).2.engine.store = s.engine.store := by
  have hacquire := (engine_acquire s).1
  unfold send
  rcases withBinding_cases id r.run s with ⟨err, -, hrun⟩ | ⟨binding, -, hrun⟩
  · rw [hrun]
    exact hacquire
  · rw [hrun]
    show (release _ binding).2.engine.store = _
    rw [store_release, engine_run]
    exact (Engine.store_command _ binding _ hr).trans hacquire

/-- What a request leaves behind does not depend on how its reply is read. -/
theorem snd_send_eq {α β : Type} (s : Server) {r : Request α} {r' : Request β}
    (hdatabase : r.database = r'.database) (hcommand : r.command = r'.command) :
    (s.send r).2 = (s.send r').2 := by
  unfold send withBinding
  rcases s.acquire with ⟨answer, s₁⟩
  cases answer with
  | error err => rfl
  | ok binding =>
    show ((r.run binding s₁).2.release binding).2 = ((r'.run binding s₁).2.release binding).2
    rw [engine_run, engine_run, hdatabase, hcommand]

end Server

namespace ReadRequest

/-- A request that sends a document of the caller's own, named for a change. -/
def namesChange {α : Type} : ReadRequest α → Bool
  | command _ document _ => document.namesChange
  | _ => false

theorem namesChange_request {α : Type} (r : ReadRequest α) :
    r.request.command.namesChange = r.namesChange := by
  cases r with
  | count ns filter => cases filter <;> rfl
  | aggregate ns pipeline batchSize => rfl
  | getMore ns id batchSize => rfl
  | command db document named => rfl
  | listCollections db => rfl
  | listDatabases => rfl

end ReadRequest

namespace Server

variable {s : Server}

/-- **A document of the caller's own that fails** leaves what is stored. On an open server the binding is
released, so the failure is one of the command. -/
theorem contents_of_raw_error (h : s.Accounts []) (hsound : s.engine.Sound) {db : DatabaseName}
    {d : Document} {named : d.isEmpty = false} {err : ClientError}
    (hfail : (s.read (.command db d named)).1 = .error err) :
    s.engine.store.SameContents (s.read (.command db d named)).2.engine.store := by
  unfold read send withBinding at hfail ⊢
  cases hstate : s.isClosed with
  | true =>
    rw [acquire_of_closed hstate]
    exact .refl _
  | false =>
    obtain ⟨s₁, hacquire, hheld, hopen, -, -⟩ := acquire_serving h hstate
    have hstore : s₁.engine.store = s.engine.store := by
      have hsame := (engine_acquire s).1
      rw [hacquire] at hsame
      exact hsame
    have hsound₁ : s₁.engine.Sound := by
      have hspares : Engine.Spares 0 s.engine s.acquire.2.engine := spares_acquire hsound
      rw [hacquire] at hspares
      exact hspares.sound
    have hframe := s₁.engine.command_frame s.engine.nextConnection db.text d
    rw [hacquire] at hfail ⊢
    unfold Request.run Server.command answered at hfail ⊢
    simp only [ReadRequest.request] at hfail ⊢
    rcases hcommand : s₁.engine.command s.engine.nextConnection db.text d with ⟨answer, e⟩
    rw [hcommand] at hframe hfail
    cases answer with
    | error err' =>
      show s.engine.store.SameContents (release _ s.engine.nextConnection).2.engine.store
      rw [store_release, ← hstore]
      exact hsound₁.contents_of_command_error hcommand
    | ok reply =>
      have hstill : Server.isClosed ⟨e, s₁.bindings⟩ = false := by
        obtain ⟨store, cursors, nextCursor, counters, rfl⟩ := hframe
        exact hopen
      have hfail : conclude id (.ok reply)
          (release ⟨e, s₁.bindings⟩ s.engine.nextConnection).1 = .error err := hfail
      rcases hrelease : release ⟨e, s₁.bindings⟩ s.engine.nextConnection with ⟨released, s₂⟩
      obtain ⟨-, -, hreleased, -⟩ := (hheld.of_alike hframe).release hrelease
      rw [show Server.isClosed { s₁ with engine := e } = false from hstill] at hreleased
      rw [hrelease, hreleased] at hfail
      cases hfail

end Server

/-- **What requests that ask leave alone.** On a server in use, a request that asks leaves the store as it
is, unless it sends a document of the caller's own that is named for an insert or a drop. Such a document
leaves what is stored if it fails. But if it is the document of a request that changes something, it does
to the server what this one does. -/
theorem reads_keep_contents {w : World} (h : w.Reachable) :
    (∀ {α : Type} (r : ReadRequest α), r.namesChange = false →
      (w.server.read r).2.engine.store = w.server.engine.store) ∧
    (∀ {α : Type} (r : ReadRequest α) (err : ClientError), (w.server.read r).1 = .error err →
      w.server.engine.store.SameContents (w.server.read r).2.engine.store) ∧
    ∀ {α : Type} (r : WriteRequest α) (named : r.request.command.isEmpty = false),
      (w.server.read (.command r.request.database r.request.command named)).2
        = (w.server.write r).2 := by
  have hkeeps : ∀ {α : Type} (r : ReadRequest α), r.namesChange = false →
      (w.server.read r).2.engine.store = w.server.engine.store :=
    fun r hr => w.server.store_send r.request (r.namesChange_request.trans hr)
  refine ⟨hkeeps, fun r err hfail => ?_, fun r named => w.server.snd_send_eq rfl rfl⟩
  cases hr : r.namesChange with
  | false =>
    rw [hkeeps r hr]
    exact .refl _
  | true =>
    cases r with
    | command db d named =>
      exact Server.contents_of_raw_error h.server.accounts h.apart.sound hfail
    | count | aggregate | getMore | listCollections | listDatabases => cases hr

/-- A document is stored. Then a document of the caller's own runs a pipeline, one fails to insert the
document again, and one drops the collection. -/
theorem reads_keep_contents_of_three :
    let host : Host := { ids := fun _ => "", showTime := fun _ => "" }
    let notes : Namespace := ⟨⟨"db", by decide⟩, "notes", by decide⟩
    let insert : WriteRequest Nat := .insert notes [⟨[("_id", .ofNat 1)]⟩] rfl
    let drop : WriteRequest Bool := .dropCollection notes
    let aggregate : ReadRequest CursorBatch := .aggregate notes [] none
    ∃ s₀, Server.start {} host = .ok s₀ ∧
      let s := (World.Call.after (.write insert) ⟨s₀, []⟩).server
      (s.read (.command notes.database aggregate.request.command rfl)).2.engine.store
        = s.engine.store ∧
      (∃ err, (s.read (.command notes.database insert.request.command rfl)).1 = .error err ∧
        s.engine.store.SameContents
          (s.read (.command notes.database insert.request.command rfl)).2.engine.store) ∧
      (s.read (.command notes.database drop.request.command rfl)).2 = (s.write drop).2 := by
  intro host notes insert drop aggregate
  obtain ⟨s₀, hstart⟩ : ∃ s₀, Server.start {} host = .ok s₀ := ⟨_, rfl⟩
  refine ⟨s₀, hstart, ?_⟩
  intro s
  have hreachable : World.Reachable (World.Call.after (.write insert) ⟨s₀, []⟩) :=
    (World.Reachable.start hstart).call (.write insert)
  obtain ⟨hkeeps, hfails, hsame⟩ := reads_keep_contents hreachable
  have hfail : (s.read (.command notes.database insert.request.command rfl)).1.toOption.isNone
      = true := by
    obtain rfl := Except.ok.inj hstart
    decide +kernel
  rcases hanswer : (s.read (.command notes.database insert.request.command rfl)).1 with err | reply
  · exact ⟨hkeeps _ rfl, ⟨err, rfl, hfails _ err hanswer⟩, hsame drop rfl⟩
  · rw [hanswer] at hfail
    cases hfail

/-- **A request that asks may change what is stored**: one that sends an insert of the caller's own. -/
theorem raw_insert_changes_catalog :
    let host : Host := { ids := fun _ => "", showTime := fun _ => "" }
    let insert : Document := ⟨[("insert", .string "notes"),
      ("documents", .array [.object [("_id", .ofNat 1)]])]⟩
    let r : ReadRequest Document := .command ⟨"db", by decide⟩ insert rfl
    ∃ s, Server.start {} host = .ok s ∧ s.engine.store.catalog.documents "db" "notes" = [] ∧
      (s.read r).2.engine.store.catalog.documents "db" "notes" = [⟨[("_id", .ofNat 1)]⟩] := by
  intro host insert r
  exact ⟨_, rfl, by cbv, by cbv⟩

end DocStore
