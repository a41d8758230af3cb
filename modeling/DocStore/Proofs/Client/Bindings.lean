import DocStore.Client.Basic
import DocStore.Proofs.Engine.Commands

/-!
# DocStore — what a client's calls do to cursors

Every call of a client comes down to a few pieces of work on the engine: connections are opened and
closed, and commands are run. So a call spares a cursor as long as none of its commands fetches from
it, through however many bindings they are sent.

* **`Server.spares_withBinding`** — work with a binding spares a cursor if the work itself does.
* **`Server.spares_read`**, **`spares_write`** — a request spares a cursor unless it is a `getMore` for
  it.
* **`Operation.spares_run`** — so does an operation all of whose commands do (`Operation.Avoids`).
-/

namespace DocStore

/-- An integer is read back if 64 bits hold it. -/
theorem Value.asInt?_ofInt (n : Int) : (Value.ofInt n).asInt? = if n < 2 ^ 63 then some n else none :=
  rfl

variable {id : CursorId}

namespace Server

/-! ## §1 — bindings -/

/-- A server that starts has an engine that starts, and an empty account. -/
theorem start_eq_ok {options : Options} {host : Host} {s : Server}
    (h : Server.start options host = .ok s) :
    ∃ e, Engine.start options host = .ok e ∧ s = ⟨e, {}⟩ := by
  unfold Server.start at h
  split at h
  · cases h
  · next e hstart => exact ⟨e, hstart, (Except.ok.inj h).symm⟩

theorem spares_acquire {s : Server} (h : s.engine.Sound) :
    Engine.Spares id s.engine s.acquire.2.engine := by
  have hopen : Engine.Spares id s.engine s.engine.openConnection.2 := Engine.spares_openConnection h
  unfold acquire
  split
  · exact h.spares_self
  · split
    · next heq =>
      rw [heq] at hopen
      exact hopen
    · next heq =>
      rw [heq] at hopen
      exact hopen

theorem spares_release {s : Server} (h : s.engine.Sound) (binding : ConnectionId) :
    Engine.Spares id s.engine (s.release binding).2.engine := by
  have hclose : Engine.Spares id s.engine (s.engine.closeConnection binding).2 :=
    Engine.spares_closeConnection h binding
  unfold release
  split
  · next heq =>
    rw [heq] at hclose
    exact hclose
  · next heq =>
    rw [heq] at hclose
    exact hclose

/-- **Work with a binding**: either there is none, or the binding is acquired, the work is run, and
the binding is released. -/
theorem withBinding_cases {ε α : Type} (failure : ClientError → ε)
    (work : ConnectionId → Server → Except ε α × Server) (s : Server) :
    (∃ err, s.acquire.1 = .error err ∧ s.withBinding failure work = (.error (failure err), s.acquire.2)) ∨
      ∃ binding, s.acquire.1 = .ok binding ∧
        s.withBinding failure work =
          (conclude failure (work binding s.acquire.2).1 ((work binding s.acquire.2).2.release binding).1,
            ((work binding s.acquire.2).2.release binding).2) := by
  unfold withBinding
  rcases s.acquire with ⟨answer, s₁⟩
  cases answer with
  | error err => exact Or.inl ⟨err, rfl, rfl⟩
  | ok binding => exact Or.inr ⟨binding, rfl, rfl⟩

theorem spares_withBinding {ε α : Type} {failure : ClientError → ε}
    {work : ConnectionId → Server → Except ε α × Server} {s : Server} (h : s.engine.Sound)
    (hwork : ∀ binding, s.acquire.1 = .ok binding →
      Engine.Spares id s.acquire.2.engine (work binding s.acquire.2).2.engine) :
    Engine.Spares id s.engine (s.withBinding failure work).2.engine := by
  rcases withBinding_cases failure work s with ⟨err, -, hrun⟩ | ⟨binding, hbinding, hrun⟩
  · rw [hrun]
    exact spares_acquire h
  · rw [hrun]
    have hdone := (spares_acquire h).trans (hwork binding hbinding)
    exact hdone.trans (spares_release hdone.sound binding)

/-- If work with a binding has a value, the work itself has it. -/
theorem withBinding_eq_ok {ε α : Type} {failure : ClientError → ε}
    {work : ConnectionId → Server → Except ε α × Server} {s : Server} {a : α}
    (h : (s.withBinding failure work).1 = .ok a) :
    ∃ binding, (work binding s.acquire.2).1 = .ok a ∧
      (s.withBinding failure work).2 = ((work binding s.acquire.2).2.release binding).2 := by
  rcases withBinding_cases failure work s with ⟨err, -, hrun⟩ | ⟨binding, -, hrun⟩
  · rw [hrun] at h
    cases h
  · refine ⟨binding, ?_, by rw [hrun]⟩
    rw [hrun] at h
    unfold conclude at h
    split at h
    · next hresult _ =>
      rw [hresult]
      exact h
    · cases h
    · cases h

/-! ## §2 — requests -/

theorem spares_command {s : Server} (h : s.engine.Sound) (binding : ConnectionId) (db : String)
    {d : Document} (hd : d.fetchedId? = some id → id = 0) :
    Engine.Spares id s.engine (s.command binding db d).2.engine :=
  Engine.spares_command h binding db hd

/-- A request sends one command, and has the reply to it read. -/
theorem engine_run {α : Type} (r : Request α) (binding : ConnectionId) (s : Server) :
    (r.run binding s).2 = (s.command binding r.database.text r.command).2 := by
  unfold Request.run
  split
  · next heq => rw [heq]
  · next heq => rw [heq]

theorem spares_send {α : Type} {s : Server} (h : s.engine.Sound) (r : Request α)
    (hr : r.command.fetchedId? = some id → id = 0) :
    Engine.Spares id s.engine (s.send r).2.engine := by
  refine spares_withBinding h fun binding _ => ?_
  rw [engine_run]
  have hacquire : Engine.Spares id s.engine s.acquire.2.engine := spares_acquire h
  exact spares_command hacquire.sound binding _ hr

/-- **A request that asks** spares a cursor unless it fetches from it. -/
theorem spares_read {α : Type} {s : Server} (h : s.engine.Sound) (r : ReadRequest α)
    (hr : r.request.command.fetchedId? = some id → id = 0) :
    Engine.Spares id s.engine (s.read r).2.engine :=
  spares_send h r.request hr

theorem fetchedId?_writeRequest {α : Type} (r : WriteRequest α) :
    r.request.command.fetchedId? = none := by
  cases r <;> rfl

/-- **A request that changes something** spares every cursor, unless it takes it away. -/
theorem spares_write {α : Type} {s : Server} (h : s.engine.Sound) (r : WriteRequest α) :
    Engine.Spares id s.engine (s.write r).2.engine := by
  refine spares_send h r.request fun hr => ?_
  rw [fetchedId?_writeRequest] at hr
  cases hr

/-- A `getMore` of a client fetches from the cursor it is made for, or, if the id is too great to be
written, from none. -/
theorem fetchedId?_getMore {ns : Namespace} {other : CursorId} {batchSize : Option Nat}
    (h : (ReadRequest.getMoreCommand ns other batchSize).fetchedId? = some id) :
    other = id := by
  have hfield : (Value.ofInt other).asInt? = some id := h
  rw [Value.asInt?_ofInt] at hfield
  split at hfield
  · exact Option.some.inj hfield
  · cases hfield

/-! ## §3 — maintenance -/

theorem spares_pump {s : Server} (h : s.engine.Sound) :
    Engine.Spares id s.engine s.pump.2.engine := by
  unfold pump
  split
  · exact h.spares_self
  · exact Engine.spares_pump h

theorem spares_close {s : Server} (h : s.engine.Sound) :
    Engine.Spares id s.engine s.close.2.engine :=
  Engine.spares_close h

theorem spares_withHost {s : Server} (h : s.engine.Sound) (host : Host) :
    Engine.Spares id s.engine (s.withHost host).engine :=
  Engine.spares_of_eq h rfl rfl

end Server

/-- Inserting a value draws an id at the most, and sends a request. -/
theorem TypedCollection.spares_insert {α : Type} (c : TypedCollection α) (v : Value) {s : Server}
    (h : s.engine.Sound) : Engine.Spares id s.engine (c.insert v s).2.engine := by
  have hsend : ∀ (d : Document) (s : Server), s.engine.Sound →
      Engine.Spares id s.engine (c.insertEncoded d s).2.engine := by
    intro d s h
    unfold insertEncoded
    split
    · exact h.spares_self
    · next request _ =>
      have hwrite : Engine.Spares id s.engine (s.write request).2.engine := Server.spares_write h request
      split
      · next heq =>
        rw [heq] at hwrite
        exact hwrite
      · next heq =>
        rw [heq] at hwrite
        exact hwrite
      · next heq =>
        rw [heq] at hwrite
        exact hwrite
  unfold insert
  split
  · exact Server.spares_withHost h _
  · next d host _ =>
    have hdrawn : Engine.Spares id s.engine (s.withHost host).engine := Server.spares_withHost h host
    exact hdrawn.trans (hsend d _ hdrawn.sound)

namespace Operation

/-! ## §4 — operations -/

/-- None of the commands that an operation comes to send fetches from the cursor of an id. -/
def Avoids (id : CursorId) {α : Type} : Operation α → ConnectionId → Server → Prop
  | done _, _, _ => True
  | fail _, _, _ => True
  | breakOff, _, _ => True
  | command db d next, binding, s =>
    (d.fetchedId? = some id → id = 0) ∧
      (next (s.command binding db d).1).Avoids id binding (s.command binding db d).2
  | execute inner next, binding, s =>
    (∀ own, s.acquire.1 = .ok own → inner.Avoids id own s.acquire.2) ∧
      match s.withBinding .error inner.run with
      | (.ok value, s) => (next (.ok value)).Avoids id binding s
      | (.error (.error e), s) => (next (.error e)).Avoids id binding s
      | (.error .brokenOff, _) => True
  | close next, binding, s => (next s.close.1).Avoids id binding s.close.2
  | inspect next, binding, s => (next binding s.bindings).Avoids id binding s

/-- The id `0` is no cursor's, so every operation avoids it. -/
theorem avoids_zero {α : Type} (o : Operation α) (binding : ConnectionId) (s : Server) :
    o.Avoids 0 binding s := by
  induction o generalizing binding s with
  | done value => trivial
  | fail e => trivial
  | breakOff => trivial
  | command db d next ih => exact ⟨fun _ => rfl, ih _ _ _⟩
  | execute inner next ihInner ihNext =>
    unfold Avoids
    refine ⟨fun own _ => ihInner own _, ?_⟩
    split
    · exact ihNext _ _ _
    · exact ihNext _ _ _
    · trivial
  | close next ih => exact ih _ _ _
  | inspect next ih => exact ih _ _ _ _

/-- **An operation that avoids a cursor spares it.** Induction over the operation, one case for each
step that it can begin with. -/
theorem spares_run {α : Type} (o : Operation α) {binding : ConnectionId} {s : Server}
    (h : s.engine.Sound) (ho : o.Avoids id binding s) :
    Engine.Spares id s.engine (o.run binding s).2.engine := by
  induction o generalizing binding s with
  | done value => exact h.spares_self
  | fail e => exact h.spares_self
  | breakOff => exact h.spares_self
  | command db d next ih =>
    have hsent : Engine.Spares id s.engine (s.command binding db d).2.engine :=
      Server.spares_command h binding db ho.1
    exact hsent.trans (ih _ hsent.sound ho.2)
  | execute inner next ihInner ihNext =>
    unfold Avoids at ho
    obtain ⟨hown, hnext⟩ := ho
    have hinner : Engine.Spares id s.engine (s.withBinding .error inner.run).2.engine := by
      have hacquire : Engine.Spares id s.engine s.acquire.2.engine := Server.spares_acquire h
      exact Server.spares_withBinding h fun own hbinding =>
        ihInner hacquire.sound (hown own hbinding)
    unfold Operation.run
    -- a value and an error are handed on, and breaking off ends the run with the inner one
    show Engine.Spares id s.engine
      (match s.withBinding Failure.error inner.run with
        | (.ok value, s) => (next (.ok value)).run binding s
        | (.error (.error e), s) => (next (.error e)).run binding s
        | (.error .brokenOff, s) => (.error .brokenOff, s)).2.engine
    rcases hrun : s.withBinding Failure.error inner.run with ⟨answer, s'⟩
    rw [hrun] at hinner hnext
    match answer with
    | .ok value => exact hinner.trans (ihNext _ hinner.sound hnext)
    | .error (.error e) => exact hinner.trans (ihNext _ hinner.sound hnext)
    | .error .brokenOff => exact hinner
  | close next ih =>
    have hclosed : Engine.Spares id s.engine s.close.2.engine := Server.spares_close h
    exact hclosed.trans (ih _ hclosed.sound ho)
  | inspect next ih => exact ih _ _ h ho

end Operation

end DocStore
