import DocStore.Proofs.Engine.Refusals
import DocStore.Proofs.Engine.Snapshot

/-!
# DocStore — the life of an engine

An engine is open from its start until it is closed, and closed from then on. While it is open, its
connections are those that were opened and not closed by whoever holds them. From its end on, it holds
nothing and refuses all work.

* **`Engine.Lifetime`** — an engine together with the account of its connections, call by call.
* **`Engine.Lifetime.Orderly.after`** — the step: one call keeps the account true.
* **`engine_lifecycle`** — the main statement, for runs of any calls on any connections.
-/

namespace DocStore

namespace Engine

/-! ## §1 — calls and their failures -/

/-- The failure in an answer, if it is one. -/
def failureIn {α : Type} : Except EngineError α → Option EngineError
  | .ok _ => none
  | .error err => some err

namespace Call

/-- How a call fails, if it does. -/
def failure? : Call → Engine → Option EngineError
  | openConnection, e => failureIn e.openConnection.1
  | closeConnection connection, e => failureIn (e.closeConnection connection).1
  | command connection db d, e => failureIn (e.command connection db d).1
  | pump, e => failureIn e.pump.1
  | close, e => failureIn e.close.1
  | move _, _ => none

/-- The connection that a call is made on. -/
def connection? : Call → Option ConnectionId
  | closeConnection connection | command connection _ _ => some connection
  | _ => none

end Call

theorem failureIn_ne_unknownConnection {α : Type} {x : Except EngineError α} (h : OfWork x)
    (id : ConnectionId) : failureIn x ≠ some (.unknownConnection id) := by
  cases x with
  | ok a => exact nofun
  | error err =>
    intro hfail
    obtain rfl : err = .unknownConnection id := Option.some.inj hfail
    have hwork := h _ rfl
    cases hwork

/-! ## §2 — the account of the connections -/

/-- An engine, and what has become of its connections in the hands of others. -/
structure Lifetime where
  engine : Engine
  /-- The connections that were opened, in order. -/
  opened : List ConnectionId := []
  /-- Those of them that were not closed. Closing the engine closes none of them. -/
  held : List ConnectionId := []

namespace Lifetime

def after (w : Lifetime) : Call → Lifetime
  | .openConnection =>
    match w.engine.openConnection with
    | (.ok id, e) => ⟨e, w.opened ++ [id], w.held ++ [id]⟩
    | (.error _, e) => ⟨e, w.opened, w.held⟩
  | .closeConnection connection =>
    ⟨(w.engine.closeConnection connection).2, w.opened, w.held.erase connection⟩
  | c => ⟨c.after w.engine, w.opened, w.held⟩

def run (w : Lifetime) (calls : List Call) : Lifetime := calls.foldl after w

variable {w : Lifetime}

theorem engine_after (w : Lifetime) (c : Call) : (w.after c).engine = c.after w.engine := by
  cases c with
  | openConnection =>
    simp only [after, Call.after]
    split
    · next heq => rw [heq]
    · next heq => rw [heq]
  | _ => rfl

/-- The account is true: every connection was given an id of its own, the engine has counted all of
them, and while it is open it knows those that are held. A closed engine knows and holds nothing. -/
structure Orderly (w : Lifetime) : Prop where
  distinct : w.opened.Nodup
  given : ∀ id ∈ w.opened, id < w.engine.nextConnection
  counted : w.engine.totalConnections = w.opened.length
  within : w.held.Sublist w.opened
  connections : w.engine.connections = if w.engine.closed then [] else w.held
  cursors : w.engine.closed = true → w.engine.cursors = []

theorem orderly_of_start {options : Options} {host : Host} {e : Engine}
    (h : Engine.start options host = .ok e) : Orderly { engine := e } := by
  obtain ⟨store, -, rfl⟩ := Engine.start_eq_ok h
  exact ⟨List.nodup_nil, by simp, rfl, List.Sublist.refl _, rfl, fun _ => rfl⟩

/-- Work that does not deal with connections keeps the account, as long as a closed engine does none
of it. -/
theorem Orderly.of_alike (h : w.Orderly) {e : Engine} (halike : w.engine.Alike e)
    (hclosed : w.engine.closed = true → e = w.engine) : Orderly { w with engine := e } := by
  have hcursors : w.engine.closed = true → e.cursors = [] := by
    intro hclosed'
    rw [hclosed hclosed']
    exact h.cursors hclosed'
  obtain ⟨store, cursors, nextCursor, counters, rfl⟩ := halike
  exact ⟨h.distinct, h.given, h.counted, h.within, h.connections, hcursors⟩

end Lifetime

/-! ## §3 — a closed engine -/

variable {e : Engine}

theorem openConnection_of_closed (h : e.closed = true) :
    e.openConnection = (.error .shutdownInProgress, e) := by
  unfold openConnection
  rw [if_pos h]

theorem command_of_closed (h : e.closed = true) (connection : ConnectionId) (db : String)
    (d : Document) : e.command connection db d = (.error .shutdownInProgress, e) := by
  unfold command
  rw [if_pos h]

theorem closeConnection_of_empty (h : e.closed = true) (hnone : e.connections = [])
    (connection : ConnectionId) :
    e.closeConnection connection = (.error .shutdownInProgress, e) := by
  unfold closeConnection
  rw [hnone, if_neg (by simp), if_pos h]

theorem pump_of_closed (h : e.closed = true) : e.pump = (.error .shutdownInProgress, e) := by
  unfold pump
  rw [if_pos h]

theorem close_of_closed (h : e.closed = true) : e.close = (.ok (), e) := by
  unfold close
  rw [if_pos h]

/-- **A closed engine without connections** refuses every call but a close, which it agrees to, and no
call changes it. -/
theorem Call.of_closed (h : e.closed = true) (hnone : e.connections = []) {c : Call}
    (hmove : ∀ host, c ≠ .move host) :
    c.after e = e ∧ (c = .close ∧ c.failure? e = none ∨
      c ≠ .close ∧ c.failure? e = some .shutdownInProgress) := by
  cases c with
  | openConnection =>
    simp only [Call.after, Call.failure?, openConnection_of_closed h]
    exact ⟨trivial, Or.inr ⟨by simp, rfl⟩⟩
  | closeConnection connection =>
    simp only [Call.after, Call.failure?, closeConnection_of_empty h hnone]
    exact ⟨trivial, Or.inr ⟨by simp, rfl⟩⟩
  | command connection db d =>
    simp only [Call.after, Call.failure?, command_of_closed h]
    exact ⟨trivial, Or.inr ⟨by simp, rfl⟩⟩
  | pump =>
    simp only [Call.after, Call.failure?, pump_of_closed h]
    exact ⟨trivial, Or.inr ⟨by simp, rfl⟩⟩
  | close =>
    simp only [Call.after, Call.failure?, close_of_closed h]
    exact ⟨trivial, Or.inl ⟨trivial, rfl⟩⟩
  | move host => exact absurd rfl (hmove host)

/-! ## §4 — runs of calls -/

theorem closed_after (e : Engine) (c : Call) :
    (c.after e).closed = true ↔ e.closed = true ∨ c = .close := by
  cases c with
  | openConnection =>
    simp only [Call.after, openConnection]
    split <;> simp
  | closeConnection connection =>
    simp only [Call.after, closeConnection]
    split
    · simp
    · split <;> simp
  | command connection db d =>
    obtain ⟨store, cursors, nextCursor, counters, halike⟩ := e.command_frame connection db d
    simp [Call.after, halike]
  | pump =>
    simp only [Call.after, pump]
    split
    · simp
    · split <;> simp
  | close =>
    simp only [Call.after, close]
    split <;> simp_all
  | move host => simp [Call.after]

namespace Lifetime

variable {w : Lifetime}

/-- **A connection is opened**, with an id that none has had. -/
theorem Orderly.openConnection (h : w.Orderly) : (w.after .openConnection).Orderly := by
  cases hclosed : w.engine.closed with
  | true =>
    simp only [after, openConnection_of_closed hclosed]
    exact h
  | false =>
    have hopen : w.engine.openConnection = (.ok w.engine.nextConnection, { w.engine with
        connections := w.engine.connections ++ [w.engine.nextConnection]
        nextConnection := w.engine.nextConnection + 1
        totalConnections := w.engine.totalConnections + 1 }) := by
      unfold Engine.openConnection
      rw [if_neg (by simp [hclosed])]
    have hfresh : w.engine.nextConnection ∉ w.opened :=
      fun hmem => Nat.lt_irrefl _ (h.given _ hmem)
    have hconnections := h.connections
    rw [hclosed, if_neg (by simp)] at hconnections
    simp only [after, hopen]
    refine ⟨?_, fun id hid => ?_, ?_, h.within.append (List.Sublist.refl _), ?_, fun hclosed' => ?_⟩
    · rw [List.nodup_append]
      refine ⟨h.distinct, by simp, fun id hid other hother heq => ?_⟩
      rw [heq, List.mem_singleton.mp hother] at hid
      exact hfresh hid
    · show id < w.engine.nextConnection + 1
      rcases List.mem_append.mp hid with hold | hnew
      · exact Nat.lt_succ_of_lt (h.given id hold)
      · rw [List.mem_singleton.mp hnew]
        exact Nat.lt_succ_self _
    · show w.engine.totalConnections + 1 = _
      rw [h.counted, List.length_append, List.length_singleton]
    · show w.engine.connections ++ _ = if w.engine.closed then [] else _
      rw [hconnections, hclosed, if_neg (by simp)]
    · have hclosed' : w.engine.closed = true := hclosed'
      rw [hclosed] at hclosed'
      cases hclosed'

/-- **A connection is closed** by whoever holds it. Nobody else's goes with it. -/
theorem Orderly.closeConnection (h : w.Orderly) (connection : ConnectionId) :
    (w.after (.closeConnection connection)).Orderly := by
  have hwithin : (w.held.erase connection).Sublist w.opened := List.erase_sublist.trans h.within
  have hconnections := h.connections
  simp only [after]
  cases hclosed : w.engine.closed with
  | true =>
    rw [if_pos hclosed] at hconnections
    rw [closeConnection_of_empty hclosed hconnections]
    refine ⟨h.distinct, h.given, h.counted, hwithin, ?_, h.cursors⟩
    show w.engine.connections = if w.engine.closed then [] else _
    rw [if_pos hclosed, hconnections]
  | false =>
    rw [if_neg (by simp [hclosed])] at hconnections
    unfold Engine.closeConnection
    by_cases hheld : connection ∈ w.held
    · rw [if_pos (by simpa [hconnections] using hheld)]
      refine ⟨h.distinct, h.given, h.counted, hwithin, ?_, h.cursors⟩
      show w.engine.connections.erase connection = if w.engine.closed then [] else _
      rw [hconnections, if_neg (by simp [hclosed])]
    · -- an id that is not held is no connection of the engine either
      rw [if_neg (by simpa [hconnections] using hheld), if_neg (by simp [hclosed])]
      refine ⟨h.distinct, h.given, h.counted, hwithin, ?_, h.cursors⟩
      show w.engine.connections = if w.engine.closed then [] else _
      rw [if_neg (by simp [hclosed]), hconnections, List.erase_of_not_mem hheld]

/-- **One call** keeps the account. -/
theorem Orderly.after (h : w.Orderly) (c : Call) : (w.after c).Orderly := by
  cases c with
  | openConnection => exact h.openConnection
  | closeConnection connection => exact h.closeConnection connection
  | command connection db d =>
    refine h.of_alike (w.engine.command_frame connection db d) fun hclosed => ?_
    show (w.engine.command connection db d).2 = w.engine
    rw [command_of_closed hclosed]
  | pump =>
    refine h.of_alike ?_ fun hclosed => ?_
    · show w.engine.Alike w.engine.pump.2
      unfold Engine.pump
      split
      · exact Alike.refl _
      · split <;> exact ⟨_, _, _, _, rfl⟩
    · show w.engine.pump.2 = w.engine
      rw [pump_of_closed hclosed]
  | close =>
    show Orderly { w with engine := w.engine.close.2 }
    cases hclosed : w.engine.closed with
    | true =>
      rw [close_of_closed hclosed]
      exact h
    | false =>
      unfold Engine.close
      rw [if_neg (by simp [hclosed])]
      exact ⟨h.distinct, h.given, h.counted, h.within, rfl, fun _ => rfl⟩
  | move host =>
    exact ⟨h.distinct, h.given, h.counted, h.within, h.connections, h.cursors⟩

/-- **A run of calls** keeps the account, and the engine is closed after it exactly if a close is among
the calls. Induction on the calls. -/
theorem Orderly.run (h : w.Orderly) (calls : List Call) :
    (w.run calls).Orderly ∧
      ((w.run calls).engine.closed = true ↔ w.engine.closed = true ∨ .close ∈ calls) := by
  induction calls generalizing w with
  | nil => exact ⟨h, by simp [Lifetime.run]⟩
  | cons c calls ih =>
    obtain ⟨horderly, hclosed⟩ := ih (h.after c)
    refine ⟨horderly, hclosed.trans ?_⟩
    rw [engine_after, closed_after, List.mem_cons, or_assoc, eq_comm (a := c)]

/-- **Whoever holds a connection** is never told that there is no such connection. -/
theorem Orderly.knows (h : w.Orderly) {c : Call}
    (hheld : ∀ connection, c.connection? = some connection → connection ∈ w.held)
    (id : ConnectionId) : c.failure? w.engine ≠ some (.unknownConnection id) := by
  have hconnections := h.connections
  cases hclosed : w.engine.closed with
  | true =>
    rw [if_pos hclosed] at hconnections
    by_cases hmove : ∃ host, c = .move host
    · obtain ⟨host, rfl⟩ := hmove
      exact nofun
    · obtain ⟨-, ⟨-, hagrees⟩ | ⟨-, hrefuses⟩⟩ :=
        Call.of_closed hclosed hconnections fun host heq => hmove ⟨host, heq⟩
      · rw [hagrees]
        exact nofun
      · rw [hrefuses]
        simp
  | false =>
    rw [if_neg (by simp [hclosed])] at hconnections
    rw [← hconnections] at hheld
    cases c with
    | openConnection =>
      simp [Call.failure?, Engine.openConnection, hclosed, failureIn]
    | closeConnection connection =>
      have hknown := hheld connection rfl
      simp [Call.failure?, Engine.closeConnection, hknown, failureIn]
    | command connection db d =>
      exact failureIn_ne_unknownConnection
        (w.engine.ofWork_command hclosed (hheld connection rfl) db d) id
    | pump => exact failureIn_ne_unknownConnection (w.engine.ofWork_pump hclosed) id
    | close => exact failureIn_ne_unknownConnection w.engine.ofWork_close id
    | move host => exact nofun

end Lifetime

end Engine

/-- **The life of an engine.** Let any calls be made on an engine that has been started, by anyone and
on any connections, while the host goes its own way. No two of the connections that were opened have the
same id, as long as 64 bits hold the ids, and the engine has counted them. It is closed exactly if a
close is among the calls, whatever its answer was. Until then its connections are those that were opened
and not closed, and from then on it has neither connections nor cursors, agrees to be closed again,
refuses every other call because it is shut down, and is changed by none. A call on a connection that is
held is never answered that there is no such connection. -/
theorem engine_lifecycle {options : Options} {host : Host} {e : Engine}
    (hstart : Engine.start options host = .ok e) (calls : List Engine.Call) :
    let w := Engine.Lifetime.run { engine := e } calls
    w.opened.Nodup ∧ w.engine.totalConnections = w.opened.length ∧
      (w.engine.closed = true ↔ .close ∈ calls) ∧
      (.close ∉ calls → w.engine.connections = w.held) ∧
      (.close ∈ calls → w.engine.connections = [] ∧ w.engine.cursors = [] ∧
        ∀ c : Engine.Call, (∀ host, c ≠ .move host) → c.after w.engine = w.engine ∧
          (c = .close ∧ c.failure? w.engine = none ∨
            c ≠ .close ∧ c.failure? w.engine = some .shutdownInProgress)) ∧
      ∀ c : Engine.Call, (∀ connection, c.connection? = some connection → connection ∈ w.held) →
        ∀ id, c.failure? w.engine ≠ some (.unknownConnection id) := by
  intro w
  have hopen : e.closed = false := by
    obtain ⟨store, -, rfl⟩ := Engine.start_eq_ok hstart
    rfl
  obtain ⟨horderly, hclosed⟩ := (Engine.Lifetime.orderly_of_start hstart).run calls
  have hclosed : w.engine.closed = true ↔ .close ∈ calls := by simpa [hopen] using hclosed
  have hconnections := horderly.connections
  refine ⟨horderly.distinct, horderly.counted, hclosed, fun hnone => ?_, fun hsome => ?_,
    fun c hheld => horderly.knows hheld⟩
  · rw [if_neg fun hclosed' => hnone (hclosed.mp hclosed')] at hconnections
    exact hconnections
  · rw [if_pos (hclosed.mpr hsome)] at hconnections
    exact ⟨hconnections, horderly.cursors (hclosed.mpr hsome),
      fun c hmove => Engine.Call.of_closed (hclosed.mpr hsome) hconnections hmove⟩

/-- A journal that cannot be synced: the close of the engine fails, and the engine is closed. Of its two
connections one had been closed before, and the other one is held to the end. -/
theorem engine_lifecycle_of_failed_flush :
    let host : Host := {
      ids := fun _ => "", showTime := fun _ => "", disk := { syncFails := fun _ => true } }
    let insert : Document := ⟨[("insert", .string "notes"),
      ("documents", .array [.object [("_id", .ofNat 1)]])]⟩
    let calls : List Engine.Call :=
      [.openConnection, .openConnection, .command 1 "db" insert, .closeConnection 1]
    ∃ e, Engine.start { dbpath := some "data" } host = .ok e ∧
      let w := Engine.Lifetime.run { engine := e } calls
      let w' := Engine.Lifetime.run { engine := e } (calls ++ [.close])
      w.opened = [1, 2] ∧ w.engine.totalConnections = 2 ∧ w.engine.connections = [2] ∧
        Engine.Call.failure? .close w.engine = some .io ∧
        w'.held = [2] ∧ w'.engine.connections = [] ∧
        Engine.Call.failure? .close w'.engine = none ∧
        Engine.Call.failure? (.command 2 "db" insert) w'.engine = some .shutdownInProgress ∧
        Engine.Call.after (.command 2 "db" insert) w'.engine = w'.engine := by
  intro host insert calls
  obtain ⟨e, hstart⟩ : ∃ e, Engine.start { dbpath := some "data" } host = .ok e := ⟨_, rfl⟩
  refine ⟨e, hstart, ?_⟩
  obtain ⟨-, htotal, -, hopen, -, -⟩ := engine_lifecycle hstart calls
  obtain ⟨-, -, -, -, hclosed, -⟩ := engine_lifecycle hstart (calls ++ [.close])
  have hconnections := hopen (by simp [calls])
  obtain ⟨hnone, -, hrefuses⟩ := hclosed (by simp [calls])
  obtain ⟨-, ⟨-, hagrees⟩ | ⟨hne, -⟩⟩ := hrefuses .close nofun
  · obtain ⟨hsame, ⟨hne, -⟩ | ⟨-, hshut⟩⟩ := hrefuses (.command 2 "db" insert) nofun
    · cases hne
    · obtain rfl := Except.ok.inj hstart
      refine ⟨by decide +kernel, htotal.trans ?_, hconnections.trans ?_, ?_, ?_, hnone, hagrees,
        hshut, hsame⟩
      all_goals decide +kernel
  · exact absurd rfl hne

end DocStore
