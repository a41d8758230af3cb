import DocStore.Proofs.Client.Upkeep
import DocStore.Proofs.Engine.Frame

/-!
# DocStore — the account of bindings

A binding is acquired before an operation and released after it, whatever the operation comes to. The
account of the server is therefore always that of the bindings that are held just then: one for each
operation that is under way, the outermost first.

* **`Server.Accounts`** — the account is true of a list of bindings, which are the connections of the
  engine as long as it is open.
* **`Operation.accounts_run`**, **`Operation.accounts_moments`** — an operation leaves the account true, and
  it is true in every moment in which an operation has control, however deep. Induction over the
  operation.
* **`World.Reachable.server`** — whatever clients do comes down to operations that are executed one after
  the other.
* **`bindings_balance`** — the main statement.
-/

namespace DocStore

namespace Server

/-! ## §1 — acquiring and releasing -/

variable {s : Server} {held : List ConnectionId} {own : ConnectionId}

/-- The account of a server is true of the bindings that are held. Closing the engine takes the
connections away, but not the bindings. -/
structure Accounts (s : Server) (held : List ConnectionId) : Prop where
  failures : s.bindings.releaseFailures ≤ s.bindings.released
  balance : s.bindings.acquired = s.bindings.released + held.length
  connections : s.engine.connections = if s.isClosed then [] else held
  distinct : held.Nodup
  given : ∀ id ∈ held, id < s.engine.nextConnection

theorem acquire_of_closed (h : s.isClosed = true) : s.acquire = (.error .serverClosed, s) := by
  unfold acquire
  rw [if_pos h]

theorem acquire_of_open (h : s.isClosed = false) :
    s.acquire = (.ok s.engine.nextConnection, {
      engine := { s.engine with
        connections := s.engine.connections ++ [s.engine.nextConnection]
        nextConnection := s.engine.nextConnection + 1
        totalConnections := s.engine.totalConnections + 1 }
      bindings := { s.bindings with acquired := s.bindings.acquired + 1 } }) := by
  have hclosed : s.engine.closed = false := h
  unfold acquire Engine.openConnection
  simp [h, hclosed]

/-- A new binding is held behind the others. -/
theorem Accounts.acquire (h : s.Accounts held) (hopen : s.isClosed = false) {s₁ : Server}
    (hacquire : s.acquire = (.ok own, s₁)) :
    s₁.Accounts (held ++ [own]) ∧ s₁.isClosed = false ∧
      s₁.bindings = { s.bindings with acquired := s.bindings.acquired + 1 } := by
  rw [acquire_of_open hopen] at hacquire
  obtain ⟨hown, rfl⟩ := Prod.mk.inj hacquire
  obtain rfl := Except.ok.inj hown
  have hfresh : s.engine.nextConnection ∉ held :=
    fun hmem => Nat.lt_irrefl _ (h.given _ hmem)
  have hconnections := h.connections
  rw [hopen] at hconnections
  refine ⟨⟨h.failures, ?_, ?_, ?_, ?_⟩, hopen, rfl⟩
  · show s.bindings.acquired + 1 = _
    rw [h.balance, List.length_append, List.length_singleton, Nat.add_assoc]
  · show s.engine.connections ++ [s.engine.nextConnection] = if s.engine.closed then [] else _
    rw [show s.engine.closed = false from hopen, hconnections]
    rfl
  · rw [List.nodup_append]
    refine ⟨h.distinct, by simp, ?_⟩
    intro id hid other hother heq
    rw [heq, List.mem_singleton.mp hother] at hid
    exact hfresh hid
  · intro id hid
    show id < s.engine.nextConnection + 1
    rcases List.mem_append.mp hid with hold | hnew
    · exact Nat.lt_succ_of_lt (h.given id hold)
    · rw [List.mem_singleton.mp hnew]
      exact Nat.lt_succ_self _

theorem Accounts.own_notMem (h : s.Accounts (held ++ [own])) : own ∉ held := by
  have hdistinct := h.distinct
  rw [List.nodup_append] at hdistinct
  intro hmem
  exact hdistinct.2.2 own hmem own (List.mem_singleton.mpr rfl) rfl

theorem closeConnection_of_closed (h : s.Accounts held) (hclosed : s.isClosed = true)
    (binding : ConnectionId) :
    s.engine.closeConnection binding = (.error .shutdownInProgress, s.engine) := by
  have hconnections := h.connections
  have hengine : s.engine.closed = true := hclosed
  rw [if_pos hclosed] at hconnections
  unfold Engine.closeConnection
  rw [hconnections, if_neg (by simp), if_pos hengine]

theorem closeConnection_of_mem (h : s.Accounts held) (hopen : s.isClosed = false) (hown : own ∈ held) :
    s.engine.closeConnection own = (.ok (), { s.engine with connections := held.erase own }) := by
  have hconnections := h.connections
  rw [hopen] at hconnections
  have hconnections : s.engine.connections = held := hconnections
  unfold Engine.closeConnection
  rw [hconnections, if_pos (by simpa using hown)]

theorem Accounts.erase_append (h : s.Accounts (held ++ [own])) : (held ++ [own]).erase own = held := by
  rw [List.erase_append_right _ h.own_notMem, List.erase_cons_head, List.append_nil]

theorem closeConnection_of_open (h : s.Accounts (held ++ [own])) (hopen : s.isClosed = false) :
    s.engine.closeConnection own = (.ok (), { s.engine with connections := held }) := by
  rw [closeConnection_of_mem h hopen (List.mem_append_right _ (List.mem_singleton_self own)),
    h.erase_append]

/-- **A release** fails exactly if the server has been closed. It is counted in any case. -/
theorem Accounts.release_of_mem (h : s.Accounts held) (hown : own ∈ held)
    {released : Except ClientError Unit} {s₁ : Server} (hrelease : s.release own = (released, s₁)) :
    s₁.Accounts (held.erase own) ∧ s₁.isClosed = s.isClosed ∧
      released = (if s.isClosed then .error (.engine .shutdownInProgress) else .ok ()) ∧
      s₁.bindings = { s.bindings with
        released := s.bindings.released + 1
        releaseFailures := s.bindings.releaseFailures + if s.isClosed then 1 else 0 } := by
  have hbalance : s.bindings.acquired = s.bindings.released + 1 + (held.erase own).length := by
    have hsum := h.balance
    have hpos := List.length_pos_of_mem hown
    rw [List.length_erase_of_mem hown]
    omega
  have hdistinct : (held.erase own).Nodup := h.distinct.erase own
  have hgiven : ∀ id ∈ held.erase own, id < s.engine.nextConnection :=
    fun id hid => h.given id (List.mem_of_mem_erase hid)
  have hfailures := h.failures
  unfold Server.release at hrelease
  cases hstate : s.isClosed with
  | true =>
    rw [closeConnection_of_closed h hstate] at hrelease
    obtain ⟨rfl, rfl⟩ := Prod.mk.inj hrelease
    have hconnections := h.connections
    rw [if_pos hstate] at hconnections
    refine ⟨⟨Nat.succ_le_succ hfailures, hbalance, ?_, hdistinct, hgiven⟩, hstate, rfl, rfl⟩
    show s.engine.connections = if s.engine.closed then [] else held.erase own
    rw [hconnections, if_pos (show s.engine.closed = true from hstate)]
  | false =>
    rw [closeConnection_of_mem h hstate hown] at hrelease
    obtain ⟨rfl, rfl⟩ := Prod.mk.inj hrelease
    refine ⟨⟨Nat.le_succ_of_le hfailures, hbalance, ?_, hdistinct, hgiven⟩, hstate, rfl, rfl⟩
    show held.erase own = if s.engine.closed then [] else held.erase own
    rw [show s.engine.closed = false from hstate]
    rfl

/-- The binding that was acquired last is released. -/
theorem Accounts.release (h : s.Accounts (held ++ [own])) {released : Except ClientError Unit}
    {s₁ : Server} (hrelease : s.release own = (released, s₁)) :
    s₁.Accounts held ∧ s₁.isClosed = s.isClosed ∧
      released = (if s.isClosed then .error (.engine .shutdownInProgress) else .ok ()) ∧
      s₁.bindings = { s.bindings with
        released := s.bindings.released + 1
        releaseFailures := s.bindings.releaseFailures + if s.isClosed then 1 else 0 } := by
  have hreleased := h.release_of_mem (List.mem_append_right _ (List.mem_singleton_self own)) hrelease
  rw [h.erase_append] at hreleased
  exact hreleased

/-! ## §2 — other work -/

theorem accounts_of_start {options : Options} {host : Host} (h : Server.start options host = .ok s) :
    s.Accounts [] := by
  obtain ⟨e, hstart, rfl⟩ := start_eq_ok h
  obtain ⟨store, -, rfl⟩ := Engine.start_eq_ok hstart
  exact ⟨Nat.le_refl _, rfl, rfl, List.nodup_nil, by simp⟩

/-- Work that does not deal with connections leaves the account as it is. -/
theorem Accounts.of_alike (h : s.Accounts held) {e : Engine} (halike : s.engine.Alike e) :
    Accounts { s with engine := e } held := by
  obtain ⟨store, cursors, nextCursor, counters, rfl⟩ := halike
  exact ⟨h.failures, h.balance, h.connections, h.distinct, h.given⟩

theorem Accounts.command (h : s.Accounts held) (binding : ConnectionId) (db : String)
    (d : Document) : (s.command binding db d).2.Accounts held :=
  h.of_alike (Engine.command_frame s.engine binding db d)

/-- Closing the server leaves the bindings without connections. -/
theorem Accounts.close (h : s.Accounts held) : s.close.2.Accounts held := by
  show Accounts { s with engine := s.engine.close.2 } held
  unfold Engine.close
  split
  · exact h
  · exact ⟨h.failures, h.balance, rfl, h.distinct, h.given⟩

theorem Accounts.pump (h : s.Accounts held) : s.pump.2.Accounts held := by
  unfold Server.pump
  split
  · exact h
  · show Accounts { s with engine := s.engine.pump.2 } held
    apply h.of_alike
    unfold Engine.pump
    split
    · exact Engine.Alike.refl _
    · split <;> exact ⟨_, _, _, _, rfl⟩

theorem Accounts.withHost (h : s.Accounts held) (host : Host) : (s.withHost host).Accounts held :=
  h.of_alike ⟨_, _, _, _, rfl⟩

/-- **Work with a binding of its own** leaves the account as it is, if the work itself leaves that of
one binding more. -/
theorem Accounts.withBinding {ε α : Type} {failure : ClientError → ε}
    {work : ConnectionId → Server → Except ε α × Server} (h : s.Accounts held)
    (hwork : ∀ own s₁, s₁.Accounts (held ++ [own]) → (work own s₁).2.Accounts (held ++ [own])) :
    (s.withBinding failure work).2.Accounts held := by
  unfold Server.withBinding
  cases hstate : s.isClosed with
  | true =>
    rw [acquire_of_closed hstate]
    exact h
  | false =>
    obtain ⟨own, s₁, hacquire⟩ : ∃ own s₁, s.acquire = (.ok own, s₁) :=
      ⟨_, _, acquire_of_open hstate⟩
    rw [hacquire]
    obtain ⟨hacquired, -, -⟩ := h.acquire hstate hacquire
    have hdone := hwork own s₁ hacquired
    exact (hdone.release rfl).1

end Server

/-! ## §3 — operations -/

namespace Operation

open Server (Accounts)

/-- The moments in which an operation has control, or one that runs within it: the bindings that are
held, and the server. Outside it the bindings `outer` are held, and it runs with `binding`. An operation
that breaks off takes the control from those around it. -/
def moments {α : Type} : Operation α → List ConnectionId → ConnectionId → Server →
    List (List ConnectionId × Server)
  | done _, outer, binding, s => [(outer ++ [binding], s)]
  | fail _, outer, binding, s => [(outer ++ [binding], s)]
  | breakOff, outer, binding, s => [(outer ++ [binding], s)]
  | command db d next, outer, binding, s =>
    (outer ++ [binding], s) ::
      (next (s.command binding db d).1).moments outer binding (s.command binding db d).2
  | execute inner next, outer, binding, s =>
    let within := match s.acquire with
      | (.ok own, s) => inner.moments (outer ++ [binding]) own s
      | (.error _, _) => []
    let after := match s.withBinding .error inner.run with
      | (.ok value, s) => (next (.ok value)).moments outer binding s
      | (.error (.error e), s) => (next (.error e)).moments outer binding s
      | (.error .brokenOff, _) => []
    (outer ++ [binding], s) :: (within ++ after)
  | close next, outer, binding, s =>
    (outer ++ [binding], s) :: (next s.close.1).moments outer binding s.close.2
  | inspect next, outer, binding, s =>
    (outer ++ [binding], s) :: (next binding s.bindings).moments outer binding s

variable {s : Server} {held outer : List ConnectionId} {binding : ConnectionId}

/-- **An operation leaves the account as it is.** Induction over the operation. -/
theorem accounts_run {α : Type} (o : Operation α) (h : s.Accounts held) :
    (o.run binding s).2.Accounts held := by
  induction o generalizing held binding s with
  | done value => exact h
  | fail e => exact h
  | breakOff => exact h
  | command db d next ih => exact ih _ (h.command binding db d)
  | execute inner next ihInner ihNext =>
    have hinner : (s.withBinding Failure.error inner.run).2.Accounts held :=
      h.withBinding fun own s₁ hown => ihInner hown
    unfold Operation.run
    show (match s.withBinding Failure.error inner.run with
      | (.ok value, s) => (next (.ok value)).run binding s
      | (.error (.error e), s) => (next (.error e)).run binding s
      | (.error .brokenOff, s) => (.error .brokenOff, s)).2.Accounts held
    rcases hrun : s.withBinding Failure.error inner.run with ⟨answer, s'⟩
    rw [hrun] at hinner
    rcases answer with (e | -) | value
    · exact ihNext _ hinner
    · exact hinner
    · exact ihNext _ hinner
  | close next ih => exact ih _ h.close
  | inspect next ih => exact ih _ _ h

/-- **In every moment of an operation the account is true** of the bindings that are held then.
Induction over the operation. -/
theorem accounts_moments {α : Type} (o : Operation α) (h : s.Accounts (outer ++ [binding])) :
    ∀ moment ∈ o.moments outer binding s, moment.2.Accounts moment.1 := by
  induction o generalizing outer binding s with
  | done value =>
    intro moment hmoment
    rw [List.mem_singleton.mp hmoment]
    exact h
  | fail e =>
    intro moment hmoment
    rw [List.mem_singleton.mp hmoment]
    exact h
  | breakOff =>
    intro moment hmoment
    rw [List.mem_singleton.mp hmoment]
    exact h
  | command db d next ih =>
    intro moment hmoment
    rcases List.mem_cons.mp hmoment with rfl | hnext
    · exact h
    · exact ih _ (h.command binding db d) moment hnext
  | execute inner next ihInner ihNext =>
    have hinner : (s.withBinding Failure.error inner.run).2.Accounts (outer ++ [binding]) :=
      h.withBinding fun own s₁ hown => inner.accounts_run hown
    intro moment hmoment
    unfold moments at hmoment
    rcases List.mem_cons.mp hmoment with rfl | hlater
    · exact h
    rcases List.mem_append.mp hlater with hwithin | hafter
    · -- within, one binding more is held
      cases hstate : s.isClosed with
      | true =>
        rw [Server.acquire_of_closed hstate] at hwithin
        cases hwithin
      | false =>
        obtain ⟨own, s₁, hacquire⟩ : ∃ own s₁, s.acquire = (.ok own, s₁) :=
          ⟨_, _, Server.acquire_of_open hstate⟩
        rw [hacquire] at hwithin
        exact ihInner (h.acquire hstate hacquire).1 moment hwithin
    · rcases hrun : s.withBinding Failure.error inner.run with ⟨answer, s'⟩
      rw [hrun] at hinner
      simp only [hrun] at hafter
      match answer with
      | .ok value => exact ihNext _ hinner moment hafter
      | .error (.error e) => exact ihNext _ hinner moment hafter
      | .error .brokenOff => cases hafter
  | close next ih =>
    intro moment hmoment
    rcases List.mem_cons.mp hmoment with rfl | hnext
    · exact h
    · exact ih _ h.close moment hnext
  | inspect next ih =>
    intro moment hmoment
    rcases List.mem_cons.mp hmoment with rfl | hnext
    · exact h
    · exact ih _ _ h moment hnext

end Operation

/-! ## §4 — whatever clients do -/

namespace Server

/-- The servers that one comes to by executing operations, one after the other, while the host goes its
own way. Between two operations control is with the caller. -/
inductive Reachable : Server → Prop where
  | start {options : Options} {host : Host} {s : Server} (h : Server.start options host = .ok s) :
      Reachable s
  | execute {s : Server} (h : Reachable s) {α : Type} (o : Operation α) : Reachable (s.execute o).2
  | pump {s : Server} (h : Reachable s) : Reachable s.pump.2
  | close {s : Server} (h : Reachable s) : Reachable s.close.2
  | move {s : Server} (h : Reachable s) (host : Host) : Reachable (s.withHost host)

theorem upheld_reachable : Upheld (fun _ => True) Reachable :=
  ⟨usual_any, fun h _ o _ => .execute h o, .pump, .close, .move⟩

/-- The bindings that are held stay held, whatever others do. -/
theorem upheld_accounts (held : List ConnectionId) : Upheld (fun _ => True) fun s => s.Accounts held :=
  ⟨usual_any, fun h _ o _ => h.withBinding fun _ _ hown => o.accounts_run hown, .pump, .close,
    .withHost⟩

/-- With the caller, no binding is held. -/
theorem Reachable.accounts {s : Server} (h : s.Reachable) : s.Accounts [] := by
  have hupheld := upheld_accounts []
  induction h with
  | start h => exact accounts_of_start h
  | execute _ o ih => exact hupheld.execute ih o fun own _ => o.sends_any own _
  | pump _ ih => exact hupheld.pump ih
  | close _ ih => exact hupheld.close ih
  | move _ host ih => exact hupheld.move ih host

end Server

theorem World.Reachable.server {w : World} (h : w.Reachable) : w.server.Reachable := by
  induction h with
  | start h => exact .start h
  | call _ c ih => exact Server.upheld_reachable.call ih (c.sends_any _)

/-! ## §5 — the balance -/

/-- Control is with the caller, who holds no binding, or in an operation that the caller executes, or
in one that runs within it. -/
inductive Server.InControl (s₀ : Server) : List ConnectionId → Server → Prop where
  | caller : InControl s₀ [] s₀
  | body {α : Type} (o : Operation α) {own : ConnectionId} {s₁ : Server}
      (hacquire : s₀.acquire = (.ok own, s₁)) {held : List ConnectionId} {s : Server}
      (hmoment : (held, s) ∈ o.moments [] own s₁) : InControl s₀ held s

theorem Server.InControl.accounts {s₀ s : Server} {held : List ConnectionId}
    (h : s₀.InControl held s) (h₀ : s₀.Accounts []) : s.Accounts held := by
  cases h with
  | caller => exact h₀
  | body o hacquire hmoment =>
    cases hstate : s₀.isClosed with
    | true =>
      rw [acquire_of_closed hstate] at hacquire
      cases hacquire
    | false => exact o.accounts_moments (h₀.acquire hstate hacquire).1 _ hmoment

/-- **Executing an operation on an open server** acquires one binding, runs the operation, and releases
the binding once. What the operation comes to is handed on, unless it has a value and the release
fails. -/
theorem Server.Accounts.execute {s : Server} {held : List ConnectionId} (h : s.Accounts held)
    (hopen : s.isClosed = false) {α : Type} (o : Operation α) :
    ∃ own s₁ result s₂ released s₃,
      s.acquire = (.ok own, s₁) ∧ s₁.isClosed = false ∧
      s₁.bindings = { s.bindings with acquired := s.bindings.acquired + 1 } ∧
      o.run own s₁ = (result, s₂) ∧ s₂.Accounts (held ++ [own]) ∧
      s₂.release own = (released, s₃) ∧
      s₃.bindings = { s₂.bindings with
        released := s₂.bindings.released + 1
        releaseFailures := s₂.bindings.releaseFailures + if s₂.isClosed then 1 else 0 } ∧
      released = (if s₂.isClosed then .error (.engine .shutdownInProgress) else .ok ()) ∧
      s.execute o = (conclude .error result released, s₃) := by
  obtain ⟨own, s₁, hacquire⟩ : ∃ own s₁, s.acquire = (.ok own, s₁) := ⟨_, _, acquire_of_open hopen⟩
  obtain ⟨hacquired, hstill, hbindings⟩ := h.acquire hopen hacquire
  rcases hrun : o.run own s₁ with ⟨result, s₂⟩
  have hdone : s₂.Accounts (held ++ [own]) := by
    have hrest : (o.run own s₁).2.Accounts (held ++ [own]) := o.accounts_run hacquired
    rw [hrun] at hrest
    exact hrest
  rcases hrelease : s₂.release own with ⟨released, s₃⟩
  obtain ⟨-, -, hanswer, hcounted⟩ := hdone.release hrelease
  refine ⟨own, s₁, result, s₂, released, s₃, hacquire, hstill, hbindings, hrun, hdone, hrelease,
    hcounted, hanswer, ?_⟩
  unfold Server.execute Server.withBinding
  rw [hacquire]
  simp only
  rw [hrun]
  simp only
  rw [hrelease]

/-- **Bindings balance on every path.** Whatever clients do comes down to operations that a server is
asked to execute. Whenever control is with the caller or within an operation, no more releases have
failed than were tried and no more were tried than bindings acquired; the difference is the number of
bindings that are held, and while the server is open these are its connections. An operation that is
executed then, by the caller or within another one, is not run and acquires nothing if the server is
closed. Otherwise it acquires one binding before it is run and releases it once after it. The release
fails exactly if the server is closed by then. If the operation fails or breaks off, so does the call,
in the same way; if it has a value, the call has it too, unless the release fails. -/
theorem bindings_balance :
    (∀ w : World, w.Reachable → w.server.Reachable) ∧
      ∀ s₀ : Server, s₀.Reachable → ∀ held s, s₀.InControl held s →
        s.bindings.releaseFailures ≤ s.bindings.released ∧
        s.bindings.released ≤ s.bindings.acquired ∧
        s.bindings.outstanding = held.length ∧ held.Nodup ∧
        (s.isClosed = false → s.engine.connections = held) ∧
        ∀ {α : Type} (o : Operation α),
          (s.isClosed = true → s.execute o = (.error (.error .serverClosed), s)) ∧
          (s.isClosed = false → ∃ own s₁ result s₂ released s₃,
            s.acquire = (.ok own, s₁) ∧ s₁.isClosed = false ∧
            s₁.bindings = { s.bindings with acquired := s.bindings.acquired + 1 } ∧
            o.run own s₁ = (result, s₂) ∧ s₂.bindings.outstanding = held.length + 1 ∧
            s₂.release own = (released, s₃) ∧
            s₃.bindings = { s₂.bindings with
              released := s₂.bindings.released + 1
              releaseFailures := s₂.bindings.releaseFailures + if s₂.isClosed then 1 else 0 } ∧
            released = (if s₂.isClosed then .error (.engine .shutdownInProgress) else .ok ()) ∧
            s.execute o = (match result, released with
              | .error failure, _ => .error failure
              | .ok _, .error e => .error (.error e)
              | .ok value, .ok () => .ok value, s₃)) := by
  refine ⟨fun w hw => hw.server, ?_⟩
  intro s₀ h₀ held s hcontrol
  have haccounts := hcontrol.accounts h₀.accounts
  have hbalance := haccounts.balance
  refine ⟨haccounts.failures, by omega, ?_, haccounts.distinct, fun hopen => ?_, fun o => ⟨?_, ?_⟩⟩
  · unfold BindingStats.outstanding
    omega
  · rw [haccounts.connections, hopen]
    rfl
  · intro hclosed
    unfold Server.execute Server.withBinding
    rw [Server.acquire_of_closed hclosed]
  · intro hopen
    obtain ⟨own, s₁, result, s₂, released, s₃, hacquire, hstill, hacquired, hrun, hdone, hrelease,
      hcounted, hanswer, hexecute⟩ := haccounts.execute hopen o
    have hheld := hdone.balance
    rw [List.length_append, List.length_singleton] at hheld
    refine ⟨own, s₁, result, s₂, released, s₃, hacquire, hstill, hacquired, hrun, ?_, hrelease,
      hcounted, hanswer, ?_⟩
    · unfold BindingStats.outstanding
      omega
    · rw [hexecute]
      cases result <;> cases released <;> rfl

/-- An operation within another one closes the server and then fails. From then on no binding can be
acquired, and the release of neither of the two works. -/
theorem bindings_balance_of_nested_close :
    let host : Host := { ids := fun _ => "", showTime := fun _ => "" }
    let inner : Operation Unit := .close fun _ => .fail .cursorExhausted
    let outer : Operation Unit := .execute inner fun _ => .done ()
    ∃ s₀ s, Server.start {} host = .ok s₀ ∧ s₀.Reachable ∧ s₀.InControl [1, 2] s ∧
      s.isClosed = true ∧ s.bindings = ⟨2, 0, 0⟩ ∧ s.bindings.outstanding = [1, 2].length ∧
      s.execute outer = (.error (.error .serverClosed), s) ∧
      (∃ s₂ s₃ : Server, s₂.bindings = ⟨2, 1, 1⟩ ∧ s₂.bindings.outstanding = 1 ∧
        s₂.release 1 = (.error (.engine .shutdownInProgress), s₃) ∧ s₃.bindings = ⟨2, 2, 2⟩ ∧
        s₀.execute outer = (.error (.error (.engine .shutdownInProgress)), s₃)) := by
  intro host inner outer
  obtain ⟨s₀, hstart, hs₀⟩ : ∃ s₀, Server.start {} host = .ok s₀ ∧ s₀ = { engine := {
      options := {}, store := .inMemory host, connections := [], cursors := [], nextConnection := 1
      nextCursor := 1, totalConnections := 0, counters := {}, startedAt := 0, closed := false } } :=
    ⟨_, rfl, rfl⟩
  obtain ⟨hserver, hbalance⟩ := bindings_balance
  have hreachable := hserver ⟨s₀, []⟩ (.start hstart)
  obtain ⟨s₁, s, hown, hinner, hclosed, hbindings, hrun, hend, hdone⟩ : ∃ s₁ s,
      s₀.acquire = (.ok 1, s₁) ∧ s₁.acquire = (.ok 2, s) ∧ s.close.2.isClosed = true ∧
      s.close.2.bindings = ⟨2, 0, 0⟩ ∧ (outer.run 1 s₁).1 = .ok () ∧
      (outer.run 1 s₁).2.isClosed = true ∧ (outer.run 1 s₁).2.bindings = ⟨2, 1, 1⟩ := by
    rw [hs₀]
    exact ⟨_, _, rfl, rfl, rfl, rfl, rfl, rfl, rfl⟩
  -- the caller, while the server is open
  obtain ⟨-, -, -, -, -, hcaller⟩ := hbalance s₀ hreachable _ _ .caller
  obtain ⟨own, s₁', result, s₂, released, s₃, hacquire, -, -, hruns, hheld₂, hrelease, hcounted,
    hreleased, hexecute⟩ := (hcaller outer).2 (by rw [hs₀]; rfl)
  rw [hown] at hacquire
  obtain ⟨hid, rfl⟩ := Prod.mk.inj hacquire
  obtain rfl := Except.ok.inj hid
  rw [hruns] at hrun hend hdone
  obtain rfl : result = .ok () := hrun
  rw [if_pos hend] at hreleased
  subst hreleased
  rw [if_pos hend, hdone] at hcounted
  -- the inner operation, when it has closed the server
  have hcontrol : s₀.InControl [1, 2] s.close.2 := by
    refine .body outer hown ?_
    simp only [outer, inner, Operation.moments, hinner]
    exact List.mem_cons_of_mem _ (List.mem_append_left _
      (List.mem_cons_of_mem _ (List.mem_singleton.mpr rfl)))
  obtain ⟨-, -, hheld, -, -, hwithin⟩ := hbalance s₀ hreachable _ _ hcontrol
  exact ⟨s₀, _, hstart, hreachable, hcontrol, hclosed, hbindings, hheld, (hwithin outer).1 hclosed,
    s₂, s₃, hdone, hheld₂, hrelease, hcounted, hexecute⟩

end DocStore
