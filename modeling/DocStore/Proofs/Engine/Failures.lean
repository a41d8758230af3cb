import DocStore.Proofs.Engine.Frame
import DocStore.Proofs.Engine.Snapshot
import DocStore.Proofs.Journal.Payload
import DocStore.Proofs.Store.Changes

/-!
# DocStore — commands that fail

A command that fails may have drawn ids and may have been counted. What the engine holds it leaves as
it was: the catalog, the journal and the bytes of its file, the connections, and the cursors, with one
exception. `killCursors` looks at the ids one by one while it kills cursors, so a value that is no id
makes it fail with the cursors before it gone.

* **`Engine.Sound.perform_error`** — one case for each command that can fail.
* **`failed_command_changes`** — the main statement; **`failed_killCursors_removes_cursor`** shows the
  exception at work.
-/

namespace DocStore

namespace Engine

/-! ## §1 — commands that fail -/

variable {e e' : Engine} {db : String} {err : EngineError}

/-- **What fails leaves the engine with a store that holds the same.** Only `killCursors` is another
matter, where a value is no id. -/
theorem Sound.perform_error (h : e.Sound) {c : Command}
    (hfail : e.perform db c = (.error err, e')) :
    (∃ store, e.store.SameContents store ∧ e' = { e with store := store }) ∨
      ∃ coll ids, c = .killCursors coll ids ∧ (∃ v ∈ ids, v.asInt? = none) ∧
        err = .badValue .cursorIdsRequired ∧
        e' = e.withoutCursors (namespaceText db coll) (leadingIds ids) := by
  cases c with
  | insert coll ds =>
    simp only [perform, performInsert] at hfail
    split at hfail
    · next store hinsert =>
      obtain ⟨-, rfl⟩ := Prod.mk.inj hfail
      exact Or.inl ⟨store, Store.sameContents_of_insert hinsert, rfl⟩
    · cases hfail
  | getMore id coll batchSize =>
    have hfetch : e.performGetMore db id coll batchSize = (.error err, e') := hfail
    rcases performGetMore_cases e db id coll batchSize with
      ⟨err', hrun⟩ | ⟨c, n, counters, -, -, -, hrun⟩
    · -- a fetch that fails has looked at the table only
      rw [hrun] at hfetch
      obtain ⟨-, rfl⟩ := Prod.mk.inj hfetch
      exact Or.inl ⟨e.store, .refl _, rfl⟩
    · rw [hrun] at hfetch
      cases hfetch
  | killCursors coll ids =>
    simp only [perform, performKillCursors] at hfail
    rcases h.killCursors (namespaceText db coll) ids with ⟨hnone, hrun⟩ | ⟨-, answer, hrun⟩
    · rw [hrun] at hfail
      obtain ⟨herr, rfl⟩ := Prod.mk.inj hfail
      exact Or.inr ⟨coll, ids, rfl, hnone, (Except.error.inj herr).symm, rfl⟩
    · rw [hrun] at hfail
      cases hfail
  | drop coll =>
    simp only [perform, performDrop] at hfail
    split at hfail
    · next store hdrop =>
      obtain ⟨-, rfl⟩ := Prod.mk.inj hfail
      exact Or.inl ⟨store, Store.sameContents_of_dropCollection hdrop, rfl⟩
    · cases hfail
  | dropDatabase =>
    simp only [perform, performDropDatabase] at hfail
    split at hfail
    · next store hdrop =>
      obtain ⟨-, rfl⟩ := Prod.mk.inj hfail
      exact Or.inl ⟨store, Store.sameContents_of_dropDatabase hdrop, rfl⟩
    · cases hfail
  -- the others always have a reply
  | ping => cases hfail
  | hello => cases hfail
  | buildInfo => cases hfail
  | serverStatus => cases hfail
  | count coll filter => cases hfail
  | aggregate coll pipeline batchSize => cases hfail
  | listCollections => cases hfail
  | listDatabases => cases hfail

end Engine

/-- **What a failed command changes.** Whatever the command document is, the engine after it has the
same catalog, journal, file and connections; one command more may be counted. It has the same cursors,
unless the command is a `killCursors` with a value that is no id: then those cursors of its namespace
are gone that are named before that value. -/
theorem failed_command_changes {e e' : Engine} (h : e.Reachable) {connection : ConnectionId}
    {db : String} {d : Document} {err : EngineError}
    (hfail : e.command connection db d = (.error err, e')) :
    ∃ store counted, e.store.SameContents store ∧ counted ≤ 1 ∧
      let left : Engine := { e with
        store := store
        counters := { e.counters with commands := e.counters.commands + counted } }
      (e' = left ∨
        ∃ coll ids, e.Takes connection db d (.killCursors coll ids) ∧
          (∃ v ∈ ids, v.asInt? = none) ∧ err = .badValue .cursorIdsRequired ∧
          e' = left.withoutCursors (namespaceText db coll) (Engine.leadingIds ids)) := by
  rcases Engine.refused_or_takes e connection db d with
    ⟨err', hrun⟩ | ⟨err', hrun⟩ | ⟨c, htakes⟩
  · rw [hrun] at hfail
    obtain ⟨-, rfl⟩ := Prod.mk.inj hfail
    exact ⟨e.store, 0, .refl _, Nat.zero_le 1, Or.inl rfl⟩
  · rw [hrun] at hfail
    obtain ⟨-, rfl⟩ := Prod.mk.inj hfail
    exact ⟨e.store, 1, .refl _, Nat.le_refl 1, Or.inl rfl⟩
  · rw [htakes.command_eq_error_iff] at hfail
    rcases h.sound.countCommand.perform_error hfail with
      ⟨store, hsame, rfl⟩ | ⟨coll, ids, rfl, hnone, rfl, rfl⟩
    · exact ⟨store, 1, hsame, Nat.le_refl 1, Or.inl rfl⟩
    · exact ⟨e.store, 1, .refl _, Nat.le_refl 1,
        Or.inr ⟨coll, ids, htakes, hnone, rfl, rfl⟩⟩

/-- An insert of which the disk takes three bytes and then no more. -/
theorem failed_command_changes_of_torn_write :
    let host : Host := {
      ids := fun _ => "", showTime := fun _ => "", disk := { failsAfter := fun _ => some 3 } }
    let insert : Document := ⟨[("insert", .string "notes"),
      ("documents", .array [.object [("_id", .ofNat 1)]])]⟩
    ∃ e₀, Engine.start { dbpath := some "data" } host = .ok e₀ ∧
      let e := Engine.Call.openConnection.after e₀
      ∃ e', e.command 1 "db" insert = (.error .io, e') ∧ e.store.SameContents e'.store ∧
        e'.connections = [1] ∧ e'.cursors = [] := by
  intro host insert
  have hstart : Engine.start { dbpath := some "data" } host = .ok _ := rfl
  refine ⟨_, hstart, ?_⟩
  intro e
  have hreachable : e.Reachable := (Engine.Reachable.start hstart).call .openConnection
  have htakes : e.Takes 1 "db" insert (.insert "notes" [⟨[("_id", .ofNat 1)]⟩]) :=
    ⟨rfl, rfl, rfl, "insert", rfl, rfl⟩
  have hfits : (Record.insert "db" "notes" [.object [("_id", .ofNat 1)]]).Fits :=
    Record.fits_of_length_chars (by decide)
  have hchange := Store.Call.change?_insert_one "db" "notes" (s := e.store)
    (d := ⟨[("_id", .ofNat 1)]⟩) rfl (by decide)
  have hrun := Store.Call.run_of_failing hchange rfl hfits rfl
  obtain ⟨store, hinsert⟩ : ∃ store,
      e.store.insert "db" "notes" [⟨[("_id", .ofNat 1)]⟩] = (.error .io, store) := by
    rcases hinsert : e.store.insert "db" "notes" [⟨[("_id", .ofNat 1)]⟩] with ⟨answer, store⟩
    simp only [Store.Call.run, hinsert, Prod.map, Store.Answer.refused, Prod.mk.injEq,
      Store.Answer.inserted.injEq] at hrun
    exact ⟨store, by rw [hrun.1]⟩
  have hfail : e.command 1 "db" insert = (.error .io, { e.countCommand with store := store }) := by
    rw [htakes.command_eq_error_iff]
    show e.countCommand.performInsert "db" "notes" _ = _
    unfold Engine.performInsert
    rw [show e.countCommand.store = e.store from rfl, hinsert]
  obtain ⟨store', counted, hsame, -, hleft | ⟨_, _, -, -, hcause, -⟩⟩ :=
    failed_command_changes hreachable hfail
  · refine ⟨_, hfail, ?_, ?_, ?_⟩
    · rw [hleft]
      exact hsame
    · rw [hleft]
      rfl
    · rw [hleft]
      rfl
  · cases hcause

/-- **A failed command may change something**: a `killCursors` that fails at its second value has
killed the cursor that its first value names. -/
theorem failed_killCursors_removes_cursor :
    let host : Host := { ids := fun _ => "", showTime := fun _ => "" }
    let document (n : Nat) : Value := .object [("_id", .ofNat n)]
    let insert : Document := ⟨[("insert", .string "c"),
      ("documents", .array [document 1, document 2])]⟩
    let aggregate : Document := ⟨[("aggregate", .string "c"), ("pipeline", .array []),
      ("cursor", .object [("batchSize", .ofNat 1)])]⟩
    let killCursors : Document := ⟨[("killCursors", .string "c"),
      ("cursors", .array [.ofNat 1, .string "x"])]⟩
    ∃ e₀, Engine.start {} host = .ok e₀ ∧
      let e := [.openConnection, .command 1 "test" insert, .command 1 "test" aggregate].foldl
        (fun e (c : Engine.Call) => c.after e) e₀
      ∃ e', e.command 1 "test" killCursors = (.error (.badValue .cursorIdsRequired), e') ∧
        e.cursors.map Prod.fst = [1] ∧ e'.cursors = [] := by
  intro host document insert aggregate killCursors
  refine ⟨_, rfl, ?_⟩
  intro e
  exact ⟨(e.command 1 "test" killCursors).2, rfl, rfl, rfl⟩

end DocStore
