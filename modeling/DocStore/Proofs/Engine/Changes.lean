import DocStore.Proofs.Engine.Failures

/-!
# DocStore — commands that change what is stored

Of all commands three change what is stored, and a command document asks for one of them only if its
first field says so (`Document.namesChange`). Such a command is one call on the store
(`Command.storeCall?`), so what is known of the calls is known of the commands.

* **`Engine.store_perform`** — the other commands leave the store as it is.
* **`Engine.store_perform_of_call`** — the three do to it what their call does.
* **`Engine.store_command`** — a document that names no change leaves the store as it is.
* **`Engine.Sound.contents_of_command_error`** — one that does, and fails, leaves what is stored.
-/

namespace DocStore

/-! ## §1 — commands that change what is stored -/

def Command.isChange : Command → Bool
  | insert _ _ | drop _ | dropDatabase => true
  | _ => false

/-- A command document is named for a command that changes what is stored. -/
def Document.namesChange (d : Document) : Bool :=
  [some "insert", some "drop", some "dropDatabase"].contains d.firstName?

/-- Only documents that are named so are read as such commands. One case for each reader. -/
theorem Command.isChange_of_ofDocument {name : String} {d : Document} {c : Command}
    (hname : d.firstName? = some name) (hread : ofDocument name d = .ok c)
    (hnot : d.namesChange = false) : c.isChange = false := by
  unfold Document.namesChange at hnot
  rw [hname] at hnot
  -- where the name is that of a change, `hnot` says the contrary
  unfold ofDocument at hread
  split at hread
  · cases hread; rfl
  · cases hread; rfl
  · cases hread; rfl
  · cases hread; rfl
  · cases hread; rfl
  · cases hread; rfl
  · cases hread; rfl
  · simp at hnot
  · obtain ⟨_, -, hread⟩ := ok_of_bind hread
    obtain ⟨_, -, hread⟩ := ok_of_bind hread
    cases hread; rfl
  · obtain ⟨_, _, _, _, rfl, -⟩ := readAggregate_eq_ok hread
    rfl
  · obtain ⟨_, _, _, rfl, -⟩ := readGetMore_eq_ok hread
    rfl
  · obtain ⟨_, -, hread⟩ := ok_of_bind hread
    obtain ⟨_, -, hread⟩ := ok_of_bind hread
    cases hread; rfl
  · cases hread; rfl
  · cases hread; rfl
  · simp at hnot
  · simp at hnot
  · cases hread

namespace Engine

theorem store_parkCursor (e : Engine) (ns : String) (rest : List Document) :
    (e.parkCursor ns rest).2.store = e.store := by
  unfold parkCursor
  split <;> rfl

theorem store_killCursors (e : Engine) (ns : String) (ids : List Value) :
    (e.killCursors ns ids).2.store = e.store := by
  induction ids generalizing e with
  | nil => rfl
  | cons v vs ih =>
    unfold killCursors
    split
    · rfl
    · next id _ =>
      -- what one id does to the table of cursors, the store does not see
      have hone : ∀ found : Bool, (if found then e.removeCursor id else e).store = e.store := by
        intro found
        cases found <;> rfl
      have hrest := (ih _).trans (hone ((e.cursor? id).any (·.ns = ns)))
      simp only
      split
      · next heq =>
        rw [heq] at hrest
        exact hrest
      · next heq =>
        rw [heq] at hrest
        exact hrest

/-- **The other commands leave the store as it is.** -/
theorem store_perform (e : Engine) (db : String) {c : Command} (hc : c.isChange = false) :
    (e.perform db c).2.store = e.store := by
  cases c with
  | insert coll ds => cases hc
  | drop coll => cases hc
  | dropDatabase => cases hc
  | aggregate coll pipeline batchSize => exact store_parkCursor _ _ _
  | getMore id coll batchSize =>
    show (e.performGetMore db id coll batchSize).2.store = e.store
    rcases performGetMore_cases e db id coll batchSize with
      ⟨err, hrun⟩ | ⟨c, n, counters, -, -, -, hrun⟩
    · rw [hrun]
    · rw [hrun]
      show (takeFrom _ id c n).store = e.store
      unfold takeFrom
      split <;> rfl
  | killCursors coll ids =>
    have hkill := store_killCursors e (namespaceText db coll) ids
    simp only [perform, performKillCursors]
    split
    · next heq =>
      rw [heq] at hkill
      exact hkill
    · next heq =>
      rw [heq] at hkill
      exact hkill
  | ping | hello | buildInfo | serverStatus | count coll filter | listCollections | listDatabases =>
    rfl

theorem store_command (e : Engine) (connection : ConnectionId) (db : String) {d : Document}
    (hd : d.namesChange = false) : (e.command connection db d).2.store = e.store := by
  rcases refused_or_takes e connection db d with ⟨err, hrun⟩ | ⟨err, hrun⟩ | ⟨c, htakes⟩
  · rw [hrun]
  · rw [hrun]
    rfl
  · obtain ⟨name, hname, hread⟩ := htakes.read
    rw [htakes.snd_command, store_perform _ db (Command.isChange_of_ofDocument hname hread hd)]
    rfl

/-- **A command that fails** leaves what is stored, whichever it is. -/
theorem Sound.contents_of_command_error {e e' : Engine} (h : e.Sound) {connection : ConnectionId}
    {db : String} {d : Document} {err : EngineError}
    (hfail : e.command connection db d = (.error err, e')) : e.store.SameContents e'.store := by
  rcases refused_or_takes e connection db d with ⟨err', hrun⟩ | ⟨err', hrun⟩ | ⟨c, htakes⟩
  · rw [hrun] at hfail
    obtain ⟨-, rfl⟩ := Prod.mk.inj hfail
    exact .refl _
  · rw [hrun] at hfail
    obtain ⟨-, rfl⟩ := Prod.mk.inj hfail
    exact .refl _
  · rw [htakes.command_eq_error_iff] at hfail
    rcases h.countCommand.perform_error hfail with
      ⟨store, hsame, rfl⟩ | ⟨coll, ids, -, -, -, rfl⟩
    · exact hsame
    · exact .refl _

end Engine

/-! ## §2 — commands as calls on the store -/

/-- The call on the store that a command comes to, if it is one that changes what is stored. -/
def Command.storeCall? (db : String) : Command → Option Store.Call
  | insert coll ds => some (.insert db coll ds)
  | drop coll => some (.dropCollection db coll)
  | dropDatabase => some (.dropDatabase db)
  | _ => none

namespace Engine

/-- **A command that changes something** does to the store what its call does. -/
theorem store_perform_of_call (e : Engine) {db : String} {c : Command} {call : Store.Call}
    (hc : c.storeCall? db = some call) : (e.perform db c).2.store = (call.run e.store).2 := by
  cases c with
  | insert coll ds =>
    obtain rfl := Option.some.inj hc
    simp only [perform, performInsert, Store.Call.run]
    rcases e.store.insert db coll ds with ⟨answer, store⟩
    cases answer <;> rfl
  | drop coll =>
    obtain rfl := Option.some.inj hc
    simp only [perform, performDrop, Store.Call.run]
    rcases e.store.dropCollection db coll with ⟨answer, store⟩
    cases answer <;> rfl
  | dropDatabase =>
    obtain rfl := Option.some.inj hc
    simp only [perform, performDropDatabase, Store.Call.run]
    rcases e.store.dropDatabase db with ⟨answer, store⟩
    cases answer <;> rfl
  | _ => cases hc

/-- What a command does to the store: nothing, or what its call does. -/
theorem store_perform_cases (e : Engine) (db : String) (c : Command) :
    (e.perform db c).2.store = e.store ∨
      ∃ call, c.storeCall? db = some call ∧ (e.perform db c).2.store = (call.run e.store).2 := by
  cases hc : c.storeCall? db with
  | none =>
    refine Or.inl (e.store_perform db ?_)
    cases c with
    | insert coll ds => cases hc
    | drop coll => cases hc
    | dropDatabase => cases hc
    | _ => rfl
  | some call => exact Or.inr ⟨call, rfl, e.store_perform_of_call hc⟩

end Engine

end DocStore
