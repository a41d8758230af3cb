import DocStore.Proofs.Engine.Commands

/-!
# DocStore — what a command can change

A command that an engine does not take changes nothing, but it may be counted. One that it takes
works on the store, the cursors and the counters; connections are nothing that commands deal with.

* **`Engine.refused_or_takes`** — the ways a command can go, for every statement about all of them.
* **`Engine.Sound.killCursors`** — killing cursors one by one is taking some of them out of the table
  at once: those of the namespace that are named before the first value that is no id.
* **`Engine.perform_frame`** — what no command touches.
-/

namespace DocStore

namespace Engine

variable {e e' : Engine}

/-! ## §1 — refused or taken -/

theorem refused_or_takes (e : Engine) (connection : ConnectionId) (db : String) (d : Document) :
    (∃ err, e.command connection db d = (.error err, e)) ∨
      (∃ err, e.command connection db d = (.error err, e.countCommand)) ∨
      ∃ c, e.Takes connection db d c := by
  cases hclosed : e.closed with
  | true => exact Or.inl ⟨_, by unfold command; rw [if_pos hclosed]⟩
  | false =>
    have hrunning : ¬ e.closed = true := by simp [hclosed]
    by_cases hconnected : e.connections.contains connection = true
    · have hrun : e.command connection db d = e.run db d := by
        unfold command
        rw [if_neg hrunning, if_pos hconnected]
      rw [hrun]
      unfold run
      cases hdatabase : checkDatabaseName db with
      | error fault => exact Or.inl ⟨_, rfl⟩
      | ok _ =>
        cases hname : d.firstName? with
        | none => exact Or.inl ⟨_, rfl⟩
        | some name =>
          cases hread : Command.ofDocument name d with
          | error err => exact Or.inr (Or.inl ⟨err, by simp only [hread]⟩)
          | ok c => exact Or.inr (Or.inr ⟨c, hclosed, hconnected, hdatabase, name, hname, hread⟩)
    · refine Or.inl ⟨.unknownConnection connection, ?_⟩
      unfold command
      rw [if_neg hrunning, if_neg hconnected]

/-! ## §2 — killing cursors -/

/-- The ids of a list of values, up to the first value that is none. -/
def leadingIds : List Value → List CursorId
  | [] => []
  | v :: vs =>
    match v.asInt? with
    | some id => id :: leadingIds vs
    | none => []

/-- The engine without the cursors of a namespace that have one of some ids. -/
def withoutCursors (e : Engine) (ns : String) (ids : List CursorId) : Engine :=
  { e with cursors := e.cursors.filter fun c => !(c.2.ns == ns && ids.contains c.1) }

theorem withoutCursors_nil (e : Engine) (ns : String) : e.withoutCursors ns [] = e := by
  have hkept : e.cursors.filter (fun c => !(c.2.ns == ns && ([] : List CursorId).contains c.1))
      = e.cursors := by
    simp
  unfold withoutCursors
  rw [hkept]

theorem withoutCursors_cons (e : Engine) (ns : String) (id : CursorId) (ids : List CursorId) :
    (e.withoutCursors ns [id]).withoutCursors ns ids = e.withoutCursors ns (id :: ids) := by
  unfold withoutCursors
  simp only [List.filter_filter]
  congr 1
  apply List.filter_congr
  intro c _
  cases c.2.ns == ns <;> simp [Bool.and_comm]

theorem Sound.withoutCursors (h : e.Sound) (ns : String) (ids : List CursorId) :
    (e.withoutCursors ns ids).Sound := by
  have hspares : Spares 0 e (e.withoutCursors ns ids) :=
    spares_of_sublist h List.filter_sublist rfl
  exact hspares.sound

/-- What is done for one id. Since ids are distinct, looking up the one cursor is looking at all. -/
theorem Sound.removeCursor_of_ns (h : e.Sound) (ns : String) (id : CursorId) :
    (if (e.cursor? id).any (·.ns = ns) then e.removeCursor id else e)
      = e.withoutCursors ns [id] := by
  have hcursor : ∀ c ∈ e.cursors, c.1 = id → e.cursor? id = some c.2 := by
    rintro ⟨_, c⟩ hc rfl
    exact h.cursor?_eq_some_iff.mpr hc
  unfold removeCursor Engine.withoutCursors
  split
  · next hfound =>
    congr 1
    apply List.filter_congr
    intro c hc
    by_cases hid : c.1 = id
    · -- the cursor of the id is of the namespace, as the one that was looked up
      rw [hcursor c hc hid] at hfound
      have hns : c.2.ns = ns := by simpa using hfound
      simp [hid, hns]
    · simp [hid]
  · next hmissing =>
    have hkept : e.cursors.filter (fun c => !(c.2.ns == ns && [id].contains c.1)) = e.cursors := by
      rw [List.filter_eq_self]
      intro c hc
      by_cases hid : c.1 = id
      · rw [hcursor c hc hid] at hmissing
        have hns : ¬ c.2.ns = ns := by simpa using hmissing
        simp [hns]
      · simp [hid]
    rw [hkept]

/-- **Killing cursors** takes away those that are named before the first value that is no id. It fails
exactly if there is such a value. Induction on the values. -/
theorem Sound.killCursors (h : e.Sound) (ns : String) (ids : List Value) :
    ((∃ v ∈ ids, v.asInt? = none) ∧ e.killCursors ns ids
        = (.error (.badValue .cursorIdsRequired), e.withoutCursors ns (leadingIds ids))) ∨
      ((∀ v ∈ ids, v.asInt? ≠ none) ∧ ∃ answer,
        e.killCursors ns ids = (.ok answer, e.withoutCursors ns (leadingIds ids))) := by
  induction ids generalizing e with
  | nil =>
    refine Or.inr ⟨by simp, ([], []), ?_⟩
    rw [Engine.killCursors, leadingIds, withoutCursors_nil]
  | cons v vs ih =>
    unfold Engine.killCursors leadingIds
    cases hv : v.asInt? with
    | none =>
      refine Or.inl ⟨⟨v, List.mem_cons_self, hv⟩, ?_⟩
      simp only [withoutCursors_nil]
    | some id =>
      simp only [← withoutCursors_cons, ← h.removeCursor_of_ns ns id]
      have hnext : (if (e.cursor? id).any (·.ns = ns) then e.removeCursor id else e).Sound := by
        rw [h.removeCursor_of_ns]
        exact h.withoutCursors ns [id]
      rcases ih hnext with ⟨⟨w, hw, hnone⟩, hrun⟩ | ⟨hall, ⟨killed, missed⟩, hrun⟩
      · refine Or.inl ⟨⟨w, List.mem_cons_of_mem v hw, hnone⟩, ?_⟩
        rw [hrun]
      · refine Or.inr ⟨fun w hw => ?_, _, by rw [hrun]⟩
        rcases List.mem_cons.mp hw with rfl | hw
        · simp [hv]
        · exact hall w hw

/-! ## §3 — what no command touches -/

/-- Two engines are the same but for their stores, cursors and counters. -/
def Alike (e e' : Engine) : Prop :=
  ∃ store cursors nextCursor counters,
    e' = { e with
      store := store
      cursors := cursors
      nextCursor := nextCursor
      counters := counters }

theorem Alike.refl (e : Engine) : Alike e e := ⟨_, _, _, _, rfl⟩

theorem Alike.trans {e'' : Engine} (h : Alike e e') (h' : Alike e' e'') : Alike e e'' := by
  obtain ⟨store, cursors, nextCursor, counters, rfl⟩ := h
  obtain ⟨store, cursors, nextCursor, counters, rfl⟩ := h'
  exact ⟨store, cursors, nextCursor, counters, rfl⟩

theorem alike_parkCursor (e : Engine) (ns : String) (rest : List Document) :
    Alike e (e.parkCursor ns rest).2 := by
  unfold parkCursor
  split
  · exact Alike.refl e
  · exact ⟨_, _, _, _, rfl⟩

theorem alike_takeFrom (e : Engine) (id : CursorId) (c : Cursor) (n : Nat) :
    Alike e (e.takeFrom id c n) := by
  unfold takeFrom
  split <;> exact ⟨_, _, _, _, rfl⟩

theorem alike_killCursors (e : Engine) (ns : String) (ids : List Value) :
    Alike e (e.killCursors ns ids).2 := by
  induction ids generalizing e with
  | nil => exact Alike.refl e
  | cons v vs ih =>
    unfold killCursors
    split
    · exact Alike.refl e
    · next id _ =>
      have hone : ∀ found : Bool, Alike e (if found then e.removeCursor id else e) := by
        intro found
        cases found
        · exact Alike.refl e
        · exact ⟨_, _, _, _, rfl⟩
      have hrest := (hone ((e.cursor? id).any (·.ns = ns))).trans (ih _)
      simp only
      split
      · next heq =>
        rw [heq] at hrest
        exact hrest
      · next heq =>
        rw [heq] at hrest
        exact hrest

/-- **Performing a command** touches the store, the cursors and the counters. One case for each. -/
theorem perform_frame (e : Engine) (db : String) (c : Command) : Alike e (e.perform db c).2 := by
  cases c with
  | ping => exact Alike.refl e
  | hello => exact Alike.refl e
  | buildInfo => exact Alike.refl e
  | serverStatus => exact Alike.refl e
  | insert coll ds =>
    simp only [perform, performInsert]
    split <;> exact ⟨_, _, _, _, rfl⟩
  | count coll filter => exact Alike.refl e
  | aggregate coll pipeline batchSize =>
    have hcounted : Alike e e.countQuery := ⟨_, _, _, _, rfl⟩
    exact hcounted.trans (alike_parkCursor _ _ _)
  | getMore id coll batchSize =>
    show Alike e (e.performGetMore db id coll batchSize).2
    rcases performGetMore_cases e db id coll batchSize with
      ⟨err, hrun⟩ | ⟨c, n, counters, -, -, -, hrun⟩
    · rw [hrun]
      exact Alike.refl e
    · rw [hrun]
      have hcounted : Alike e { e with counters := counters } := ⟨_, _, _, _, rfl⟩
      exact hcounted.trans (alike_takeFrom _ id c n)
  | killCursors coll ids =>
    have hkilled := alike_killCursors e (namespaceText db coll) ids
    simp only [perform, performKillCursors]
    split
    · next heq =>
      rw [heq] at hkilled
      exact hkilled
    · next heq =>
      rw [heq] at hkilled
      exact hkilled
  | listCollections => exact Alike.refl e
  | listDatabases => exact Alike.refl e
  | drop coll =>
    simp only [perform, performDrop]
    split <;> exact ⟨_, _, _, _, rfl⟩
  | dropDatabase =>
    simp only [perform, performDropDatabase]
    split <;> exact ⟨_, _, _, _, rfl⟩

theorem Takes.snd_command {connection : ConnectionId} {db : String} {d : Document} {c : Command}
    (h : e.Takes connection db d c) :
    (e.command connection db d).2 = (e.countCommand.perform db c).2 := by
  rw [h.command]
  rcases e.countCommand.perform db c with ⟨answer, e'⟩
  cases answer <;> rfl

/-- A command that is taken fails as what it asks for. -/
theorem Takes.command_eq_error_iff {connection : ConnectionId} {db : String} {d : Document}
    {c : Command} (h : e.Takes connection db d c) {err : EngineError} :
    e.command connection db d = (.error err, e') ↔ e.countCommand.perform db c = (.error err, e') := by
  rw [h.command]
  rcases e.countCommand.perform db c with ⟨answer, e''⟩
  cases answer <;> simp

theorem Sound.countCommand (h : e.Sound) : e.countCommand.Sound :=
  ⟨h.given, h.left, h.distinct, h.next⟩

/-- **No command** deals with connections, nor with whether the engine is open. -/
theorem command_frame (e : Engine) (connection : ConnectionId) (db : String) (d : Document) :
    Alike e (e.command connection db d).2 := by
  have hcounted : Alike e e.countCommand := ⟨_, _, _, _, rfl⟩
  rcases refused_or_takes e connection db d with ⟨err, hrun⟩ | ⟨err, hrun⟩ | ⟨c, htakes⟩
  · rw [hrun]
    exact Alike.refl e
  · rw [hrun]
    exact hcounted
  · rw [htakes.snd_command]
    exact hcounted.trans (perform_frame e.countCommand db c)

end Engine

end DocStore
