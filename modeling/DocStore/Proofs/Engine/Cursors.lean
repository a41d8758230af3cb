import DocStore.Engine.Run

/-!
# DocStore — the table of cursors

Whoever holds the id of a cursor has to know what work of others can do to it. The answer is the same
for all work but one kind: unless it fetches from this very cursor, it leaves the cursor as it is or
takes it away (`Engine.Spares`). Ids are never given out twice, so a cursor that is gone stays gone.

* **`Engine.Sound`** — what is true of every table: the ids of its cursors are distinct and have been
  given out, and no cursor is empty.
* **`Engine.spares_of_sublist`**, **`spares_parkCursor`**, **`spares_updateCursor`** — the three things
  that happen to a table: cursors go, one comes, or another one is fetched from.
* **`Engine.Sound.takeFrom`** — a fetch from the cursor itself: it keeps what the batch leaves of it,
  and goes if that is nothing.
-/

namespace DocStore

namespace Engine

/-! ## §1 — tables -/

/-- The table of cursors is in order: ids that have been given out, each of them once, and something
left behind each of them. -/
structure Sound (e : Engine) : Prop where
  given : ∀ c ∈ e.cursors, 0 < c.1 ∧ c.1 < e.nextCursor
  left : ∀ c ∈ e.cursors, c.2.remaining ≠ []
  distinct : (e.cursors.map Prod.fst).Nodup
  next : 0 < e.nextCursor

variable {e e' e'' : Engine} {id : CursorId}

theorem Sound.cursor?_eq_some_iff (h : e.Sound) {c : Cursor} :
    e.cursor? id = some c ↔ (id, c) ∈ e.cursors :=
  lookup_eq_some_iff_mem h.distinct

theorem Sound.cursor?_zero (h : e.Sound) : e.cursor? 0 = none := by
  cases hc : e.cursor? 0 with
  | none => rfl
  | some c => exact absurd (h.given _ (h.cursor?_eq_some_iff.mp hc)).1 (Int.lt_irrefl 0)

theorem Sound.remaining_ne_nil (h : e.Sound) {c : Cursor} (hc : e.cursor? id = some c) :
    c.remaining ≠ [] :=
  h.left _ (h.cursor?_eq_some_iff.mp hc)

/-- An engine that starts has the store that was opened, and nothing else yet. -/
theorem start_eq_ok {options : Options} {host : Host} (h : Engine.start options host = .ok e) :
    ∃ store, Store.open options host = .ok store ∧ e = {
      options, store
      connections := []
      cursors := []
      nextConnection := 1
      nextCursor := 1
      totalConnections := 0
      counters := {}
      startedAt := host.now
      closed := false } := by
  unfold Engine.start at h
  split at h
  · cases h
  · next store hopen => exact ⟨store, hopen, (Except.ok.inj h).symm⟩

theorem sound_of_start {options : Options} {host : Host} (h : Engine.start options host = .ok e) :
    e.Sound := by
  obtain ⟨store, -, rfl⟩ := start_eq_ok h
  exact ⟨by simp, by simp, by simp, Int.one_pos⟩

/-! ## §2 — work that spares a cursor -/

/-- Work leads from one engine to another and spares the cursor of an id: if it is still there after
it, it is as it was. -/
structure Spares (id : CursorId) (e e' : Engine) : Prop where
  sound : e'.Sound
  next : e.nextCursor ≤ e'.nextCursor
  same : id < e.nextCursor → ∀ c, e'.cursor? id = some c → e.cursor? id = some c

theorem Sound.spares_self (h : e.Sound) : Spares id e e :=
  ⟨h, Int.le_refl _, fun _ _ hc => hc⟩

theorem Spares.trans (h : Spares id e e') (h' : Spares id e' e'') : Spares id e e'' := by
  refine ⟨h'.sound, Int.le_trans h.next h'.next, fun hid c hc => h.same hid c ?_⟩
  exact h'.same (Int.lt_of_lt_of_le hid h.next) c hc

/-- **Cursors go.** Whatever else an engine does, as long as no cursor comes or changes. -/
theorem spares_of_sublist (h : e.Sound) (hcursors : e'.cursors.Sublist e.cursors)
    (hnext : e'.nextCursor = e.nextCursor) : Spares id e e' := by
  have hsound : e'.Sound := by
    refine ⟨fun c hc => ?_, fun c hc => h.left c (hcursors.subset hc),
      (hcursors.map Prod.fst).nodup h.distinct, ?_⟩
    · rw [hnext]
      exact h.given c (hcursors.subset hc)
    · rw [hnext]
      exact h.next
  refine ⟨hsound, Int.le_of_eq hnext.symm, fun _ c hc => ?_⟩
  rw [h.cursor?_eq_some_iff]
  exact hcursors.subset (hsound.cursor?_eq_some_iff.mp hc)

theorem spares_of_eq (h : e.Sound) (hcursors : e'.cursors = e.cursors)
    (hnext : e'.nextCursor = e.nextCursor) : Spares id e e' :=
  spares_of_sublist h (hcursors ▸ List.Sublist.refl _) hnext

theorem spares_removeCursor (h : e.Sound) (other : CursorId) : Spares id e (e.removeCursor other) :=
  spares_of_sublist h List.filter_sublist rfl

/-- **A cursor comes**, with an id that nobody has had. -/
theorem spares_parkCursor (h : e.Sound) (ns : String) (remaining : List Document) :
    Spares id e (e.parkCursor ns remaining).2 := by
  unfold parkCursor
  split
  · exact h.spares_self
  · next hsome =>
    have hsome : remaining ≠ [] := fun hnone => hsome (List.isEmpty_iff.mpr hnone)
    have hgrown : e.nextCursor < e.nextCursor + 1 := Int.lt_add_one_of_le (Int.le_refl _)
    have hsound : Sound { e with
        cursors := e.cursors ++ [(e.nextCursor, ⟨ns, remaining, e.now⟩)]
        nextCursor := e.nextCursor + 1 } := by
      refine ⟨fun c hc => ?_, fun c hc => ?_, ?_, ?_⟩
      · rcases List.mem_append.mp hc with hold | hnew
        · obtain ⟨hpos, hlt⟩ := h.given c hold
          exact ⟨hpos, Int.lt_trans hlt hgrown⟩
        · rw [List.mem_singleton.mp hnew]
          exact ⟨h.next, hgrown⟩
      · rcases List.mem_append.mp hc with hold | hnew
        · exact h.left c hold
        · rw [List.mem_singleton.mp hnew]
          exact hsome
      · -- the new id is above all that have been given out
        rw [List.map_append, List.nodup_append]
        refine ⟨h.distinct, by simp, fun k hk k' hk' => ?_⟩
        obtain ⟨c, hc, rfl⟩ := List.mem_map.mp hk
        have hlast : k' = e.nextCursor := by simpa using hk'
        rw [hlast]
        exact Int.ne_of_lt (h.given c hc).2
      · exact Int.lt_trans h.next hgrown
    refine ⟨hsound, Int.le_of_lt hgrown, fun hid c hc => ?_⟩
    rcases List.mem_append.mp (hsound.cursor?_eq_some_iff.mp hc) with hold | hnew
    · exact h.cursor?_eq_some_iff.mpr hold
    · -- an id that was given out before is not the new one
      have hself : id = e.nextCursor := congrArg Prod.fst (List.mem_singleton.mp hnew)
      rw [hself] at hid
      exact absurd hid (Int.lt_irrefl _)

theorem map_fst_updateCursor (e : Engine) (id : CursorId) (c : Cursor) :
    (e.updateCursor id c).cursors.map Prod.fst = e.cursors.map Prod.fst := by
  show (e.cursors.map _).map Prod.fst = _
  rw [List.map_map]
  apply List.map_congr_left
  intro old hold
  show (if old.1 = id then (id, c) else old).1 = old.1
  split
  · next heq => exact heq.symm
  · rfl

/-- A table is in order with another state of a cursor, as long as something is left. -/
theorem Sound.updateCursor (h : e.Sound) (id : CursorId) {c : Cursor} (hsome : c.remaining ≠ []) :
    (e.updateCursor id c).Sound := by
  refine ⟨fun new hnew => ?_, fun new hnew => ?_, ?_, h.next⟩
  · have hmem : new.1 ∈ e.cursors.map Prod.fst := by
      rw [← map_fst_updateCursor e id c]
      exact List.mem_map_of_mem hnew
    obtain ⟨old, hold, heq⟩ := List.mem_map.mp hmem
    rw [← heq]
    exact h.given old hold
  · obtain ⟨old, hold, rfl⟩ := List.mem_map.mp hnew
    show (if old.1 = id then (id, c) else old).2.remaining ≠ []
    split
    · exact hsome
    · exact h.left old hold
  · rw [map_fst_updateCursor]
    exact h.distinct

/-- **Another cursor is fetched from.** -/
theorem spares_updateCursor (h : e.Sound) {other : CursorId} (hne : id ≠ other) {c : Cursor}
    (hsome : c.remaining ≠ []) : Spares id e (e.updateCursor other c) := by
  have hsound := h.updateCursor other hsome
  refine ⟨hsound, Int.le_refl _, fun _ c' hc' => ?_⟩
  obtain ⟨old, hold, heq⟩ := List.mem_map.mp (hsound.cursor?_eq_some_iff.mp hc')
  rw [h.cursor?_eq_some_iff]
  split at heq
  · exact absurd (congrArg Prod.fst heq).symm hne
  · rwa [← heq]

/-! ## §3 — fetching from the cursor itself -/

theorem cursor?_removeCursor (e : Engine) (id : CursorId) : (e.removeCursor id).cursor? id = none := by
  unfold cursor? removeCursor
  rw [List.lookup_eq_none_iff]
  intro c hc
  have hne := (List.mem_filter.mp hc).2
  simpa [bne, Bool.beq_comm] using hne

/-- A cursor that is there has its new state. -/
theorem Sound.cursor?_updateCursor (h : e.Sound) {old c : Cursor} (hold : e.cursor? id = some old)
    (hsome : c.remaining ≠ []) : (e.updateCursor id c).cursor? id = some c := by
  rw [(h.updateCursor id hsome).cursor?_eq_some_iff]
  refine List.mem_map.mpr ⟨(id, old), h.cursor?_eq_some_iff.mp hold, ?_⟩
  rw [if_pos rfl]

/-- The engine after the first `n` documents of a cursor were handed out. -/
def takeFrom (e : Engine) (id : CursorId) (c : Cursor) (n : Nat) : Engine :=
  if (c.remaining.drop n).isEmpty then e.removeCursor id
  else e.updateCursor id { c with remaining := c.remaining.drop n, lastUsed := e.now }

/-- **A fetch from the cursor itself** leaves the rest of it, and removes it if there is none. -/
theorem Sound.takeFrom (h : e.Sound) {c : Cursor} (hc : e.cursor? id = some c) (n : Nat) :
    (e.takeFrom id c n).Sound ∧ (e.takeFrom id c n).nextCursor = e.nextCursor ∧
      (∀ c', (e.takeFrom id c n).cursor? id = some c' →
        c'.ns = c.ns ∧ c'.remaining = c.remaining.drop n) ∧
      (c.remaining.drop n ≠ [] → ((e.takeFrom id c n).cursor? id).isSome) := by
  unfold Engine.takeFrom
  split
  · next hnone =>
    have hspares : Spares id e (e.removeCursor id) := spares_removeCursor h id
    refine ⟨hspares.sound, rfl, fun c' hc' => ?_, fun hsome => ?_⟩
    · rw [cursor?_removeCursor] at hc'
      cases hc'
    · exact absurd (List.isEmpty_iff.mp hnone) hsome
  · next hsome =>
    have hsome : c.remaining.drop n ≠ [] := by simpa using hsome
    have hnew := h.cursor?_updateCursor hc (c := ⟨c.ns, c.remaining.drop n, e.now⟩) hsome
    refine ⟨h.updateCursor id hsome, rfl, fun c' hc' => ?_, fun _ => ?_⟩
    · rw [hnew] at hc'
      obtain rfl := Option.some.inj hc'
      exact ⟨rfl, rfl⟩
    · rw [hnew]
      rfl

/-- For every other cursor a fetch is work that spares it. -/
theorem spares_takeFrom (h : e.Sound) {other : CursorId} (hne : id ≠ other) (c : Cursor) (n : Nat) :
    Spares id e (e.takeFrom other c n) := by
  unfold Engine.takeFrom
  split
  · exact spares_removeCursor h other
  · next hsome => exact spares_updateCursor h hne (by simpa using hsome)

end Engine

end DocStore
