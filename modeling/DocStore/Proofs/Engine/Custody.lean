import DocStore.Proofs.Engine.Lifecycle
import DocStore.Proofs.Engine.Snapshot

/-!
# DocStore — who answers for a cursor

A cursor is known by its id and its namespace, its key. Only an `aggregate` brings a new key into the
table; everything else leaves the keys or takes some away. So if someone answers for each cursor when it
is opened, someone answers for each cursor ever after.

* **`Engine.keys_call`** — what a call that is no `aggregate` does to the keys.
* **`Engine.Custody`** — all keys of the table are among those that are held, and no id is held twice.
* **`Engine.Custody.call`**, **`Custody.joined`**, **`Custody.spent`**, **`Custody.without`** — the steps:
  a call, a key that is new, a cursor that has come to its end, and one that is taken away.
-/

namespace DocStore

/-! ## §1 — documents that open cursors -/

/-- A command document that is read as an `aggregate`. -/
def Document.Opens (d : Document) : Prop :=
  d.firstName? = some "aggregate" ∧ ∃ c, Command.readAggregate d = .ok c

/-- Nothing else is read as one. -/
theorem Command.ofDocument_eq_aggregate {name : String} {d : Document} {coll : String}
    {pipeline : Pipeline} {batchSize : Option Nat} (hname : d.firstName? = some name)
    (h : ofDocument name d = .ok (.aggregate coll pipeline batchSize)) : d.Opens := by
  unfold ofDocument at h
  split at h
  · cases h
  · cases h
  · cases h
  · cases h
  · cases h
  · cases h
  · cases h
  · obtain ⟨_, -, h⟩ := ok_of_bind h
    obtain ⟨_, -, h⟩ := ok_of_bind h
    obtain ⟨_, -, h⟩ := ok_of_bind h
    split at h <;> cases h
  · obtain ⟨_, -, h⟩ := ok_of_bind h
    obtain ⟨_, -, h⟩ := ok_of_bind h
    cases h
  · exact ⟨hname, _, h⟩
  · obtain ⟨_, _, _, heq, -⟩ := readGetMore_eq_ok h
    cases heq
  · obtain ⟨_, -, h⟩ := ok_of_bind h
    obtain ⟨_, -, h⟩ := ok_of_bind h
    cases h
  · cases h
  · cases h
  · obtain ⟨_, -, h⟩ := ok_of_bind h
    cases h
  · cases h
  · cases h

namespace Engine

/-! ## §2 — keys -/

variable {e : Engine} {id : CursorId}

/-- The id and the namespace of every cursor in the table. -/
def keys (e : Engine) : List (CursorId × String) := e.cursors.map fun c => (c.1, c.2.ns)

theorem keys_sublist {e' : Engine} (h : e'.cursors.Sublist e.cursors) : e'.keys.Sublist e.keys :=
  h.map _

theorem cursors_eq_nil_of_keys {e' : Engine} (hkeys : e'.keys.Sublist e.keys) (h : e.cursors = []) :
    e'.cursors = [] := by
  have hnone : e.keys = [] := by
    unfold keys
    rw [h, List.map_nil]
  rw [hnone] at hkeys
  exact List.map_eq_nil_iff.mp (List.sublist_nil.mp hkeys)

/-- Where nothing is left, there is no cursor. -/
theorem Holds.cursor?_eq_none {ns : String} (h : e.Holds id ns []) : e.cursor? id = none := by
  cases hc : e.cursor? id with
  | none => rfl
  | some c => exact absurd (h.cursor c hc).2 (h.sound.remaining_ne_nil hc)

/-- A fetch leaves the cursor with its key, or takes it away. -/
theorem keys_takeFrom (h : e.Sound) {c : Cursor} (hc : e.cursor? id = some c) (n : Nat) :
    (e.takeFrom id c n).keys.Sublist e.keys := by
  unfold takeFrom
  split
  · exact keys_sublist List.filter_sublist
  · have hsame : (e.updateCursor id { c with remaining := c.remaining.drop n, lastUsed := e.now }).keys
        = e.keys := by
      show (e.cursors.map _).map _ = _
      rw [List.map_map]
      apply List.map_congr_left
      rintro ⟨k, old⟩ hold
      by_cases hid : k = id
      · -- the id is that of one cursor only
        subst hid
        have hfound := h.cursor?_eq_some_iff.mpr hold
        obtain rfl : c = old := Option.some.inj (hc.symm.trans hfound)
        simp
      · simp [hid]
    exact hsame ▸ List.Sublist.refl _

/-- **What is asked for** leaves the keys or takes some away, unless it is an `aggregate`. -/
theorem keys_perform (h : e.Sound) (db : String) {c : Command}
    (hc : ∀ coll pipeline batchSize, c ≠ .aggregate coll pipeline batchSize) :
    (e.perform db c).2.keys.Sublist e.keys ∧ (e.perform db c).2.nextCursor = e.nextCursor := by
  rcases perform_table e db c with
    ⟨hsub, hnext⟩ | ⟨_, _, _, _, _, rfl, -⟩ | ⟨id, _, _, counters, cursor, n, -, hcursor, hrun⟩
  · exact ⟨keys_sublist hsub, hnext⟩
  · exact absurd rfl (hc _ _ _)
  · have hcounted : Spares 0 e { e with counters := counters } := spares_of_eq h rfl rfl
    rw [hrun]
    exact ⟨keys_takeFrom hcounted.sound hcursor n, (hcounted.sound.takeFrom hcursor n).2.1⟩

theorem keys_command (h : e.Sound) (connection : ConnectionId) (db : String) {d : Document}
    (hd : ¬ d.Opens) : (e.command connection db d).2.keys.Sublist e.keys ∧
      (e.command connection db d).2.nextCursor = e.nextCursor := by
  rcases refused_or_takes e connection db d with ⟨err, hrun⟩ | ⟨err, hrun⟩ | ⟨c, htakes⟩
  · rw [hrun]
    exact ⟨List.Sublist.refl _, rfl⟩
  · rw [hrun]
    exact ⟨List.Sublist.refl _, rfl⟩
  · obtain ⟨name, hname, hread⟩ := htakes.read
    rw [htakes.snd_command]
    exact keys_perform h.countCommand db fun coll pipeline batchSize heq =>
      hd (Command.ofDocument_eq_aggregate hname (heq ▸ hread))

/-- **A call that sends no `aggregate`** leaves the keys or takes some away. One case for each call. -/
theorem keys_call (h : e.Sound) {c : Call}
    (hc : ∀ connection db d, c = .command connection db d → ¬ d.Opens) :
    (c.after e).keys.Sublist e.keys ∧ (c.after e).nextCursor = e.nextCursor := by
  cases c with
  | openConnection =>
    simp only [Call.after, openConnection]
    split <;> exact ⟨List.Sublist.refl _, rfl⟩
  | closeConnection connection =>
    simp only [Call.after, closeConnection]
    split
    · exact ⟨List.Sublist.refl _, rfl⟩
    · split <;> exact ⟨List.Sublist.refl _, rfl⟩
  | command connection db d => exact keys_command h connection db (hc connection db d rfl)
  | pump =>
    simp only [Call.after, pump]
    split
    · exact ⟨List.Sublist.refl _, rfl⟩
    · split <;> exact ⟨keys_sublist List.filter_sublist, rfl⟩
  | close =>
    simp only [Call.after, close]
    split
    · exact ⟨List.Sublist.refl _, rfl⟩
    · exact ⟨List.nil_sublist _, rfl⟩
  | move host => exact ⟨List.Sublist.refl _, rfl⟩

/-- Whatever its answer, killing cursors takes those away that are named. -/
theorem Sound.snd_performKillCursors (h : e.Sound) (db coll : String) (ids : List Value) :
    (e.performKillCursors db coll ids).2
      = e.withoutCursors (namespaceText db coll) (leadingIds ids) := by
  unfold performKillCursors
  rcases h.killCursors (namespaceText db coll) ids with ⟨-, hrun⟩ | ⟨-, _, hrun⟩
  · rw [hrun]
  · rw [hrun]

/-! ## §3 — keys that are held -/

/-- Someone answers for every cursor of the table. Of the keys that are held, no two have an id in
common, unless it is `0`, which is no cursor's, and 64 bits hold every id. -/
structure Custody (e : Engine) (keys : List (CursorId × String)) : Prop where
  sound : e.Sound
  emptied : e.closed = true → e.cursors = []
  owned : e.keys ⊆ keys
  given : ∀ key ∈ keys, key.1 < e.nextCursor
  ids : e.nextCursor ≤ 2 ^ 63
  distinct : keys.Pairwise fun key key' => key.1 = key'.1 → key.1 = 0

theorem custody_of_start {options : Options} {host : Host} (h : Engine.start options host = .ok e) :
    e.Custody [] := by
  have hsound := sound_of_start h
  obtain ⟨store, -, rfl⟩ := start_eq_ok h
  have hids : (1 : CursorId) ≤ 2 ^ 63 := by decide
  exact ⟨hsound, fun _ => rfl, List.Subset.refl _, by simp, hids, List.Pairwise.nil⟩

namespace Custody

variable {keys others : List (CursorId × String)} {key : CursorId × String} {e' : Engine}

/-- It does not matter in which order keys are held. -/
theorem perm (h : e.Custody keys) {keys' : List (CursorId × String)} (hperm : keys.Perm keys') :
    e.Custody keys' where
  sound := h.sound
  emptied := h.emptied
  owned := fun _ hk => hperm.subset (h.owned hk)
  given := fun k hk => h.given k (hperm.symm.subset hk)
  ids := h.ids
  distinct := h.distinct.perm hperm fun hzero hsame => hsame.trans (hzero hsame.symm)

/-- **A call that sends no `aggregate`** leaves every cursor in custody. -/
theorem call (h : e.Custody keys) {c : Call}
    (hc : ∀ connection db d, c = .command connection db d → ¬ d.Opens) : (c.after e).Custody keys := by
  obtain ⟨hkeys, hnext⟩ := keys_call h.sound hc
  have hspares : Spares 0 e (c.after e) := Call.spares h.sound fun _ => rfl
  refine ⟨hspares.sound, fun hclosed => ?_, fun _ hk => h.owned (hkeys.subset hk), ?_, ?_,
    h.distinct⟩
  · rcases (closed_after e c).mp hclosed with hbefore | rfl
    · exact cursors_eq_nil_of_keys hkeys (h.emptied hbefore)
    · cases hopen : e.closed with
      | true => exact cursors_eq_nil_of_keys hkeys (h.emptied hopen)
      | false =>
        simp only [Call.after, close, hopen]
        rfl
  · rw [hnext]
    exact h.given
  · rw [hnext]
    exact h.ids

/-- **A key that is new** is held from now on. -/
theorem joined (h : e.Custody keys) (hsound : e'.Sound) (hopen : e'.closed = false)
    (hkeys : e'.keys ⊆ key :: e.keys) (hnext : e.nextCursor ≤ e'.nextCursor)
    (hids : e'.nextCursor ≤ 2 ^ 63) (hgiven : key.1 < e'.nextCursor)
    (hnew : key.1 = 0 ∨ key.1 = e.nextCursor) : e'.Custody (key :: keys) := by
  refine ⟨hsound, fun hclosed => ?_, fun k hk => ?_, fun k hk => ?_, hids, ?_⟩
  · rw [hopen] at hclosed
    cases hclosed
  · rcases List.mem_cons.mp (hkeys hk) with rfl | hold
    · exact List.mem_cons_self
    · exact List.mem_cons_of_mem _ (h.owned hold)
  · rcases List.mem_cons.mp hk with rfl | hold
    · exact hgiven
    · exact Int.lt_of_lt_of_le (h.given k hold) hnext
  · refine List.pairwise_cons.mpr ⟨fun k hk hsame => ?_, h.distinct⟩
    rcases hnew with hzero | hfresh
    · exact hzero
    · -- an id that has been given out is not the next one
      have hlt := h.given k hk
      rw [← hsame, hfresh] at hlt
      exact absurd hlt (Int.lt_irrefl _)

/-- **A cursor that has come to its end** is held no longer. -/
theorem spent (h : e.Custody (key :: others)) (hgone : e.cursor? key.1 = none) :
    e.Custody ((0, key.2) :: others) := by
  obtain ⟨-, hothers⟩ := List.pairwise_cons.mp h.distinct
  refine ⟨h.sound, h.emptied, fun k hk => ?_, fun k hk => ?_, h.ids,
    List.pairwise_cons.mpr ⟨fun _ _ _ => rfl, hothers⟩⟩
  · rcases List.mem_cons.mp (h.owned hk) with rfl | hother
    · obtain ⟨c, hc, rfl⟩ := List.mem_map.mp hk
      rw [h.sound.cursor?_eq_some_iff.mpr hc] at hgone
      cases hgone
    · exact List.mem_cons_of_mem _ hother
  · rcases List.mem_cons.mp hk with rfl | hother
    · exact h.sound.next
    · exact h.given k (List.mem_cons_of_mem _ hother)

/-- A cursor with an id that is held has the namespace that is held with it. -/
theorem key_eq (h : e.Custody (key :: others)) {c : CursorId × Cursor} (hc : c ∈ e.cursors)
    (hid : c.1 = key.1) : (c.1, c.2.ns) = key := by
  obtain ⟨hapart, -⟩ := List.pairwise_cons.mp h.distinct
  rcases List.mem_cons.mp (h.owned (List.mem_map_of_mem hc)) with heq | hother
  · exact heq
  · have hzero : key.1 = 0 := hapart _ hother hid.symm
    have hpos := (h.sound.given c hc).1
    rw [hid, hzero] at hpos
    exact absurd hpos (Int.lt_irrefl 0)

/-- **Killing the cursor of a key** takes away that cursor and no other. -/
theorem cursors_withoutCursors (h : e.Custody (key :: others)) :
    (e.withoutCursors key.2 [key.1]).cursors = e.cursors.filter fun c => c.1 ≠ key.1 := by
  refine List.filter_congr fun c hc => ?_
  by_cases hid : c.1 = key.1
  · have hns : c.2.ns = key.2 := congrArg Prod.snd (h.key_eq hc hid)
    simp [hid, hns]
  · simp [hid]

/-- **When a cursor has been taken away**, its key need not be held. -/
theorem without (h : e.Custody (key :: others))
    (hcursors : e'.cursors = e.cursors.filter fun c => c.1 ≠ key.1)
    (hnext : e'.nextCursor = e.nextCursor) (hclosed : e'.closed = e.closed) : e'.Custody others := by
  obtain ⟨-, hothers⟩ := List.pairwise_cons.mp h.distinct
  have hsub : e'.cursors.Sublist e.cursors := by
    rw [hcursors]
    exact List.filter_sublist
  have hspares : Spares 0 e e' := spares_of_sublist h.sound hsub hnext
  refine ⟨hspares.sound, fun hclosed' => ?_, fun k hk => ?_, fun k hk => ?_,
    hnext ▸ h.ids, hothers⟩
  · rw [hclosed] at hclosed'
    exact cursors_eq_nil_of_keys (keys_sublist hsub) (h.emptied hclosed')
  · obtain ⟨c, hc, rfl⟩ := List.mem_map.mp hk
    rw [hcursors] at hc
    obtain ⟨hmem, hne⟩ := List.mem_filter.mp hc
    have hne : c.1 ≠ key.1 := by simpa using hne
    rcases List.mem_cons.mp (h.owned (List.mem_map_of_mem hmem)) with heq | hother
    · exact absurd (congrArg Prod.fst heq) hne
    · exact hother
  · rw [hnext]
    exact h.given k (List.mem_cons_of_mem _ hk)

end Custody

end Engine

end DocStore
