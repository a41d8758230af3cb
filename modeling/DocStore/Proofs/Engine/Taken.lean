import DocStore.Proofs.Engine.Restarts
import DocStore.Proofs.Engine.Snapshot
import DocStore.Proofs.Store.Taken

/-!
# DocStore — inserting one document

Whatever file an engine started on, the texts that it keeps of a collection are those of its documents
(**`Engine.Reachable.told`**). So inserting one document can go two ways, as long as the journal can be
written: it is refused (**`Store.insert_of_taken`**) or stored (**`Store.insert_of_free`**).
-/

namespace DocStore

/-- **The taken texts of an engine** are those of its documents, whatever file it started on. -/
theorem Engine.Reachable.told {e : Engine} (h : e.Reachable) : e.store.catalog.Told := by
  induction h with
  | @start options host e h =>
    obtain ⟨store, hopen, rfl⟩ := Engine.start_eq_ok h
    exact Store.told_of_open hopen
  | @call e _ c ih =>
    -- the host may go its own way, but the catalog is not on it
    rcases c.store_after e with ⟨host, rfl⟩ | hsame | ⟨call, -, hrun⟩
    · exact ih
    · rwa [hsame]
    · rw [hrun]
      exact call.told_run ih

namespace Store

variable {s : Store} {db coll : String} {d : Document}

/-- These records can be logged one after the other: there is no journal, or they fit into its frames and
no write fails from now on. -/
def CanLog (s : Store) (rs : List Record) : Prop :=
  s.journal.isSome = true →
    (∀ r ∈ rs, r.Fits) ∧ ∀ n, s.host.disk.writes ≤ n → s.host.disk.failsAfter n = none

theorem CanLog.tail {r : Record} {rs : List Record} (h : s.CanLog (r :: rs)) : s.CanLog rs := by
  intro hj
  obtain ⟨hfits, hwrites⟩ := h hj
  exact ⟨fun r hr => hfits r (List.mem_cons_of_mem _ hr), hwrites⟩

/-- What can be logged is a matter of the journal and its disk. -/
theorem CanLog.of_disk {rs : List Record} (h : s.CanLog rs) {s' : Store}
    (hjournal : s'.journal = s.journal) (hdisk : s'.host.disk = s.host.disk) : s'.CanLog rs := by
  intro hj
  rw [hdisk]
  exact h (hjournal ▸ hj)

/-- What is logged leaves the others to be logged. -/
theorem CanLog.log {r : Record} {rs : List Record} (h : s.CanLog (r :: rs)) :
    ∃ journal disk, s.log r = (.ok (), ⟨s.catalog, journal, s.host.withDisk disk⟩) ∧
      CanLog ⟨s.catalog, journal, s.host.withDisk disk⟩ rs := by
  cases hj : s.journal with
  | none =>
    refine ⟨none, s.host.disk, ?_, nofun⟩
    rw [log_of_inMemory r hj, Host.withDisk_self, ← hj]
  | some j =>
    obtain ⟨hfits, hwrites⟩ := h (by rw [hj]; rfl)
    obtain ⟨hfit, hfits⟩ := List.forall_mem_cons.mp hfits
    have hwrite := hwrites _ (Nat.le_refl _)
    refine ⟨some { j with dirty := true }, s.host.disk.written (s.host.disk.bytes ++ r.frame), ?_,
      fun _ => ⟨hfits, fun n hn => hwrites n (Nat.le_of_succ_le hn)⟩⟩
    rw [log_of_journal r hj, Journal.append_of_fits j hfit hwrite]
    rfl

/-- The engine gives an `_id` where the client has not. -/
theorem insert_eq (s : Store) (db coll : String) (d : Document) :
    s.insert db coll [d]
      = { s with host := (s.host.ensureId d).2 }.insert db coll [(s.host.ensureId d).1] := by
  have hids : ∀ d' ∈ [(s.host.ensureId d).1], d'.contains "_id" = true :=
    List.forall_mem_singleton.mpr (s.host.contains_ensureId d)
  have hone : s.host.ensureIds [d] = ([(s.host.ensureId d).1], (s.host.ensureId d).2) := rfl
  unfold insert
  -- on the right the document has its `_id`, so no other one is drawn
  rw [hone, Host.ensureIds_of_contains _ hids]

/-- **A document whose text is taken** is refused. -/
theorem insert_of_taken (hid : d.contains "_id" = true) {key : String} (hkey : d.idKey? = some key)
    (htaken : key ∈ s.catalog.takenIds db coll) :
    s.insert db coll [d] = (.error (.duplicateKey (namespaceText db coll) key), s) := by
  have hfirst : firstTaken? (s.catalog.takenIds db coll) [d] = some key := by
    unfold firstTaken?
    simp [hkey, htaken]
  unfold insert
  rw [Host.ensureIds_of_contains _ (List.forall_mem_singleton.mpr hid)]
  simp only [hfirst]
  rfl

/-- **A document whose text is free** is stored. -/
theorem insert_of_free (hid : d.contains "_id" = true)
    (hfree : ∀ key, d.idKey? = some key → key ∉ s.catalog.takenIds db coll) {rs : List Record}
    (hlog : s.CanLog (.insert db coll [d.toValue] :: rs)) :
    ∃ journal disk, s.insert db coll [d]
        = (.ok 1, ⟨s.catalog.insert db coll [d], journal, s.host.withDisk disk⟩) ∧
      CanLog ⟨s.catalog.insert db coll [d], journal, s.host.withDisk disk⟩ rs := by
  have hfirst : firstTaken? (s.catalog.takenIds db coll) [d] = none := by
    unfold firstTaken?
    cases hkey : d.idKey? with
    | none => rfl
    | some key => simp [hfree key hkey, firstTaken?]
  obtain ⟨journal, disk, hlogged, hrest⟩ := hlog.log
  refine ⟨journal, disk, ?_, hrest⟩
  unfold insert
  rw [Host.ensureIds_of_contains _ (List.forall_mem_singleton.mpr hid)]
  simp only [hfirst, List.map_cons, List.map_nil]
  rw [show Store.log { s with host := s.host } _ = _ from hlogged]
  rfl

end Store

end DocStore
