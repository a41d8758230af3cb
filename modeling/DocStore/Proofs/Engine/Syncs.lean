import DocStore.Proofs.Engine.Lifecycle
import DocStore.Proofs.Engine.Restarts

/-!
# DocStore — when a pump syncs

A journal remembers whether something was written to it that is not synced. A pump syncs it then, and
says so. On a disk that works this comes to the changes that were made since the pump before: to the
inserts that went well and to the drops of something that was there.

* **`Store.Journaled.run`**, **`Store.Journaled.flush`** — what a call on a durable store does to its
  journal and file.
* **`Engine.Call.Changes`** — a command has changed what is stored, told by its reply and the catalog.
* **`Engine.journaled_after`** — the step: a call writes records if, and only if, it changes something;
  **`Engine.journaled_follow`** — the run, by induction on the calls.
* **`pump_syncs_changes`** — the main statement.
-/

namespace DocStore

/-! ## §1 — the journal of a store on a disk that works -/

/-- No write fails and no sync. -/
structure Disk.Works (d : Disk) : Prop where
  writes : ∀ n, d.failsAfter n = none
  syncs : ∀ n, d.syncFails n = false

namespace Store

/-- The journal of a durable store and its disk: whether there is something to sync, how often the disk was
synced, and what the file holds. -/
structure Journaled (s : Store) (dirty : Bool) (syncs : Nat) (bytes : List UInt8) : Prop where
  journal : ∃ path, s.journal = some ⟨path, dirty⟩
  works : s.host.disk.Works
  syncs : s.host.disk.syncs = syncs
  bytes : s.host.disk.bytes = bytes

variable {s : Store} {dirty : Bool} {syncs : Nat} {bytes : List UInt8}

/-- A call that only draws ids leaves the journal. -/
theorem Journaled.drawn (h : s.Journaled dirty syncs bytes) (c : Call) :
    (c.drawn s).Journaled dirty syncs bytes := by
  refine ⟨?_, ?_, ?_, ?_⟩
  · rw [Call.journal_drawn]
    exact h.journal
  all_goals rw [Call.disk_drawn]
  · exact h.works
  · exact h.syncs
  · exact h.bytes

/-- **A call on the store** writes what it logs, and is not synced. -/
theorem Journaled.run (h : s.Journaled dirty syncs bytes) {c : Call} (hflush : c ≠ .flush) :
    (c.run s).2.Journaled (dirty || !(c.logged s).isEmpty) syncs
      (bytes ++ Journal.frames (c.logged s)) := by
  obtain ⟨path, hj⟩ := h.journal
  have hidle : (c.drawn s).Journaled (dirty || !([] : List Record).isEmpty) syncs
      (bytes ++ Journal.frames []) := by
    simpa using h.drawn c
  cases hc : c.change? s with
  | none =>
    rw [Call.logged_of_no_change hc, Call.run_of_idle hc hflush]
    exact hidle
  | some r =>
    by_cases hfits : r.Fits
    · have hwrite := h.works.writes s.host.disk.writes
      obtain ⟨catalog, -, hrun⟩ := Call.run_of_written hc hj hfits hwrite
      rw [Call.logged_of_written hc hj hfits hwrite, hrun]
      refine ⟨⟨path, by simp⟩, ⟨h.works.writes, h.works.syncs⟩, h.syncs, ?_⟩
      simp [h.bytes]
    · rw [Call.logged_of_not_fits hc hj hfits, Call.run_of_not_fits hc hj hfits]
      exact hidle

/-- **A flush** syncs if there is something to sync, and says whether. -/
theorem Journaled.flush (h : s.Journaled dirty syncs bytes) :
    s.flush.1 = .ok dirty ∧
      s.flush.2.Journaled false (syncs + if dirty then 1 else 0) bytes := by
  obtain ⟨path, hj⟩ := h.journal
  rw [flush_of_journal hj]
  unfold Journal.sync Disk.sync
  cases dirty with
  | true =>
    simp only [if_true, h.works.syncs, Bool.not_false]
    exact ⟨trivial, ⟨path, rfl⟩, ⟨h.works.writes, h.works.syncs⟩, congrArg (· + 1) h.syncs, h.bytes⟩
  | false => exact ⟨rfl, ⟨path, rfl⟩, h.works, h.syncs, h.bytes⟩

/-- A store that is opened has nothing to sync, whatever it found in the file. -/
theorem journaled_of_open {options : Options} {host : Host} (h : Store.open options host = .ok s)
    (hpath : options.journalPath?.isSome = true) (hworks : host.disk.Works) :
    s.Journaled false host.disk.syncs s.host.disk.bytes := by
  rcases open_eq_ok h with ⟨hnone, -⟩ | ⟨path, records, catalog, file, -, -, rfl⟩
  · simp [hnone] at hpath
  · exact ⟨⟨path, rfl⟩, ⟨hworks.writes, hworks.syncs⟩, rfl, rfl⟩

/-! ## §2 — what a store logs -/

theorem inMemory_of_open {options : Options} {host : Host} (h : Store.open options host = .ok s)
    (hpath : options.journalPath? = none) : s.journal = none := by
  rcases open_eq_ok h with ⟨-, rfl⟩ | ⟨path, records, catalog, file, hsome, -, -⟩
  · rfl
  · cases hpath.symm.trans hsome

/-- A store in memory stays in memory. -/
theorem Call.inMemory_run (c : Call) (h : s.journal = none) : (c.run s).2.journal = none := by
  cases hc : c.change? s with
  | none =>
    obtain ⟨journal, n, hjournal, hrun⟩ := run_of_no_change hc
    rw [hrun]
    rw [h] at hjournal
    exact Option.not_isSome_iff_eq_none.mp (by simp [hjournal])
  | some r =>
    obtain ⟨catalog, -, hrun⟩ := run_of_change hc
    rw [hrun, log_of_inMemory r ((journal_drawn c s).trans h)]
    exact (journal_drawn c s).trans h

/-- What a call logs is the change that it has made. -/
theorem Call.apply_of_mem_logged {c : Call} {r : Record} (h : r ∈ c.logged s) :
    s.catalog.apply r = .ok (c.run s).2.catalog := by
  obtain ⟨catalog, happly, hrun⟩ := run_of_change (change?_of_mem_logged h)
  rcases hlog : (c.drawn s).log r with ⟨answer, s'⟩
  rw [hlog] at hrun
  cases answer with
  | ok _ =>
    rw [hrun]
    exact happly
  | error e => simp [logged, hrun] at h

end Store

/-! ## §3 — commands that change what is stored -/

/-- What is different after a command that went well: there is nothing to say of an insert, and a drop has
removed something that was there. -/
def Command.Changes (db : String) (before after : Catalog) : Command → Prop
  | insert _ _ => True
  | drop coll => (before.collection? db coll).isSome = true ∧ after.collection? db coll = none
  | dropDatabase => (before.database? db).isSome = true ∧ after.database? db = none
  | _ => False

namespace Engine

/-- A call changes what is stored: an insert that goes well, or a drop that goes well of something that was
there and is gone. -/
def Call.Changes : Call → Engine → Prop
  | command connection db d, e => ∃ c reply e', e.Takes connection db d c ∧
      e.command connection db d = (.ok reply, e') ∧ c.Changes db e.store.catalog e'.store.catalog
  | _, _ => False

variable {e : Engine} {connection : ConnectionId} {db : String} {d : Document} {c : Command}

/-- A document is read in one way. -/
theorem Takes.eq {c' : Command} (h : e.Takes connection db d c) (h' : e.Takes connection db d c') :
    c = c' := by
  obtain ⟨name, hname, hread⟩ := h.read
  obtain ⟨name', hname', hread'⟩ := h'.read
  obtain rfl := Option.some.inj (hname.symm.trans hname')
  exact Except.ok.inj (hread.symm.trans hread')

/-- A command has a reply if its call on the store does not fail. -/
theorem perform_ok_iff_of_call (e : Engine) {call : Store.Call} (hc : c.storeCall? db = some call) :
    (∃ reply, (e.perform db c).1 = .ok reply) ↔ (call.run e.store).1.isFailure = false := by
  cases c with
  | insert coll ds =>
    obtain rfl := Option.some.inj hc
    simp only [perform, performInsert, Store.Call.run]
    rcases e.store.insert db coll ds with ⟨answer, store⟩
    cases answer <;> simp [Store.Answer.isFailure]
  | drop coll =>
    obtain rfl := Option.some.inj hc
    simp only [perform, performDrop, Store.Call.run]
    rcases e.store.dropCollection db coll with ⟨answer, store⟩
    cases answer <;> simp [Store.Answer.isFailure]
  | dropDatabase =>
    obtain rfl := Option.some.inj hc
    simp only [perform, performDropDatabase, Store.Call.run]
    rcases e.store.dropDatabase db with ⟨answer, store⟩
    cases answer <;> simp [Store.Answer.isFailure]
  | _ => cases hc

/-- **What goes well and changes something is what the store logs.** -/
theorem changes_iff_logged {call : Store.Call} {s : Store} (hc : c.storeCall? db = some call)
    (hwell : (call.run s).1.isFailure = false) :
    c.Changes db s.catalog (call.run s).2.catalog ↔ call.logged s ≠ [] := by
  have hlogged : call.logged s = (call.change? s).toList := if_neg (by simp [hwell])
  have hmade : ∀ r, call.change? s = some r → s.catalog.apply r = .ok (call.run s).2.catalog :=
    fun r hr => Store.Call.apply_of_mem_logged (by simp [hlogged, hr])
  rw [hlogged]
  cases c with
  | insert coll ds =>
    obtain rfl := Option.some.inj hc
    -- an insert that goes well has found no text that is taken
    simp only [Store.Call.change?]
    split
    · next key htaken => simp [Store.Call.run, Store.insert, htaken, Store.Answer.isFailure] at hwell
    · simp [Command.Changes]
  | drop coll =>
    obtain rfl := Option.some.inj hc
    cases hfound : s.catalog.collection? db coll with
    | none => simp [Command.Changes, Store.Call.change?, hfound]
    | some collection =>
      have hgone := hmade (.dropCollection db coll) (by simp [Store.Call.change?, hfound])
      simp [Command.Changes, Store.Call.change?, hfound, ← Except.ok.inj hgone,
        Catalog.collection?_dropCollection]
  | dropDatabase =>
    obtain rfl := Option.some.inj hc
    cases hfound : s.catalog.database? db with
    | none => simp [Command.Changes, Store.Call.change?, hfound]
    | some collections =>
      have hgone := hmade (.dropDatabase db) (by simp [Store.Call.change?, hfound])
      have hnone : (s.catalog.dropDatabase db).database? db = none :=
        (SortedMap.find?_erase _ db db).trans (if_pos rfl)
      simp [Command.Changes, Store.Call.change?, hfound, ← Except.ok.inj hgone, hnone]
  | _ => cases hc

/-- A call that is no command of the three kinds changes nothing. -/
theorem Takes.not_changes (h : e.Takes connection db d c) (hc : c.storeCall? db = none) :
    ¬ (Call.command connection db d).Changes e := by
  rintro ⟨c', reply, e', htakes, -, hchanges⟩
  obtain rfl := h.eq htakes
  cases c with
  | insert coll ds => cases hc
  | drop coll => cases hc
  | dropDatabase => cases hc
  | _ => exact hchanges

theorem Takes.store_of_call (h : e.Takes connection db d c) {call : Store.Call}
    (hc : c.storeCall? db = some call) :
    (e.command connection db d).2.store = (call.run e.store).2 := by
  rw [h.snd_command]
  exact e.countCommand.store_perform_of_call hc

/-- **A command changes something** if, and only if, its call on the store logs a record. -/
theorem Takes.changes_iff (h : e.Takes connection db d c) {call : Store.Call}
    (hc : c.storeCall? db = some call) :
    (Call.command connection db d).Changes e ↔ call.logged e.store ≠ [] := by
  have hreply : (∃ reply, (e.command connection db d).1 = .ok reply) ↔
      (call.run e.store).1.isFailure = false := by
    refine Iff.trans ?_ (e.countCommand.perform_ok_iff_of_call hc)
    rw [h.command]
    rcases e.countCommand.perform db c with ⟨answer, e'⟩
    cases answer <;> simp
  cases hwell : (call.run e.store).1.isFailure with
  | true =>
    simp only [Store.Call.logged, hwell, if_true, ne_eq, not_true_eq_false, iff_false]
    rintro ⟨c', reply, e', -, hcommand, -⟩
    have hnot := hreply.mp ⟨reply, congrArg Prod.fst hcommand⟩
    cases hwell.symm.trans hnot
  | false =>
    rw [← changes_iff_logged hc hwell, ← h.store_of_call hc]
    constructor
    · rintro ⟨c', reply, e', htakes, hcommand, hchanges⟩
      obtain rfl := h.eq htakes
      rw [hcommand]
      exact hchanges
    · intro hchanges
      obtain ⟨reply, hcommand⟩ := hreply.mpr hwell
      exact ⟨c, reply, _, h, Prod.ext hcommand rfl, hchanges⟩

/-! ## §4 — runs of calls -/

/-- The host goes its own way, but nobody else comes to the disk. -/
def Call.LeavesDisk : Call → Engine → Prop
  | move host, e => host.disk = e.store.host.disk
  | _, _ => True

/-- **One call** on an open engine that neither pumps nor closes it writes records behind what the file
holds, at least one if it changes something and none if it does not. It syncs nothing. -/
theorem journaled_after {dirty : Bool} {syncs : Nat} {bytes : List UInt8}
    (h : e.store.Journaled dirty syncs bytes) {c : Call} (hpump : c ≠ .pump) (hclose : c ≠ .close)
    (hdisk : c.LeavesDisk e) :
    ∃ rs, (c.after e).store.Journaled (dirty || !rs.isEmpty) syncs (bytes ++ Journal.frames rs) ∧
      (c.Changes e ↔ rs ≠ []) := by
  have hidle : (c.after e).store.Journaled dirty syncs bytes → ¬ c.Changes e →
      ∃ rs, (c.after e).store.Journaled (dirty || !rs.isEmpty) syncs (bytes ++ Journal.frames rs) ∧
        (c.Changes e ↔ rs ≠ []) := fun hkept hnot =>
    ⟨[], by simpa using hkept, iff_of_false hnot (by simp)⟩
  have hsame : (c.after e).store = e.store → ¬ c.Changes e → _ := fun hsame =>
    hidle (hsame ▸ h)
  -- connections are nothing that the store knows of
  have hother : (∀ call, ¬ c.Asks e call) → (∀ host, c ≠ .move host) →
      (c.after e).store = e.store := fun hasks hmove => by
    rcases c.store_after e with ⟨host, rfl⟩ | hsame | ⟨call, hcall, -⟩
    · exact absurd rfl (hmove host)
    · exact hsame
    · exact absurd hcall (hasks call)
  cases c with
  | openConnection => exact hsame (hother (fun _ => id) nofun) id
  | closeConnection connection => exact hsame (hother (fun _ => id) nofun) id
  | command connection db d =>
    rcases refused_or_takes e connection db d with ⟨err, hrun⟩ | ⟨err, hrun⟩ | ⟨c, htakes⟩
    · refine hsame (congrArg (fun answer => answer.2.store) hrun) ?_
      rintro ⟨_, _, _, -, hreply, -⟩
      cases hrun.symm.trans hreply
    · refine hsame (congrArg (fun answer => answer.2.store) hrun) ?_
      rintro ⟨_, _, _, -, hreply, -⟩
      cases hrun.symm.trans hreply
    · cases hc : c.storeCall? db with
      | none =>
        refine hsame ((congrArg Engine.store htakes.snd_command).trans ?_) (htakes.not_changes hc)
        rcases e.countCommand.store_perform_cases db c with hsame | ⟨call, hcall, -⟩
        · exact hsame
        · cases hc.symm.trans hcall
      | some call =>
        have hflush : call ≠ .flush := by
          rintro rfl
          cases c <;> cases hc
        refine ⟨call.logged e.store, ?_, htakes.changes_iff hc⟩
        show (e.command connection db d).2.store.Journaled _ _ _
        rw [htakes.store_of_call hc]
        exact h.run hflush
  | pump => exact absurd rfl hpump
  | close => exact absurd rfl hclose
  | move host =>
    exact hidle ⟨h.journal, hdisk ▸ h.works, hdisk ▸ h.syncs, hdisk ▸ h.bytes⟩ id

/-- **A pump** of an open engine says whether there was something to sync, and syncs it. -/
theorem journaled_pump {dirty : Bool} {syncs : Nat} {bytes : List UInt8}
    (h : e.store.Journaled dirty syncs bytes) (hopen : e.closed = false) :
    (∃ reaped, e.pump.1 = .ok ⟨reaped, dirty⟩) ∧
      e.pump.2.store.Journaled false (syncs + if dirty then 1 else 0) bytes := by
  obtain ⟨hanswer, hstore⟩ := h.flush
  rcases hflush : e.store.flush with ⟨answer, store⟩
  rw [hflush] at hanswer hstore
  obtain rfl : answer = .ok dirty := hanswer
  unfold pump
  simp only [hopen, hflush]
  exact ⟨⟨_, rfl⟩, hstore⟩

/-- An engine after calls, one after the other. -/
def follow (e : Engine) (calls : List Call) : Engine := calls.foldl (fun e c => c.after e) e

/-- One of the calls changes what is stored. -/
def Changed : Engine → List Call → Prop
  | _, [] => False
  | e, c :: calls => c.Changes e ∨ Changed (c.after e) calls

/-- Nobody else comes to the disk. -/
def LeavesDisk : Engine → List Call → Prop
  | _, [] => True
  | e, c :: calls => c.LeavesDisk e ∧ LeavesDisk (c.after e) calls

theorem follow_append (e : Engine) (calls calls' : List Call) :
    e.follow (calls ++ calls') = (e.follow calls).follow calls' := List.foldl_append

theorem leavesDisk_append {calls calls' : List Call} :
    e.LeavesDisk (calls ++ calls') ↔ e.LeavesDisk calls ∧ (e.follow calls).LeavesDisk calls' := by
  induction calls generalizing e with
  | nil => simp [LeavesDisk, follow]
  | cons c calls ih =>
    simp only [List.cons_append, LeavesDisk, ih, and_assoc]
    rfl

/-- An engine is open in the end if it was open before and no call has closed it. -/
theorem open_follow_iff {calls : List Call} :
    (e.follow calls).closed = false ↔ e.closed = false ∧ .close ∉ calls := by
  induction calls generalizing e with
  | nil => simp [follow]
  | cons c calls ih =>
    have hafter : (c.after e).closed = false ↔ e.closed = false ∧ .close ≠ c := by
      rw [Bool.eq_false_iff, Bool.eq_false_iff, ne_eq, closed_after, not_or, eq_comm (a := c)]
    rw [List.mem_cons, not_or, ← and_assoc, ← hafter]
    exact ih

/-- **Calls between two pumps** write records, at least one if they change something and none if they do
not. Induction on the calls. -/
theorem journaled_follow {dirty : Bool} {syncs : Nat} {bytes : List UInt8}
    (h : e.store.Journaled dirty syncs bytes) {calls : List Call} (hpump : .pump ∉ calls)
    (hclose : .close ∉ calls) (hdisk : e.LeavesDisk calls) :
    ∃ rs, (e.follow calls).store.Journaled (dirty || !rs.isEmpty) syncs (bytes ++ Journal.frames rs) ∧
      (e.Changed calls ↔ rs ≠ []) := by
  induction calls generalizing e dirty bytes with
  | nil => exact ⟨[], by simpa [follow] using h, by simp [Changed]⟩
  | cons c calls ih =>
    rw [List.mem_cons, not_or] at hpump hclose
    obtain ⟨rs, hafter, hfirst⟩ :=
      journaled_after h (Ne.symm hpump.1) (Ne.symm hclose.1) hdisk.1
    obtain ⟨rs', hlast, hrest⟩ := ih hafter hpump.2 hclose.2 hdisk.2
    refine ⟨rs ++ rs', ?_, ?_⟩
    · have hempty : (rs ++ rs').isEmpty = (rs.isEmpty && rs'.isEmpty) := by cases rs <;> rfl
      rw [Journal.frames_append, ← List.append_assoc, hempty, Bool.not_and, ← Bool.or_assoc]
      exact hlast
    · simp only [Changed, hfirst, hrest, ne_eq, List.append_eq_nil_iff,
        Classical.not_and_iff_not_or_not]

/-- Whatever calls there are, there is a state of the journal after them. -/
theorem exists_journaled_follow {dirty : Bool} {syncs : Nat} {bytes : List UInt8}
    (h : e.store.Journaled dirty syncs bytes) {calls : List Call}
    (hopen : (e.follow calls).closed = false) (hdisk : e.LeavesDisk calls) :
    ∃ dirty syncs bytes, (e.follow calls).store.Journaled dirty syncs bytes := by
  induction calls generalizing e dirty syncs bytes with
  | nil => exact ⟨_, _, _, h⟩
  | cons c calls ih =>
    obtain ⟨hrunning, hclose⟩ := open_follow_iff.mp hopen
    by_cases hpump : c = .pump
    · subst hpump
      exact ih (journaled_pump h hrunning).2 hopen hdisk.2
    · rw [List.mem_cons, not_or] at hclose
      obtain ⟨rs, hafter, -⟩ := journaled_after h hpump (Ne.symm hclose.1) hdisk.1
      exact ih hafter hopen hdisk.2

/-- **After a pump** everything is synced, and if there was none it is as in the beginning. -/
theorem journaled_pumped {syncs : Nat} {bytes : List UInt8} (h : e.store.Journaled false syncs bytes)
    {before : List Call} (hbefore : before = [] ∨ ∃ earlier, before = earlier ++ [.pump])
    (hopen : (e.follow before).closed = false) (hdisk : e.LeavesDisk before) :
    ∃ syncs bytes, (e.follow before).store.Journaled false syncs bytes := by
  rcases hbefore with rfl | ⟨earlier, rfl⟩
  · exact ⟨syncs, bytes, h⟩
  · rw [follow_append] at hopen ⊢
    have hrunning := (open_follow_iff.mp hopen).1
    obtain ⟨_, _, _, hearlier⟩ := exists_journaled_follow h hrunning (leavesDisk_append.mp hdisk).1
    exact ⟨_, _, (journaled_pump hearlier hrunning).2⟩

/-- An engine in memory stays in memory. -/
theorem inMemory_follow (h : e.store.journal = none) (calls : List Call) :
    (e.follow calls).store.journal = none := by
  induction calls generalizing e with
  | nil => exact h
  | cons c calls ih =>
    refine ih ?_
    rcases c.store_after e with ⟨host, rfl⟩ | hsame | ⟨call, -, hrun⟩
    · exact h
    · rw [hsame]
      exact h
    · rw [hrun]
      exact call.inMemory_run h

end Engine

/-- **A pump syncs exactly when there is something to sync.** An engine is started, on whatever file, and
called in any way, and it is still open. Take the calls since its last pump, or since it was started. In
memory a pump says that it synced nothing. With a journal, on a disk that works and that nobody else comes
to, it says that it synced if, and only if, one of these calls was an insert that went well or a drop that
removed something. This is the case if, and only if, the file is another one by then, and the pump then
syncs it once; nothing else syncs it, neither the calls nor the start. -/
theorem pump_syncs_changes {options : Options} {host : Host} {e₀ : Engine}
    (hstart : Engine.start options host = .ok e₀) {before since : List Engine.Call}
    (hbefore : before = [] ∨ ∃ earlier, before = earlier ++ [.pump]) (hsince : .pump ∉ since)
    (hopen : (e₀.follow (before ++ since)).closed = false) :
    let pumped := e₀.follow before
    let e := e₀.follow (before ++ since)
    (options.journalPath? = none → ∃ reaped, e.pump.1 = .ok ⟨reaped, false⟩) ∧
    (options.journalPath?.isSome = true → host.disk.Works → e₀.LeavesDisk (before ++ since) →
      e₀.store.host.disk.syncs = host.disk.syncs ∧
      ∃ reaped synced, e.pump.1 = .ok ⟨reaped, synced⟩ ∧
        (synced = true ↔ pumped.Changed since) ∧
        (synced = true ↔ e.store.host.disk.bytes ≠ pumped.store.host.disk.bytes) ∧
        e.pump.2.store.host.disk.syncs
          = pumped.store.host.disk.syncs + if synced then 1 else 0) := by
  intro pumped e
  obtain ⟨store, hstore, he₀⟩ := Engine.start_eq_ok hstart
  have hsame : e₀.store = store := by rw [he₀]
  have hrun : e = pumped.follow since := e₀.follow_append before since
  refine ⟨fun hpath => ?_, fun hpath hworks hdisk => ?_⟩
  · have hmemory : e.store.journal = none :=
      Engine.inMemory_follow (by rw [hsame]; exact Store.inMemory_of_open hstore hpath) _
    unfold Engine.pump
    simp only [show e.closed = false from hopen, Store.flush_of_inMemory hmemory]
    exact ⟨_, rfl⟩
  · have hfirst : e₀.store.Journaled false host.disk.syncs e₀.store.host.disk.bytes := by
      rw [hsame]
      exact Store.journaled_of_open hstore hpath hworks
    obtain ⟨hdiskBefore, hdiskSince⟩ := Engine.leavesDisk_append.mp hdisk
    have hlater : (pumped.follow since).closed = false := hrun ▸ hopen
    obtain ⟨hrunning, hclose⟩ := Engine.open_follow_iff.mp hlater
    obtain ⟨syncs, bytes, hclean⟩ := Engine.journaled_pumped hfirst hbefore hrunning hdiskBefore
    obtain ⟨rs, hlast, hchanged⟩ := Engine.journaled_follow hclean hsince hclose hdiskSince
    rw [← hrun, Bool.false_or] at hlast
    obtain ⟨⟨reaped, hanswer⟩, hsynced⟩ := Engine.journaled_pump hlast hopen
    have hwritten : (!rs.isEmpty) = true ↔ rs ≠ [] := by simp
    refine ⟨hfirst.syncs, reaped, !rs.isEmpty, hanswer, hwritten.trans hchanged.symm, ?_, ?_⟩
    · rw [hwritten, hlast.bytes, hclean.bytes, ne_eq, ne_eq, List.append_right_eq_self,
        Journal.frames_eq_nil_iff]
    · rw [hsynced.syncs, hclean.syncs]

/-- An engine on a disk that works takes an insert. The first pump after it syncs, and the next one does
not. -/
theorem pump_syncs_changes_of_insert :
    let host : Host := { ids := fun _ => "", showTime := fun _ => "" }
    let insert : Engine.Call := .command 1 "db" ⟨[("insert", .string "notes"),
      ("documents", .array [.object [("_id", .ofNat 1)]])]⟩
    ∃ e₀, Engine.start { dbpath := some "data" } host = .ok e₀ ∧
      (∃ reaped, (e₀.follow [.openConnection, insert]).pump.1 = .ok ⟨reaped, true⟩) ∧
      ∃ reaped, (e₀.follow [.openConnection, insert, .pump]).pump.1 = .ok ⟨reaped, false⟩ := by
  intro host insert
  have hworks : host.disk.Works := ⟨fun _ => rfl, fun _ => rfl⟩
  have hstart : Engine.start { dbpath := some "data" } host = .ok _ := rfl
  have hcalls : Engine.Call.pump ∉ [.openConnection, insert] := by simp [insert]
  refine ⟨_, hstart, ?_, ?_⟩
  · obtain ⟨-, hdurable⟩ := pump_syncs_changes hstart (.inl (Eq.refl [])) hcalls
      (Engine.open_follow_iff.mpr ⟨rfl, by simp [insert]⟩)
    obtain ⟨-, reaped, synced, hanswer, hchanged, -⟩ :=
      hdurable rfl hworks ⟨trivial, trivial, trivial⟩
    have hwritten : synced = true := by
      -- the command is taken, and its record is one that the disk takes
      have hfits : (Record.insert "db" "notes" [.object [("_id", .ofNat 1)]]).Fits :=
        Record.fits_of_length_chars (by decide)
      refine hchanged.mpr (.inr (.inl ((Engine.Takes.changes_iff
        (c := .insert "notes" [⟨[("_id", .ofNat 1)]⟩])
        ⟨rfl, rfl, rfl, "insert", rfl, rfl⟩ rfl).mpr ?_)))
      rw [Store.Call.logged_of_written (Store.Call.change?_insert_one "db" "notes" rfl rfl) rfl hfits
        rfl]
      exact List.cons_ne_nil _ _
    rw [hwritten] at hanswer
    exact ⟨reaped, hanswer⟩
  · obtain ⟨-, hdurable⟩ := pump_syncs_changes hstart (.inr ⟨[.openConnection, insert], rfl⟩)
      List.not_mem_nil (Engine.open_follow_iff.mpr ⟨rfl, by simp [insert]⟩)
    obtain ⟨-, reaped, synced, hanswer, hchanged, -⟩ :=
      hdurable rfl hworks ⟨trivial, trivial, trivial, trivial⟩
    obtain rfl : synced = false := Bool.eq_false_iff.mpr hchanged.mp
    exact ⟨reaped, hanswer⟩

end DocStore
