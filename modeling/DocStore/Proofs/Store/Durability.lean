import DocStore.Proofs.Store.Recovery

/-!
# DocStore — a durable store and one in memory

A durable store does what a store in memory does, and goes on doing it after it was closed and opened
again. The two are run side by side (`Store.runDurable`, `Store.runCalls`) and kept together by a
relation between them, `Store.Mirrors`: one catalog, one host but for the disk, and a journal that
makes this catalog.

* **`Store.Mirrors.call`** — a call is answered alike by both, and they stay together.
* **`Store.Mirrors.reopen`** — a durable store that is opened again stays with the one in memory.
* **`durable_refines_inMemory`** — the main statement, for every run of calls and reopens.

Two things set them apart for good. A flush has something to sync only if there is a journal, so
answers are compared without it (`Store.Answer.unjournaled`). And no frame holds a record of `2 ^ 32`
bytes or more, so a durable store refuses such a change (`Store.Call.runBounded`).
-/

namespace DocStore

namespace Store

/-! ## §1 — both kinds of runs -/

/-- An answer, without what only a journal can know. -/
def Answer.unjournaled : Answer → Answer
  | .flushed _ => .flushed (.ok false)
  | answer => answer

/-- Do what is asked, but refuse a change whose record no frame can hold. The ids that were drawn for
it are gone. -/
def Call.runBounded (c : Call) (s : Store) : Answer × Store :=
  match c.change? s with
  | some r =>
    if r.Fits then c.run s
    else (.refused (.badValue (.recordTooLong r.payload.length)) r, c.drawn s)
  | none => c.run s

/-- Calls one after the other, with their answers. -/
def runCalls (run : Call → Store → Answer × Store) : Store → List Call → List Answer × Store
  | s, [] => ([], s)
  | s, c :: calls =>
    let (answer, s) := run c s
    let (answers, s) := runCalls run s calls
    (answer :: answers, s)

/-- The records of the changes that calls ask for. -/
def changes : Store → List Call → List Record
  | _, [] => []
  | s, c :: calls => (c.change? s).toList ++ changes (c.runBounded s).2 calls

/-- What is done with a durable store: a call, or it is closed and opened again. -/
inductive Step where
  | call (c : Call)
  | reopen

def Step.call? : Step → Option Call
  | .call c => some c
  | .reopen => none

/-- Steps one after the other, with the answers of the calls. -/
def runDurable (options : Options) :
    Store → List Step → Except (EngineError × Host) (List Answer × Store)
  | s, [] => .ok ([], s)
  | s, .call c :: steps =>
    match runDurable options (c.run s).2 steps with
    | .ok (answers, s') => .ok ((c.run s).1 :: answers, s')
    | .error e => .error e
  | s, .reopen :: steps =>
    match Store.open options s.host with
    | .ok s' => runDurable options s' steps
    | .error e => .error e

/-! ## §2 — two stores side by side -/

/-- A durable store has the catalog of one in memory, and its host but for the disk; its journal's
file is the frames of these records, and takes what is written. -/
structure Mirrors (s m : Store) (held : List Record) : Prop where
  keeps : s.Keeps held
  inMemory : m.journal = none
  catalog : s.catalog = m.catalog
  host : s.host = m.host.withDisk s.host.disk
  writes : ∀ n, s.host.disk.failsAfter n = none

variable {s m : Store} {held : List Record}

/-- The ids that a call draws are the same for both. -/
theorem Mirrors.ensureIds (h : s.Mirrors m held) (ds : List Document) :
    s.host.ensureIds ds = ((m.host.ensureIds ds).1, (m.host.ensureIds ds).2.withDisk s.host.disk) := by
  rw [h.host, Host.ensureIds_withDisk, Host.disk_withDisk]

/-- So is the change that a call asks for. -/
theorem Mirrors.change?_eq (h : s.Mirrors m held) (c : Call) : c.change? s = c.change? m := by
  cases c with
  | insert db coll ds => simp only [Call.change?, h.ensureIds ds, h.catalog]
  | dropCollection db coll => simp only [Call.change?, h.catalog]
  | dropDatabase db => simp only [Call.change?, h.catalog]
  | count db coll f => rfl
  | scan db coll => rfl
  | flush => rfl

theorem Mirrors.host_drawn (h : s.Mirrors m held) (c : Call) :
    (c.drawn s).host = (c.drawn m).host.withDisk s.host.disk := by
  cases c with
  | insert db coll ds =>
    show (s.host.ensureIds ds).2 = _
    rw [h.ensureIds ds]
    rfl
  | dropCollection db coll => exact h.host
  | dropDatabase db => exact h.host
  | count db coll f => exact h.host
  | scan db coll => exact h.host
  | flush => exact h.host

/-- A call that asks for no change is answered alike, but for a flush. -/
theorem Mirrors.answer_of_no_change (h : s.Mirrors m held) {c : Call} (hc : c.change? m = none) :
    (c.run s).1.unjournaled = (c.run m).1 := by
  cases c with
  | insert db coll ds =>
    simp only [Call.change?] at hc
    split at hc
    · next key htaken =>
      have htaken' : firstTaken? (s.catalog.takenIds db coll) (s.host.ensureIds ds).1 = some key := by
        rw [h.ensureIds ds, h.catalog]
        exact htaken
      simp only [Call.run, Store.insert, htaken, htaken']
      rfl
    · cases hc
  | dropCollection db coll =>
    simp only [Call.change?, Option.map_eq_none_iff] at hc
    simp only [Call.run, Store.dropCollection, h.catalog, hc]
    rfl
  | dropDatabase db =>
    simp only [Call.change?, Option.map_eq_none_iff] at hc
    simp only [Call.run, Store.dropDatabase, h.catalog, hc]
    rfl
  | count db coll f =>
    simp only [Call.run, Store.count, h.catalog]
    rfl
  | scan db coll =>
    simp only [Call.run, Store.scan, h.catalog]
    rfl
  | flush =>
    simp only [Call.run, flush_of_inMemory h.inMemory]
    rfl

/-- A store in memory makes every change that it is asked for. -/
theorem run_of_inMemory {c : Call} {r : Record} (hc : c.change? m = some r)
    (hm : m.journal = none) : ∃ catalog, m.catalog.apply r = .ok catalog ∧
      c.run m = (.made r, { c.drawn m with catalog := catalog }) := by
  obtain ⟨catalog, happly, hrun⟩ := Call.run_of_change hc
  refine ⟨catalog, happly, ?_⟩
  rw [hrun, log_of_inMemory r ((Call.journal_drawn c m).trans hm)]

@[simp] theorem Answer.unjournaled_made (r : Record) :
    (Answer.made r).unjournaled = Answer.made r := by
  cases r <;> rfl

@[simp] theorem Answer.unjournaled_refused (e : EngineError) (r : Record) :
    (Answer.refused e r).unjournaled = Answer.refused e r := by
  cases r <;> rfl

/-- **A call is answered alike by both, and they stay together.** The cases are those of the change:
none, one that fits a frame, and one that does not. -/
theorem Mirrors.call (h : s.Mirrors m held) (c : Call) :
    (c.run s).1.unjournaled = (c.runBounded m).1 ∧
      (c.run s).2.Mirrors (c.runBounded m).2 (held ++ c.logged s) := by
  have hkeeps := h.keeps.call c
  have hchange := h.change?_eq c
  have hdrawn := h.host_drawn c
  unfold Call.runBounded
  cases hc : c.change? m with
  | none =>
    rw [hc] at hchange
    obtain ⟨journal, n, -, hrun⟩ := Call.run_of_no_change hchange
    obtain ⟨journal', n', hjournal', hrun'⟩ := Call.run_of_no_change hc
    refine ⟨h.answer_of_no_change hc, hkeeps, ?_, ?_, ?_, ?_⟩
    · have hnone : journal' = none := by simpa [h.inMemory] using hjournal'
      simp only [hrun', hnone]
    · simp only [hrun, hrun', Call.catalog_drawn, h.catalog]
    · simp only [hrun, hrun', hdrawn, Host.withDisk_withDisk, Host.disk_withDisk]
    · intro k
      rw [hrun]
      exact h.writes k
  | some r =>
    rw [hc] at hchange
    obtain ⟨j, hj⟩ := Option.isSome_iff_exists.mp h.keeps.durable
    by_cases hfits : r.Fits
    · obtain ⟨catalog, happly, hrun⟩ := Call.run_of_written hchange hj hfits (h.writes _)
      obtain ⟨catalog', happly', hrun'⟩ := run_of_inMemory hc h.inMemory
      -- both put the same record into the same catalog
      have hsame : catalog = catalog' := by
        rw [h.catalog, happly'] at happly
        exact (Except.ok.inj happly).symm
      simp only [if_pos hfits, hrun']
      refine ⟨?_, hkeeps, ?_, ?_, ?_, ?_⟩
      · rw [hrun, Answer.unjournaled_made]
      · rw [Call.journal_drawn, h.inMemory]
      · rw [hrun, hsame]
      · rw [hrun, hdrawn]
        rfl
      · intro k
        rw [hrun]
        exact h.writes k
    · -- refused by both, and both have drawn the ids
      have hrun := Call.run_of_not_fits hchange hj hfits
      simp only [if_neg hfits]
      refine ⟨?_, hkeeps, ?_, ?_, ?_, ?_⟩
      · rw [hrun, Answer.unjournaled_refused]
      · rw [Call.journal_drawn, h.inMemory]
      · rw [hrun, Call.catalog_drawn, Call.catalog_drawn, h.catalog]
      · rw [hrun, Call.disk_drawn]
        exact hdrawn
      · intro k
        rw [hrun, Call.disk_drawn]
        exact h.writes k

/-! ## §3 — reopening -/

/-- **A durable store that is opened again** stays with the one in memory: no frame of its file is
cut, so the replay finds every record. -/
theorem Mirrors.reopen {options : Options} {path : String} (h : s.Mirrors m held)
    (hpath : options.journalPath? = some path) (hread : ∀ r ∈ held, r.Readable) :
    ∃ s', Store.open options s.host = .ok s' ∧ s'.Mirrors m held := by
  have hall : Journal.within (Journal.frames held).length held = held :=
    Journal.within_of_length_le (Nat.le_refl _)
  have hbytes : s.host.disk.bytes
      = (Journal.frames held).take (Journal.frames held).length := by
    rw [List.take_length, h.keeps.bytes]
  have hopen := open_of_take_frames s.host held _ hpath h.keeps.reachable hbytes h.keeps.fits
    (by rwa [hall]) (hall.symm ▸ h.keeps.catalog)
  rw [hall] at hopen
  refine ⟨_, hopen, ⟨rfl, rfl, h.keeps.reachable, h.keeps.fits, h.keeps.catalog⟩, h.inMemory,
    h.catalog, ?_, h.writes⟩
  show s.host.withDisk _ = _
  rw [h.host]
  rfl

/-- A durable store that was just opened on an empty file goes with one in memory. -/
theorem mirrors_of_open {options : Options} {path : String} {host : Host}
    (hpath : options.journalPath? = some path) (hreachable : host.disk.reachable = true)
    (hempty : host.disk.bytes = []) (hwrites : ∀ n, host.disk.failsAfter n = none) :
    ∃ s, Store.open options host = .ok s ∧ s.Mirrors (.inMemory host) [] :=
  ⟨_, open_of_empty host hpath hreachable hempty, ⟨rfl, rfl, hreachable, by simp, rfl⟩, rfl, rfl, rfl,
    hwrites⟩

/-! ## §4 — runs -/

/-- What a durable store has logged is a change that fits, among those it was asked for. -/
theorem Mirrors.fits_of_mem_logged (h : s.Mirrors m held) {c : Call} {r : Record}
    (hr : r ∈ c.logged s) : c.change? m = some r ∧ r.Fits := by
  have hchange := Call.change?_of_mem_logged hr
  refine ⟨(h.change?_eq c).symm.trans hchange, ?_⟩
  exact (h.keeps.call c).fits r (List.mem_append_right held hr)

/-- **A run of a durable store goes through**, with the answers of the store in memory, and the two
stay together. Induction on the steps. -/
theorem Mirrors.runDurable {options : Options} {path : String}
    (hpath : options.journalPath? = some path) (h : s.Mirrors m held)
    (hheld : ∀ r ∈ held, r.Readable) (steps : List Step)
    (hread : ∀ r ∈ m.changes (steps.filterMap Step.call?), r.Fits → r.Readable) :
    ∃ answers s' held', Store.runDurable options s steps = .ok (answers, s') ∧
      s'.Mirrors (runCalls Call.runBounded m (steps.filterMap Step.call?)).2 held' ∧
      answers.map Answer.unjournaled
        = (runCalls Call.runBounded m (steps.filterMap Step.call?)).1 := by
  induction steps generalizing s m held with
  | nil => exact ⟨[], s, held, rfl, h, rfl⟩
  | cons step steps ih =>
    cases step with
    | call c =>
      obtain ⟨hanswer, hnext⟩ := h.call c
      -- what is logged was asked for, and fits, so it is among what can be read back
      have hnextRead : ∀ r ∈ held ++ c.logged s, r.Readable := by
        intro r hr
        rcases List.mem_append.mp hr with hold | hnew
        · exact hheld r hold
        · obtain ⟨hasked, hfits⟩ := h.fits_of_mem_logged hnew
          exact hread r (List.mem_append_left _ (Option.mem_toList.mpr hasked)) hfits
      obtain ⟨answers, s', held', hrun, hmirrors, hanswers⟩ :=
        ih hnext hnextRead fun r hr => hread r (List.mem_append_right _ hr)
      refine ⟨(c.run s).1 :: answers, s', held', ?_, hmirrors, ?_⟩
      · simp only [Store.runDurable, hrun]
      · rw [List.map_cons, hanswer, hanswers]
        rfl
    | reopen =>
      obtain ⟨s₁, hopen, hnext⟩ := h.reopen hpath hheld
      obtain ⟨answers, s', held', hrun, hmirrors, hanswers⟩ := ih hnext hheld hread
      refine ⟨answers, s', held', ?_, hmirrors, hanswers⟩
      simp only [Store.runDurable, hopen, hrun]

/-- If every change fits a frame, none is refused for its length. -/
theorem runCalls_runBounded {calls : List Call} (h : ∀ r ∈ m.changes calls, r.Fits) :
    runCalls Call.runBounded m calls = runCalls Call.run m calls := by
  induction calls generalizing m with
  | nil => rfl
  | cons c calls ih =>
    have hfirst : c.runBounded m = c.run m := by
      unfold Call.runBounded
      cases hc : c.change? m with
      | none => rfl
      | some r =>
        have hfits : r.Fits :=
          h r (List.mem_append_left _ (Option.mem_toList.mpr hc))
        simp only [if_pos hfits]
    have hrest := ih fun r hr => h r (List.mem_append_right _ hr)
    rw [hfirst] at hrest
    simp only [runCalls, hfirst, hrest]

/-- A document whose record is too long is inserted in memory only. A durable store that was opened on
an empty file refuses it, and is empty after a reopen. -/
theorem run_of_long {options : Options} {path : String} {host : Host} {db coll : String}
    {long : Document} (hpath : options.journalPath? = some path)
    (hreachable : host.disk.reachable = true) (hempty : host.disk.bytes = [])
    (hid : long.contains "_id" = true) (hlong : ¬ (Record.insert db coll [long.toValue]).Fits) :
    ∃ s₀ s n, Store.open options host = .ok s₀ ∧
      runDurable options s₀ [.call (.insert db coll [long]), .reopen]
        = .ok ([.inserted (.error (.badValue (.recordTooLong n)))], s) ∧
      s.catalog = .empty ∧
      (runCalls Call.run (.inMemory host) [.insert db coll [long]]).2.catalog
        = Catalog.empty.insert db coll [long] := by
  have hopen := open_of_empty host hpath hreachable hempty
  have hreopen := open_of_empty (host.withDisk (host.disk.withBytes [])) hpath hreachable rfl
  have hrefused := Call.run_of_not_fits (Call.change?_insert_one db coll
    (s := ⟨.empty, some ⟨path, false⟩, host.withDisk (host.disk.withBytes [])⟩) rfl hid) rfl hlong
  obtain ⟨catalog, happly, hinMemory⟩ :=
    run_of_inMemory (Call.change?_insert_one db coll (s := .inMemory host) rfl hid) rfl
  have hcatalog := (Catalog.apply_insert .empty db coll [long]).symm.trans happly
  have hdrawn : (Call.drawn (.insert db coll [long])
      ⟨.empty, some ⟨path, false⟩, host.withDisk (host.disk.withBytes [])⟩).host
        = host.withDisk (host.disk.withBytes []) :=
    congrArg Prod.snd (Host.ensureIds_of_contains _ (by simpa using hid))
  refine ⟨_, ⟨.empty, some ⟨path, false⟩, host.withDisk (host.disk.withBytes [])⟩,
    (Record.insert db coll [long.toValue]).payload.length, hopen, ?_, rfl, ?_⟩
  · simp only [runDurable, hrefused, hdrawn, hreopen]
    rfl
  · simp only [runCalls, hinMemory]
    exact (Except.ok.inj hcatalog).symm

end Store

/-- **Durable storage refines storage in memory.** On an empty file, or on none, a durable store
opens, and every run of calls and reopens goes through. After it the catalog is the one that a store
in memory has after the same calls with the same ids, and all calls but flushes were answered alike.
The store in memory is one that refuses a change whose record no frame can hold; if the calls ask for
none, that is just the store in memory. -/
theorem durable_refines_inMemory {options : Options} {path : String} {host : Host}
    (hpath : options.journalPath? = some path) (hreachable : host.disk.reachable = true)
    (hempty : host.disk.bytes = []) (hwrites : ∀ n, host.disk.failsAfter n = none)
    (steps : List Store.Step)
    (hread : ∀ r ∈ (Store.inMemory host).changes (steps.filterMap Store.Step.call?),
      r.Fits → r.Readable) :
    ∃ s₀ answers s answers' m, Store.open options host = .ok s₀ ∧
      Store.runDurable options s₀ steps = .ok (answers, s) ∧
      Store.runCalls Store.Call.runBounded (.inMemory host) (steps.filterMap Store.Step.call?)
        = (answers', m) ∧
      s.catalog = m.catalog ∧ s.host = m.host.withDisk s.host.disk ∧
      answers.map Store.Answer.unjournaled = answers' ∧
      ((∀ r ∈ (Store.inMemory host).changes (steps.filterMap Store.Step.call?), r.Fits) →
        Store.runCalls Store.Call.run (.inMemory host) (steps.filterMap Store.Step.call?)
          = (answers', m)) := by
  obtain ⟨s₀, hopen, hstart⟩ := Store.mirrors_of_open hpath hreachable hempty hwrites
  obtain ⟨answers, s, held, hrun, hmirrors, hanswers⟩ :=
    hstart.runDurable hpath (by simp) steps hread
  refine ⟨s₀, answers, s, _, _, hopen, hrun, rfl, hmirrors.catalog, hmirrors.host, hanswers, ?_⟩
  exact fun hfits => (Store.runCalls_runBounded hfits).symm

/-- An insert, a reopen and a drop. -/
theorem durable_refines_inMemory_of_reopen :
    let options : Options := { dbpath := some "data" }
    let host : Host := { ids := fun _ => "", showTime := fun _ => "" }
    let one : Document := ⟨[("_id", .ofNat 1)]⟩
    let steps : List Store.Step :=
      [.call (.insert "db" "notes" [one]), .reopen, .call (.dropDatabase "db")]
    ∃ s₀ answers s, Store.open options host = .ok s₀ ∧
      Store.runDurable options s₀ steps = .ok (answers, s) ∧
      s.catalog = (Store.runCalls Store.Call.run (.inMemory host)
        [.insert "db" "notes" [one], .dropDatabase "db"]).2.catalog := by
  intro options host one steps
  have hinsert : (Record.insert "db" "notes" [one.toValue]).Readable :=
    (Record.readable_iff _).mpr (by cbv)
  have hdrop : (Record.dropDatabase "db").Readable := (Record.readable_iff _).mpr (by cbv)
  have hchanges : (Store.inMemory host).changes (steps.filterMap Store.Step.call?)
      = [.insert "db" "notes" [one.toValue], .dropDatabase "db"] := by
    cbv
  have hread : ∀ r ∈ (Store.inMemory host).changes (steps.filterMap Store.Step.call?),
      r.Fits → r.Readable := by
    rw [hchanges]
    simp [hinsert, hdrop]
  have hfits : ∀ r ∈ (Store.inMemory host).changes (steps.filterMap Store.Step.call?), r.Fits := by
    rw [hchanges]
    decide +kernel
  obtain ⟨s₀, answers, s, _, m, hopen, hrun, -, hcatalog, -, -, hplain⟩ :=
    durable_refines_inMemory (show options.journalPath? = some "data/journal.emj" by decide) rfl rfl
      (fun _ => rfl) steps hread
  refine ⟨s₀, answers, s, hopen, hrun, ?_⟩
  rw [hcatalog]
  exact congrArg (·.2.catalog) (hplain hfits).symm

/-- **Where a durable store differs from one in memory.** After a reopen and an insert the flush of
the durable store syncs, and that of the other has nothing to sync. And a document of `2 ^ 32`
characters is refused by the durable store only, which is empty after a reopen. -/
theorem durable_differs_by_flush_and_length :
    let options : Options := { dbpath := some "data" }
    let host : Host := { ids := fun _ => "", showTime := fun _ => "" }
    let one : Document := ⟨[("_id", .ofNat 1)]⟩
    let long : Document := ⟨[("_id", .string (String.ofList (List.replicate (2 ^ 32) 'a')))]⟩
    (∃ s₀ s, Store.open options host = .ok s₀ ∧
      Store.runDurable options s₀ [.reopen, .call (.insert "db" "notes" [one]), .call .flush]
        = .ok ([.inserted (.ok 1), .flushed (.ok true)], s) ∧
      (Store.runCalls Store.Call.run (.inMemory host) [.insert "db" "notes" [one], .flush]).1
        = [.inserted (.ok 1), .flushed (.ok false)]) ∧
    ∃ s₀ s n, Store.open options host = .ok s₀ ∧
      Store.runDurable options s₀ [.call (.insert "db" "notes" [long]), .reopen]
        = .ok ([.inserted (.error (.badValue (.recordTooLong n)))], s) ∧
      s.catalog = .empty ∧
      (Store.runCalls Store.Call.run (.inMemory host) [.insert "db" "notes" [long]]).2.catalog
        = Catalog.empty.insert "db" "notes" [long] := by
  intro options host one long
  have hpath : options.journalPath? = some "data/journal.emj" := by decide
  have hlong : ¬ (Record.insert "db" "notes" [long.toValue]).Fits := by
    apply Record.not_fits_of_long_id
    have hlength : (String.ofList (List.replicate (2 ^ 32) 'a')).length = 2 ^ 32 := by
      rw [String.length_ofList, List.length_replicate]
    exact Nat.le_of_eq hlength.symm
  constructor
  · let s₀ : Store := ⟨.empty, some ⟨"data/journal.emj", false⟩, host.withDisk (host.disk.withBytes [])⟩
    have hopen : Store.open options host = .ok s₀ := Store.open_of_empty _ hpath rfl rfl
    have hreopen : Store.open options s₀.host = .ok s₀ := Store.open_of_empty _ hpath rfl rfl
    obtain ⟨catalog, -, hdurable⟩ := Store.Call.run_of_written
      (Store.Call.change?_insert_one "db" "notes" (s := s₀) (d := one) rfl rfl)
      rfl (by decide +kernel) rfl
    obtain ⟨catalog', -, hinMemory⟩ := Store.run_of_inMemory
      (Store.Call.change?_insert_one "db" "notes" (s := .inMemory host) (d := one) rfl rfl) rfl
    refine ⟨s₀, ?_⟩
    simp only [Store.runDurable, hreopen, hdurable, Store.runCalls, hinMemory]
    exact ⟨_, hopen, rfl, rfl⟩
  · exact Store.run_of_long hpath rfl rfl rfl hlong

end DocStore
