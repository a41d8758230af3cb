import Mathlib
import DocStore.Proofs.Journal.Payload
import DocStore.Proofs.Store.Changes

/-!
# DocStore — a durable store and its journal

A durable store can be rebuilt from its journal's file at any moment. That is an invariant
(`Store.Stands`): the file is the frames of some records, and these records, put into the empty
catalog one after the other, make the catalog that the store holds. As long as the file can be reached,
a start comes to the same catalog (`Store.Keeps`). Where a start has read records otherwise than they were
written, the catalog is made by what was read (`Store.Rests`).

* **`Store.Rests.call`**, **`Store.Keeps.call`** — every call keeps it, whatever the call is answered,
  for the records from before and the one that the call has logged.
* **`Store.open_of_take_frames`** — a start on the file, cut anywhere, finds the records inside the
  bytes that are left and makes their catalog.
* **`crash_consistency`** — the main statement: a run of appends and crashes never loses, repeats or
  misreads a record that lay inside the kept bytes, and a store that is opened after a cut has the
  catalog of an earlier moment.
-/

namespace DocStore

/-! ## §1 — catalogs made of records -/

namespace Catalog

theorem applyAll_append (c : Catalog) (rs ss : List Record) :
    c.applyAll (rs ++ ss) = (c.applyAll rs).bind fun c => c.applyAll ss := by
  induction rs generalizing c with
  | nil => rfl
  | cons r rs ih =>
    simp only [List.cons_append, applyAll]
    cases c.apply r with
    | error e => rfl
    | ok c => exact ih c

/-- If all changes can be made, so can the first ones. -/
theorem applyAll_of_isPrefix {c final : Catalog} {rs ss : List Record} (hbegin : rs <+: ss)
    (h : c.applyAll ss = .ok final) : ∃ c', c.applyAll rs = .ok c' := by
  obtain ⟨rest, rfl⟩ := hbegin
  rw [applyAll_append] at h
  cases hfirst : c.applyAll rs with
  | error e =>
    rw [hfirst] at h
    cases h
  | ok c' => exact ⟨c', rfl⟩

end Catalog

namespace Store

/-! ## §2 — the invariant, and what keeps it -/

/-- Whether a call has failed. -/
def Answer.isFailure : Answer → Bool
  | .inserted (.error _) | .dropped (.error _) | .flushed (.error _) => true
  | _ => false

/-- The records that a call has logged: that of its change, unless it has none or has failed. -/
def Call.logged (c : Call) (s : Store) : List Record :=
  if (c.run s).1.isFailure then [] else (c.change? s).toList

/-- A store rests on its journal: the file is the frames of the first records, and the second ones, which
were written or read in their places, make its catalog. -/
structure Rests (s : Store) (held loaded : List Record) : Prop where
  durable : s.journal.isSome = true
  bytes : s.host.disk.bytes = Journal.frames held
  fits : ∀ r ∈ held, r.Fits
  catalog : Catalog.empty.applyAll loaded = .ok s.catalog

/-- A store stands on its journal: the records in the file are those that make its catalog. -/
abbrev Stands (s : Store) (held : List Record) : Prop := s.Rests held held

/-- A store stands on its journal, and the journal's file can be reached. -/
structure Keeps (s : Store) (held : List Record) : Prop where
  durable : s.journal.isSome = true
  bytes : s.host.disk.bytes = Journal.frames held
  reachable : s.host.disk.reachable = true
  fits : ∀ r ∈ held, r.Fits
  catalog : Catalog.empty.applyAll held = .ok s.catalog

theorem Keeps.stands {s : Store} {held : List Record} (h : s.Keeps held) : s.Stands held :=
  ⟨h.durable, h.bytes, h.fits, h.catalog⟩

theorem Keeps.catalog_eq {s s' : Store} {held : List Record} (h : s.Keeps held)
    (h' : s'.Keeps held) : s.catalog = s'.catalog :=
  Except.ok.inj (h.catalog.symm.trans h'.catalog)

@[simp] theorem Answer.isFailure_made (r : Record) : (Answer.made r).isFailure = false := by
  cases r <;> rfl

@[simp] theorem Answer.isFailure_refused (e : EngineError) (r : Record) :
    (Answer.refused e r).isFailure = true := by
  cases r <;> rfl

section Logged

variable {c : Call} {s : Store} {r : Record} {j : Journal}

theorem Call.logged_of_no_change (hc : c.change? s = none) : c.logged s = [] := by
  rw [logged, hc, Option.toList_none, ite_self]

/-- A change whose record is written is logged. -/
theorem Call.logged_of_written (hc : c.change? s = some r) (hj : s.journal = some j) (hfits : r.Fits)
    (hwrite : s.host.disk.failsAfter s.host.disk.writes = none) : c.logged s = [r] := by
  obtain ⟨catalog, -, hrun⟩ := run_of_written hc hj hfits hwrite
  rw [logged, hrun, Answer.isFailure_made, if_neg (by simp), hc, Option.toList_some]

theorem Call.logged_of_failing (hc : c.change? s = some r) (hj : s.journal = some j) (hfits : r.Fits)
    {n : Nat} (hwrite : s.host.disk.failsAfter s.host.disk.writes = some n) : c.logged s = [] := by
  rw [logged, run_of_failing hc hj hfits hwrite, Answer.isFailure_refused, if_pos rfl]

theorem Call.logged_of_not_fits (hc : c.change? s = some r) (hj : s.journal = some j)
    (hfits : ¬ r.Fits) : c.logged s = [] := by
  rw [logged, run_of_not_fits hc hj hfits, Answer.isFailure_refused, if_pos rfl]

end Logged

/-- **Every call keeps the store on its journal**, for the records from before and the one that the
call has logged. The cases are those of the append: written, failed, or refused. -/
theorem Rests.call {s : Store} {held loaded : List Record} (h : s.Rests held loaded) (c : Call) :
    (c.run s).2.Rests (held ++ c.logged s) (loaded ++ c.logged s) := by
  cases hc : c.change? s with
  | none =>
    obtain ⟨journal, n, hjournal, hrun⟩ := Call.run_of_no_change hc
    rw [Call.logged_of_no_change hc, List.append_nil, List.append_nil, hrun]
    refine ⟨?_, h.bytes, h.fits, ?_⟩
    · rw [← h.durable, ← hjournal]
    · rw [h.catalog, ← Call.catalog_drawn c s]
  | some r =>
    obtain ⟨j, hj⟩ := Option.isSome_iff_exists.mp h.durable
    by_cases hfits : r.Fits
    · cases hwrite : s.host.disk.failsAfter s.host.disk.writes with
      | none =>
        -- written: replaying the new frame makes the change that the call has made
        obtain ⟨catalog, happly, hrun⟩ := Call.run_of_written hc hj hfits hwrite
        rw [Call.logged_of_written hc hj hfits hwrite, hrun]
        refine ⟨rfl, ?_, ?_, ?_⟩
        · show s.host.disk.bytes ++ r.frame = _
          simp [h.bytes]
        · intro r' hr'
          rcases List.mem_append.mp hr' with hold | hnew
          · exact h.fits r' hold
          · rw [List.mem_singleton.mp hnew]
            exact hfits
        · rw [Catalog.applyAll_append, h.catalog]
          simp [Except.bind, Catalog.applyAll, happly]
      | some n =>
        -- failed: what got to the file of the frame is cut off again
        rw [Call.logged_of_failing hc hj hfits hwrite, Call.run_of_failing hc hj hfits hwrite,
          List.append_nil, List.append_nil]
        exact ⟨rfl, h.bytes, h.fits, h.catalog⟩
    · -- refused: only ids are drawn
      rw [Call.logged_of_not_fits hc hj hfits, Call.run_of_not_fits hc hj hfits,
        List.append_nil, List.append_nil]
      refine ⟨?_, ?_, h.fits, ?_⟩
      · rw [Call.journal_drawn, h.durable]
      · rw [Call.disk_drawn, h.bytes]
      · rw [Call.catalog_drawn, h.catalog]

/-- No call changes whether the file can be reached. -/
theorem Call.reachable_run (c : Call) {s : Store} (h : s.journal.isSome = true) :
    (c.run s).2.host.disk.reachable = s.host.disk.reachable := by
  cases hc : c.change? s with
  | none =>
    obtain ⟨_, _, -, hrun⟩ := run_of_no_change hc
    rw [hrun]
    rfl
  | some r =>
    obtain ⟨j, hj⟩ := Option.isSome_iff_exists.mp h
    by_cases hfits : r.Fits
    · cases hwrite : s.host.disk.failsAfter s.host.disk.writes with
      | none =>
        obtain ⟨_, -, hrun⟩ := run_of_written hc hj hfits hwrite
        rw [hrun]
        rfl
      | some n =>
        rw [run_of_failing hc hj hfits hwrite]
        rfl
    · rw [run_of_not_fits hc hj hfits, disk_drawn]

theorem Keeps.call {s : Store} {held : List Record} (h : s.Keeps held) (c : Call) :
    (c.run s).2.Keeps (held ++ c.logged s) := by
  have hnext := h.stands.call c
  exact ⟨hnext.durable, hnext.bytes, (c.reachable_run h.durable).trans h.reachable, hnext.fits,
    hnext.catalog⟩

/-- A call logs one record at the most. -/
theorem Call.logged_cases (c : Call) (s : Store) : c.logged s = [] ∨ ∃ r, c.logged s = [r] := by
  unfold Call.logged
  split
  · exact Or.inl rfl
  · cases c.change? s with
    | none => exact Or.inl rfl
    | some r => exact Or.inr ⟨r, rfl⟩

/-- Whatever first records of the account a crash leaves, the catalog that they make is of a kind. -/
def Throughout (P : Catalog → Prop) (held : List Record) : Prop :=
  ∀ first, first <+: held → ∀ catalog, Catalog.empty.applyAll first = .ok catalog → P catalog

theorem Throughout.of_isPrefix {P : Catalog → Prop} {first held : List Record}
    (h : Throughout P held) (hfirst : first <+: held) : Throughout P first :=
  fun _ h' => h _ (h'.trans hfirst)

theorem throughout_nil {P : Catalog → Prop} (h : P .empty) : Throughout P [] := by
  intro first hfirst catalog hcatalog
  rw [List.prefix_nil.mp hfirst] at hcatalog
  rwa [← Except.ok.inj hcatalog]

theorem Throughout.catalog {P : Catalog → Prop} {s : Store} {held : List Record}
    (h : Throughout P held) (hstands : s.Stands held) : P s.catalog :=
  h held (List.prefix_refl held) _ hstands.catalog

/-- The one record that a call logs at the most makes the catalog that the store then has. -/
theorem Throughout.call {P : Catalog → Prop} {s : Store} {held : List Record}
    (h : Throughout P held) (hstands : s.Stands held) {c : Call} (hnext : P (c.run s).2.catalog) :
    Throughout P (held ++ c.logged s) := by
  have hkept := hstands.call c
  intro first hfirst catalog hcatalog
  rcases c.logged_cases s with hnone | ⟨r, hone⟩
  · rw [hnone, List.append_nil] at hfirst
    exact h first hfirst catalog hcatalog
  · rw [hone] at hfirst hkept
    rcases List.prefix_concat_iff.mp hfirst with rfl | hshort
    · rw [hkept.catalog] at hcatalog
      rwa [← Except.ok.inj hcatalog]
    · exact h first hshort catalog hcatalog

/-! ## §3 — starting on a journal -/

/-- **A start on a file that was cut** finds the records inside the bytes that are left, makes their
catalog, and leaves their frames. -/
theorem open_of_take_frames {options : Options} {path : String} (host : Host) (rs : List Record)
    (n : Nat) {catalog : Catalog} (hpath : options.journalPath? = some path)
    (hreachable : host.disk.reachable = true)
    (hbytes : host.disk.bytes = (Journal.frames rs).take n) (hfits : ∀ r ∈ rs, r.Fits)
    (hread : ∀ r ∈ Journal.within n rs, r.Readable)
    (hcatalog : Catalog.empty.applyAll (Journal.within n rs) = .ok catalog) :
    Store.open options host = .ok ⟨catalog, some ⟨path, false⟩,
      host.withDisk (host.disk.withBytes (Journal.frames (Journal.within n rs)))⟩ := by
  have hopen := Journal.open_of_reachable path hreachable
  rw [hbytes] at hopen
  have hreplay := Journal.replay_take_frames ⟨path, false⟩ host.disk rs n hfits hread
  unfold Store.open
  simp only [hpath, hopen, hreplay, hcatalog]
  rfl

/-- **A store that is opened** is one in memory; or the records in its file have made its catalog, nothing
is to be synced, and only the file can be another one than before. -/
theorem open_eq_ok {options : Options} {host : Host} {s : Store}
    (h : Store.open options host = .ok s) :
    options.journalPath? = none ∧ s = .inMemory host ∨
      ∃ path records catalog file, options.journalPath? = some path ∧
        Catalog.empty.applyAll records = .ok catalog ∧
        s = ⟨catalog, some ⟨path, false⟩, host.withDisk { host.disk with file := file }⟩ := by
  unfold Store.open at h
  split at h
  · next hpath => exact Or.inl ⟨hpath, (Except.ok.inj h).symm⟩
  · next path hpath =>
    split at h
    · cases h
    · next journal disk hopen =>
      rw [Journal.open_of_reachable path (Journal.reachable_of_open hopen)] at hopen
      obtain ⟨hjournal, rfl⟩ := Prod.mk.inj hopen
      obtain rfl := Except.ok.inj hjournal
      split at h
      · cases h
      · next records disk hreplay =>
        obtain ⟨file, hfile⟩ :=
          Journal.disk_replay ⟨path, false⟩ (host.disk.withBytes host.disk.bytes)
        rw [hreplay] at hfile
        obtain rfl : disk = _ := hfile
        simp only at h
        split at h
        · cases h
        · next catalog happly =>
          obtain rfl := Except.ok.inj h
          exact Or.inr ⟨path, records, catalog, file, hpath, happly, rfl⟩

/-- A start on an empty file, or on none, finds nothing. -/
theorem open_of_empty {options : Options} {path : String} (host : Host)
    (hpath : options.journalPath? = some path) (hreachable : host.disk.reachable = true)
    (hempty : host.disk.bytes = []) :
    Store.open options host
      = .ok ⟨.empty, some ⟨path, false⟩, host.withDisk (host.disk.withBytes [])⟩ :=
  open_of_take_frames host [] 0 hpath hreachable hempty (by simp)
    (by simp [Journal.within]) rfl

/-- A store that has just been started on an empty file keeps nothing. -/
theorem keeps_nil_of_open {options : Options} {path : String} {host : Host} {s : Store}
    (hpath : options.journalPath? = some path) (hempty : host.disk.bytes = [])
    (hopen : Store.open options host = .ok s) : s.Keeps [] := by
  cases hreachable : host.disk.reachable with
  | true =>
    rw [open_of_empty host hpath hreachable hempty] at hopen
    obtain rfl := Except.ok.inj hopen
    exact ⟨rfl, rfl, hreachable, by simp, rfl⟩
  | false =>
    have hfail : Journal.open path host.disk = (.error .io, host.disk) := by
      unfold Journal.open
      rw [if_neg (by simp [hreachable])]
    unfold Store.open at hopen
    simp only [hpath, hfail] at hopen
    cases hopen

/-- Go down with the journal's file cut to a length, and start again. -/
def crash (options : Options) (s : Store) (kept : Nat) : Except (EngineError × Host) Store :=
  Store.open options (s.host.withDisk (s.host.disk.truncate kept))

/-- **A crash is survived.** The store that starts again stands on the records inside the bytes that
are left; its host is the one from before but for the disk. -/
theorem Keeps.crash {options : Options} {path : String} {s : Store} {held : List Record}
    (h : s.Keeps held) (hpath : options.journalPath? = some path)
    (hread : ∀ r ∈ held, r.Readable) (kept : Nat) :
    ∃ s', s.crash options kept = .ok s' ∧ s'.Keeps (Journal.within kept held) ∧
      s'.host = s.host.withDisk s'.host.disk := by
  have hbegin := Journal.within_isPrefix kept held
  obtain ⟨catalog, hcatalog⟩ := Catalog.applyAll_of_isPrefix hbegin h.catalog
  have hbytes : (s.host.withDisk (s.host.disk.truncate kept)).disk.bytes
      = (Journal.frames held).take kept := by
    rw [Host.disk_withDisk, Disk.bytes_truncate, h.bytes]
  have hopen := open_of_take_frames (s.host.withDisk (s.host.disk.truncate kept)) held kept hpath
    h.reachable hbytes h.fits (fun r hr => hread r (hbegin.subset hr)) hcatalog
  refine ⟨_, hopen, ⟨rfl, rfl, h.reachable, ?_, hcatalog⟩, rfl⟩
  exact fun r hr => h.fits r (hbegin.subset hr)

/-! ## §4 — runs of calls and crashes -/

/-- What befalls a durable store: a call, or a crash that leaves the first `kept` bytes of the
journal's file. A restart is a crash that leaves all of them. -/
inductive Event where
  | call (c : Call)
  | crash (kept : Nat)

/-- A run of events, with the account of the changes that the store ought to hold: those that
outlived the last crash, and those that were logged since. -/
def follow (options : Options) :
    Store × List Record → List Event → Except (EngineError × Host) (Store × List Record)
  | (s, held), [] => .ok (s, held)
  | (s, held), .call c :: events => follow options ((c.run s).2, held ++ c.logged s) events
  | (s, held), .crash kept :: events =>
    match s.crash options kept with
    | .ok s' => follow options (s', Journal.within kept held) events
    | .error e => .error e

/-- The reader gives back every record that a run logs. -/
def Rereads (options : Options) : Store → List Event → Prop
  | _, [] => True
  | s, .call c :: events =>
    (∀ r ∈ c.logged s, r.Readable) ∧ Rereads options (c.run s).2 events
  | s, .crash kept :: events =>
    ∀ s', s.crash options kept = .ok s' → Rereads options s' events

/-- **A run of calls and crashes goes through, and the account stays true.** Moreover every beginning
of the account was the whole of it once: either before the run, or after some of its events.
Induction on the events. -/
theorem Keeps.follow {options : Options} {path : String}
    (hpath : options.journalPath? = some path) {s : Store} {held : List Record} (h : s.Keeps held)
    (hheld : ∀ r ∈ held, r.Readable) (events : List Event) (hread : s.Rereads options events) :
    ∃ s' held', Store.follow options (s, held) events = .ok (s', held') ∧ s'.Keeps held' ∧
      (∀ r ∈ held', r.Readable) ∧
      ∀ ps, ps <+: held' → ps <+: held ∨ ∃ before s'', before <+: events ∧
        Store.follow options (s, held) before = .ok (s'', ps) ∧ s''.Keeps ps := by
  induction events generalizing s held with
  | nil => exact ⟨s, held, rfl, h, hheld, fun ps hps => Or.inl hps⟩
  | cons event events ih =>
    cases event with
    | call c =>
      obtain ⟨hlogged, hrest⟩ := hread
      have hnext := h.call c
      have hnextRead : ∀ r ∈ held ++ c.logged s, r.Readable := fun r hr =>
        (List.mem_append.mp hr).elim (hheld r) (hlogged r)
      obtain ⟨s', held', hrun, hkeeps, hreads, hmoments⟩ := ih hnext hnextRead hrest
      refine ⟨s', held', hrun, hkeeps, hreads, fun ps hps => ?_⟩
      rcases hmoments ps hps with hbefore | ⟨before, s'', hsub, hfollow, hmoment⟩
      · -- the account before the rest of the run ends in what this call has logged
        rcases c.logged_cases s with hnone | ⟨r, hone⟩
        · rw [hnone, List.append_nil] at hbefore
          exact Or.inl hbefore
        · rw [hone] at hbefore hnext
          rcases List.prefix_concat_iff.mp hbefore with rfl | hshort
          · refine Or.inr ⟨[.call c], (c.run s).2, by simp, ?_, hnext⟩
            simp [Store.follow, hone]
          · exact Or.inl hshort
      · exact Or.inr ⟨.call c :: before, s'', List.cons_prefix_cons.mpr ⟨rfl, hsub⟩, hfollow,
          hmoment⟩
    | crash kept =>
      obtain ⟨s₁, hcrash, hnext, -⟩ := h.crash hpath hheld kept
      have hbegin := Journal.within_isPrefix kept held
      obtain ⟨s', held', hrun, hkeeps, hreads, hmoments⟩ :=
        ih hnext (fun r hr => hheld r (hbegin.subset hr)) (hread s₁ hcrash)
      refine ⟨s', held', by simp only [Store.follow, hcrash, hrun], hkeeps, hreads,
        fun ps hps => ?_⟩
      rcases hmoments ps hps with hbefore | ⟨before, s'', hsub, hfollow, hmoment⟩
      · -- what outlives a crash is a beginning of what was held
        exact Or.inl (hbefore.trans hbegin)
      · refine Or.inr ⟨.crash kept :: before, s'', List.cons_prefix_cons.mpr ⟨rfl, hsub⟩, ?_,
          hmoment⟩
        simp only [Store.follow, hcrash, hfollow]

/-! ## §5 — what a crash leaves -/

/-- A store that goes down after a run on an empty file starts again, with the catalog that it had
when it held the records inside the bytes that are left, and no others. -/
theorem crash_after_follow {options : Options} {path : String} {host : Host} {s₀ : Store}
    (hpath : options.journalPath? = some path) (hstart : Store.open options host = .ok s₀)
    (hfile : host.disk.bytes = []) (calls : List Event) (hread : s₀.Rereads options calls) :
    ∃ s held, Store.follow options (s₀, []) calls = .ok (s, held) ∧
      ∀ kept, ∃ s' k before s'', s.crash options kept = .ok s' ∧
        s'.host.disk.bytes = Journal.frames (held.take k) ∧
        before <+: calls ∧ Store.follow options (s₀, []) before = .ok (s'', held.take k) ∧
        s'.catalog = s''.catalog := by
  have hnil := keeps_nil_of_open hpath hfile hstart
  obtain ⟨s, held, hrun, hkeeps, hreads, hmoments⟩ := hnil.follow hpath (by simp) calls hread
  refine ⟨s, held, hrun, fun kept => ?_⟩
  obtain ⟨s', hcrash, hleft, -⟩ := hkeeps.crash hpath hreads kept
  have hbegin := Journal.within_isPrefix kept held
  have htake := List.prefix_iff_eq_take.mp hbegin
  rcases hmoments _ hbegin with hnone | ⟨before, s'', hsub, hfollow, hmoment⟩
  · -- nothing is left, and that was so before the first call
    rw [List.prefix_nil.mp hnone] at hleft
    refine ⟨s', 0, [], s₀, hcrash, ?_, List.nil_prefix, rfl, hleft.catalog_eq hnil⟩
    rw [List.take_zero, hleft.bytes]
  · refine ⟨s', (Journal.within kept held).length, before, s'', hcrash, ?_, hsub, ?_,
      hleft.catalog_eq hmoment⟩
    · rw [← htake, hleft.bytes]
    · rw [← htake, hfollow]

/-- The record that a call has logged is that of its change. -/
theorem Call.change?_of_mem_logged {c : Call} {s : Store} {r : Record} (h : r ∈ c.logged s) :
    c.change? s = some r := by
  unfold Call.logged at h
  split at h
  · simp at h
  · exact Option.mem_toList.mp h

end Store

/-- **Crash consistency.** A journal that was opened on an empty file, or on none, can be read back
after any run of appends and crashes: a replay gives the records that outlived the last crash and
behind them those appended since. A crash that keeps any number of bytes is answered with exactly the
records that lie wholly inside them, and the file ends with the last of these. A store on such a file
survives any crash as well: it starts again with the catalog of a moment of its run, the one that the
first `k` of the records made which it held. -/
theorem crash_consistency {path : String} {disk d : Disk} {j : Journal}
    (hopen : Journal.open path disk = (.ok j, d)) (hempty : disk.bytes = [])
    (events : List Journal.Event) (hread : ∀ r, .append r ∈ events → r.Readable)
    {options : Options} {file : String} {host : Host} {s₀ : Store}
    (hpath : options.journalPath? = some file) (hstart : Store.open options host = .ok s₀)
    (hfile : host.disk.bytes = []) (calls : List Store.Event) (hcalls : s₀.Rereads options calls) :
    (∃ s held, Journal.Session.run ⟨j, d⟩ events = (s, held) ∧
      s.disk.bytes = Journal.frames held ∧ s.journal.replay s.disk = (.ok held, s.disk) ∧
      (∀ r, r.Fits → s.disk.failsAfter s.disk.writes = none →
        ∃ s', s.append r = (.ok (Journal.frames held).length, s') ∧
          Journal.Session.run ⟨j, d⟩ (events ++ [.append r]) = (s', held ++ [r])) ∧
      ∀ kept, ∃ s' survivors, s.crash kept = (.ok survivors, s') ∧
        s'.disk.bytes = Journal.frames survivors ∧
        Journal.Session.run ⟨j, d⟩ (events ++ [.crash kept]) = (s', survivors) ∧
        survivors <+: held ∧
        ∀ first, first <+: held →
          (first <+: survivors ↔ (Journal.frames first).length ≤ kept)) ∧
    ∃ s held, Store.follow options (s₀, []) calls = .ok (s, held) ∧
      ∀ kept, ∃ s' k before s'', s.crash options kept = .ok s' ∧
        s'.host.disk.bytes = Journal.frames (held.take k) ∧
        before <+: calls ∧ Store.follow options (s₀, []) before = .ok (s'', held.take k) ∧
        s'.catalog = s''.catalog :=
  ⟨Journal.Session.reads_back_of_run hopen hempty events hread,
    Store.crash_after_follow hpath hstart hfile calls hcalls⟩

/-- A journal whose first record is torn by a crash, and a store that goes down between an insert and
a drop. -/
theorem crash_consistency_of_torn_insert :
    let options : Options := { dbpath := some "data" }
    let host : Host := { ids := fun _ => "", showTime := fun _ => "" }
    let one : Document := ⟨[("_id", .ofNat 1)]⟩
    let insert : Record := .insert "db" "notes" [one.toValue]
    let drop : Record := .dropDatabase "db"
    let calls : List Store.Event :=
      [.call (.insert "db" "notes" [one]), .crash 5, .call (.dropDatabase "db")]
    ∃ s₀, Store.open options host = .ok s₀ ∧ s₀.Rereads options calls ∧
      (∃ s held, Journal.Session.run ⟨⟨"journal.emj", false⟩, { file := some [] }⟩
          [.append insert, .crash 9, .append drop] = (s, held) ∧
        s.journal.replay s.disk = (.ok held, s.disk)) ∧
      ∃ s held, Store.follow options (s₀, []) calls = .ok (s, held) := by
  intro options host one insert drop calls
  have hinsert : insert.Readable := insert.readable_iff.mpr (by cbv)
  have hdrop : drop.Readable := drop.readable_iff.mpr (by cbv)
  have hpath : options.journalPath? = some "data/journal.emj" := by decide
  have hstart := Store.open_of_empty host hpath rfl rfl
  have hopen : Journal.open "journal.emj" {}
      = (.ok ⟨"journal.emj", false⟩, { file := some [] }) := rfl
  -- the record of the insert is the same in every store, for the document has an `_id`
  have hrecord : ∀ s r, Store.Call.change? (.insert "db" "notes" [one]) s = some r →
      r = insert := by
    intro s r h
    rw [Store.Call.change?_insert (by decide)] at h
    split at h
    · cases h
    · exact (Option.some.inj h).symm
  have hdropped : ∀ s r, Store.Call.change? (.dropDatabase "db") s = some r → r = drop := by
    intro s r h
    simp only [Store.Call.change?, Option.map_eq_some_iff] at h
    obtain ⟨_, -, rfl⟩ := h
    rfl
  have hcalls : ∀ s : Store, s.Rereads options calls := by
    intro s
    refine ⟨fun r hr => ?_, fun s' _ => ⟨fun r hr => ?_, trivial⟩⟩
    · rw [hrecord s r (Store.Call.change?_of_mem_logged hr)]
      exact hinsert
    · rw [hdropped s' r (Store.Call.change?_of_mem_logged hr)]
      exact hdrop
  have hevents : ∀ r, .append r ∈ [Journal.Event.append insert, .crash 9, .append drop] →
      r.Readable := by
    intro r hr
    simp only [List.mem_cons, Journal.Event.append.injEq, reduceCtorEq, List.not_mem_nil, or_false,
      false_or] at hr
    rcases hr with rfl | rfl
    · exact hinsert
    · exact hdrop
  obtain ⟨⟨s, held, hrun, -, hreplay, -⟩, s', held', hfollow, -⟩ :=
    crash_consistency hopen rfl _ hevents hpath hstart rfl calls (hcalls _)
  exact ⟨_, hstart, hcalls _, ⟨s, held, hrun, hreplay⟩, s', held', hfollow⟩

end DocStore
