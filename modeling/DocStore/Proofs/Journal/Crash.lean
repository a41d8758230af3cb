import DocStore.Proofs.Journal.Frames

/-!
# DocStore — a journal through crashes

What an append leaves on the disk, what a replay finds there, and what a journal holds after any run
of appends and crashes. A crash (`Session.crash`) cuts the file to any length, after which the
journal is opened and replayed again.

* **`Journal.append_of_fits`**, **`append_of_failing`**, **`append_of_not_fits`** — the three ways an
  append can go, each with the whole disk after it.
* **`Journal.replay_of_torn`**, **`replay_of_damaged`**, **`replay_of_unread`** — what a replay makes of
  whole frames, by what stands behind them.
* **`Journal.replay_take_frames`** — the replay of a file of frames that was cut anywhere: it gives
  the records inside the bytes that are left, and cuts the file to the end of their frames.
* **`Journal.Session.Holds`** — the invariant of a run: the file is the frames of the records that
  the journal ought to hold. `Session.run` keeps account of these: those that outlived the last
  crash, and those appended since. `reads_back_of_run` says what that is worth.
-/

namespace DocStore

/-! ## §1 — the bytes of a disk -/

namespace Disk

@[simp] theorem bytes_withBytes (d : Disk) (bytes : List UInt8) :
    (d.withBytes bytes).bytes = bytes := rfl

@[simp] theorem withBytes_withBytes (d : Disk) (bytes bytes' : List UInt8) :
    (d.withBytes bytes).withBytes bytes' = d.withBytes bytes' := rfl

@[simp] theorem bytes_truncate (d : Disk) (length : Nat) :
    (d.truncate length).bytes = d.bytes.take length := rfl

@[simp] theorem reachable_withBytes (d : Disk) (bytes : List UInt8) :
    (d.withBytes bytes).reachable = d.reachable := rfl

@[simp] theorem reachable_truncate (d : Disk) (length : Nat) :
    (d.truncate length).reachable = d.reachable := rfl

/-- The disk after a write that left these bytes in the file. -/
def written (d : Disk) (bytes : List UInt8) : Disk :=
  { d with writes := d.writes + 1, file := some bytes }

@[simp] theorem bytes_written (d : Disk) (bytes : List UInt8) :
    (d.written bytes).bytes = bytes := rfl

@[simp] theorem reachable_written (d : Disk) (bytes : List UInt8) :
    (d.written bytes).reachable = d.reachable := rfl

end Disk

namespace Journal

/-! ## §2 — appending, opening, replaying -/

/-- A record that fits is written, its frame behind what the file holds. -/
theorem append_of_fits (j : Journal) {r : Record} {disk : Disk} (hfits : r.Fits)
    (hwrite : disk.failsAfter disk.writes = none) :
    j.append r disk = (.ok disk.bytes.length, { j with dirty := true },
      disk.written (disk.bytes ++ r.frame)) := by
  have hlen : r.payload.length < 2 ^ 32 := hfits
  unfold append
  simp only [hlen, if_true, Disk.write, hwrite]
  rfl

/-- **A write that fails leaves no trace**: however many bytes of the frame got to the file, they are
cut off again. -/
theorem append_of_failing (j : Journal) {r : Record} {disk : Disk} {n : Nat} (hfits : r.Fits)
    (hwrite : disk.failsAfter disk.writes = some n) :
    j.append r disk = (.error .io, j, disk.written disk.bytes) := by
  have hlen : r.payload.length < 2 ^ 32 := hfits
  unfold append
  simp only [hlen, if_true, Disk.write, hwrite]
  -- the file is cut back to where the frame began
  show (_, _, Disk.withBytes _ ((disk.bytes ++ (Frame.encode r.payload).take n).take
    disk.bytes.length)) = _
  rw [List.take_left]
  rfl

/-- A record that is too long is refused before anything is written. -/
theorem append_of_not_fits (j : Journal) {r : Record} {disk : Disk} (hfits : ¬ r.Fits) :
    j.append r disk = (.error (.badValue (.recordTooLong r.payload.length)), j, disk) := by
  have hlen : ¬ r.payload.length < 2 ^ 32 := hfits
  unfold append
  simp only [hlen, if_false]

/-- On a disk that can be reached a journal opens, with the bytes of its file as they were. -/
theorem open_of_reachable (path : String) {disk : Disk} (h : disk.reachable = true) :
    Journal.open path disk = (.ok ⟨path, false⟩, disk.withBytes disk.bytes) := by
  unfold «open»
  rw [if_pos h]

theorem reachable_of_open {path : String} {disk d : Disk} {j : Journal}
    (h : Journal.open path disk = (.ok j, d)) : disk.reachable = true := by
  unfold «open» at h
  split at h
  · assumption
  · simp at h

/-- A replay may cut the file, and does nothing else to the disk. -/
theorem disk_replay (j : Journal) (disk : Disk) :
    ∃ file, (j.replay disk).2 = { disk with file := file } := by
  unfold replay
  simp only
  split
  · split <;> exact ⟨_, rfl⟩
  · exact ⟨disk.file, rfl⟩

section Replay

variable (j : Journal) {disk : Disk} {bytes rest : List UInt8} {rs : List Record}

/-- **Whole frames and a torn rest** are replayed as the records of the frames, and the rest is cut
off. -/
theorem replay_of_torn (hbytes : disk.bytes = bytes ++ rest) (h : Intact bytes rs)
    (hrest : Frame.split rest = .torn) :
    j.replay disk = (.ok rs, if rest = [] then disk else disk.withBytes bytes) := by
  obtain ⟨fuel, hscan⟩ := scan_file j.path h rest
  have hok : scan j.path (fuel + 1) bytes.length rest = .ok ([], 0) := by
    simp only [scan, hrest]
  rw [hok] at hscan
  simp only [replay, hbytes, hscan, Except.map, List.append_nil, Nat.add_zero]
  by_cases hnil : rest = []
  · simp [hnil]
  · have hlong := List.length_pos_iff.mpr hnil
    rw [if_neg hnil, if_pos (by rw [List.length_append]; omega)]
    unfold Disk.truncate
    rw [hbytes, List.take_left]

/-- **A wrong checksum behind whole frames** is told with the place where its frame begins. -/
theorem replay_of_damaged (hbytes : disk.bytes = bytes ++ rest) (h : Intact bytes rs)
    (hrest : Frame.split rest = .damaged) :
    j.replay disk = (.error (.corruption bytes.length j.path), disk) := by
  obtain ⟨fuel, hscan⟩ := scan_file j.path h rest
  have herror : scan j.path (fuel + 1) bytes.length rest
      = .error (.corruption bytes.length j.path) := by
    simp only [scan, hrest]
  rw [herror] at hscan
  simp only [replay, hbytes, hscan, Except.map]

/-- A payload behind whole frames that is read as no record fails the replay as well. -/
theorem replay_of_unread {payload behind : List UInt8} (hbytes : disk.bytes = bytes ++ rest)
    (h : Intact bytes rs) (hrest : Frame.split rest = .frame payload behind)
    (hread : Record.ofPayload? payload = none) :
    j.replay disk = (.error .serialization, disk) := by
  obtain ⟨fuel, hscan⟩ := scan_file j.path h rest
  have herror : scan j.path (fuel + 1) bytes.length rest = .error .serialization := by
    simp only [scan, hrest, hread]
  rw [herror] at hscan
  simp only [replay, hbytes, hscan, Except.map]

/-- A file of whole frames is replayed as their records, and left alone. -/
theorem replay_of_intact (h : Intact disk.bytes rs) : j.replay disk = (.ok rs, disk) := by
  rw [replay_of_torn j (List.append_nil disk.bytes).symm h rfl, if_pos rfl]

end Replay

/-- **The replay of a file that was cut.** It gives the records whose frames are whole, and leaves
their frames. -/
theorem replay_take_frames (j : Journal) (disk : Disk) (rs : List Record) (n : Nat)
    (hfits : ∀ r ∈ rs, r.Fits) (hread : ∀ r ∈ within n rs, r.Readable) :
    j.replay (disk.withBytes ((frames rs).take n))
      = (.ok (within n rs), disk.withBytes (frames (within n rs))) := by
  obtain ⟨rest, htake, htorn⟩ := take_frames n rs hfits
  have hintact := intact_frames (fun r hr => hfits r ((within_isPrefix n rs).subset hr)) hread
  rw [replay_of_torn j (by rw [Disk.bytes_withBytes, htake]) hintact htorn]
  by_cases hnil : rest = []
  · rw [if_pos hnil, htake, hnil, List.append_nil]
  · rw [if_neg hnil, Disk.withBytes_withBytes]

/-! ## §3 — runs of appends and crashes -/

/-- What befalls a journal: a record is appended, or the machine goes down and leaves the first
`kept` bytes of the file behind. -/
inductive Event where
  | append (r : Record)
  | crash (kept : Nat)

/-- An open journal, and the disk that its file lies on. -/
structure Session where
  journal : Journal
  disk : Disk

namespace Session

def append (s : Session) (r : Record) : Except EngineError Nat × Session :=
  match s.journal.append r s.disk with
  | (answer, journal, disk) => (answer, ⟨journal, disk⟩)

theorem append_of_fits (s : Session) {r : Record} (hfits : r.Fits)
    (hwrite : s.disk.failsAfter s.disk.writes = none) :
    s.append r = (.ok s.disk.bytes.length,
      ⟨{ s.journal with dirty := true }, s.disk.written (s.disk.bytes ++ r.frame)⟩) := by
  unfold Session.append
  rw [Journal.append_of_fits _ hfits hwrite]

theorem append_of_failing (s : Session) {r : Record} {n : Nat} (hfits : r.Fits)
    (hwrite : s.disk.failsAfter s.disk.writes = some n) :
    s.append r = (.error .io, ⟨s.journal, s.disk.written s.disk.bytes⟩) := by
  unfold Session.append
  rw [Journal.append_of_failing _ hfits hwrite]

theorem append_of_not_fits (s : Session) {r : Record} (hfits : ¬ r.Fits) :
    s.append r = (.error (.badValue (.recordTooLong r.payload.length)), s) := by
  unfold Session.append
  rw [Journal.append_of_not_fits _ hfits]

/-- Go down with the file cut to a length, and come up again: the journal is opened and replayed. -/
def crash (s : Session) (kept : Nat) : Except EngineError (List Record) × Session :=
  match Journal.open s.journal.path (s.disk.truncate kept) with
  | (.error e, disk) => (.error e, { s with disk := disk })
  | (.ok journal, disk) =>
    match journal.replay disk with
    | (answer, disk) => (answer, ⟨journal, disk⟩)

/-- One event, with the account of the records that the journal ought to hold: those that outlived
the last crash, and those whose append was answered since. -/
def follow : Session × List Record → Event → Session × List Record
  | (s, held), .append r =>
    match s.append r with
    | (.ok _, s) => (s, held ++ [r])
    | (.error _, s) => (s, held)
  | (s, held), .crash kept => ((s.crash kept).2, within kept held)

/-- A run of events, from a journal that holds nothing. -/
def run (s : Session) (events : List Event) : Session × List Record :=
  events.foldl follow (s, [])

/-! ### The invariant of a run -/

/-- The file holds the frames of these records and nothing else, and can be read back. -/
structure Holds (s : Session) (held : List Record) : Prop where
  bytes : s.disk.bytes = frames held
  reachable : s.disk.reachable = true
  fits : ∀ r ∈ held, r.Fits

/-- A record that fits, on a disk that takes the write, is put behind the others, and the append says
where its frame begins. -/
theorem Holds.append_of_fits {s : Session} {held : List Record} (h : s.Holds held) {r : Record}
    (hfits : r.Fits) (hwrite : s.disk.failsAfter s.disk.writes = none) :
    ∃ s', s.append r = (.ok (frames held).length, s') ∧ s'.Holds (held ++ [r]) := by
  rw [s.append_of_fits hfits hwrite, h.bytes]
  refine ⟨_, rfl, ?_, h.reachable, ?_⟩
  · simp
  · intro r' hr'
    rcases List.mem_append.mp hr' with hold | hnew
    · exact h.fits r' hold
    · rw [List.mem_singleton.mp hnew]
      exact hfits

/-- An append that is answered puts the record behind the others; one that is refused or fails
changes nothing. -/
theorem Holds.append {s : Session} {held : List Record} (h : s.Holds held) (r : Record) :
    (∃ s', s.append r = (.ok (frames held).length, s') ∧ s'.Holds (held ++ [r]))
      ∨ ∃ e s', s.append r = (.error e, s') ∧ s'.Holds held := by
  by_cases hfits : r.Fits
  · cases hwrite : s.disk.failsAfter s.disk.writes with
    | none => exact Or.inl (h.append_of_fits hfits hwrite)
    | some n =>
      rw [s.append_of_failing hfits hwrite]
      exact Or.inr ⟨_, _, rfl, h.bytes, h.reachable, h.fits⟩
  · rw [s.append_of_not_fits hfits]
    exact Or.inr ⟨_, _, rfl, h.bytes, h.reachable, h.fits⟩

/-- A crash is answered with the records inside the bytes that are left, and these are held from
then on. -/
theorem Holds.crash {s : Session} {held : List Record} (h : s.Holds held)
    (hread : ∀ r ∈ held, r.Readable) (kept : Nat) :
    ∃ s', s.crash kept = (.ok (within kept held), s') ∧ s'.Holds (within kept held) := by
  have hfits : ∀ r ∈ within kept held, r.Fits :=
    fun r hr => h.fits r ((within_isPrefix kept held).subset hr)
  have hopen := open_of_reachable s.journal.path
    (show (s.disk.truncate kept).reachable = true from h.reachable)
  rw [Disk.bytes_truncate, h.bytes] at hopen
  have hreplay := replay_take_frames ⟨s.journal.path, false⟩ (s.disk.truncate kept) held kept
    h.fits fun r hr => hread r ((within_isPrefix kept held).subset hr)
  unfold Session.crash
  rw [hopen]
  simp only [hreplay]
  exact ⟨_, rfl, rfl, h.reachable, hfits⟩

/-- A replay gives back what is held, and changes nothing on the disk. -/
theorem Holds.replay {s : Session} {held : List Record} (h : s.Holds held)
    (hread : ∀ r ∈ held, r.Readable) : s.journal.replay s.disk = (.ok held, s.disk) :=
  replay_of_intact s.journal (h.bytes ▸ intact_frames h.fits hread)

/-- One event keeps the account true: the file is the frames of the records that the journal ought
to hold. -/
theorem Holds.follow {s : Session} {held : List Record} (h : s.Holds held)
    (hheld : ∀ r ∈ held, r.Readable) (event : Event)
    (hread : ∀ r, event = .append r → r.Readable) :
    (follow (s, held) event).1.Holds (follow (s, held) event).2 ∧
      ∀ r ∈ (follow (s, held) event).2, r.Readable := by
  cases event with
  | append r =>
    rcases h.append r with ⟨s', hs', hnext⟩ | ⟨e, s', hs', hnext⟩
    · simp only [Session.follow, hs']
      refine ⟨hnext, fun r' hr' => ?_⟩
      rcases List.mem_append.mp hr' with hold | hnew
      · exact hheld r' hold
      · rw [List.mem_singleton.mp hnew]
        exact hread r rfl
    · simp only [Session.follow, hs']
      exact ⟨hnext, hheld⟩
  | crash kept =>
    obtain ⟨s', hs', hnext⟩ := h.crash hheld kept
    simp only [Session.follow, hs']
    exact ⟨hnext, fun r hr => hheld r ((within_isPrefix kept held).subset hr)⟩

/-- **A run keeps the account true.** Induction on the events, from any moment of a run on. -/
theorem Holds.foldl_follow {s : Session} {held : List Record} (h : s.Holds held)
    (hheld : ∀ r ∈ held, r.Readable) (events : List Event)
    (hread : ∀ r, .append r ∈ events → r.Readable) :
    (events.foldl Session.follow (s, held)).1.Holds (events.foldl Session.follow (s, held)).2 ∧
      ∀ r ∈ (events.foldl Session.follow (s, held)).2, r.Readable := by
  induction events generalizing s held with
  | nil => exact ⟨h, hheld⟩
  | cons event events ih =>
    obtain ⟨hnext, hnextRead⟩ := h.follow hheld event fun r hr => hread r (hr ▸ List.mem_cons_self)
    exact ih hnext hnextRead fun r hr => hread r (List.mem_cons_of_mem _ hr)

/-- A journal that is opened on an empty file, or on none, holds nothing. -/
theorem holds_nil_of_open {path : String} {disk d : Disk} {j : Journal}
    (hopen : Journal.open path disk = (.ok j, d)) (hempty : disk.bytes = []) :
    Holds ⟨j, d⟩ [] := by
  have hreachable := reachable_of_open hopen
  rw [open_of_reachable path hreachable, hempty] at hopen
  obtain ⟨-, rfl⟩ := Prod.mk.inj hopen
  exact ⟨rfl, hreachable, by simp⟩

/-- **What a journal holds after any run** can be read back; one more record is put behind it, and
one more crash leaves the records inside the bytes that are kept. -/
theorem reads_back_of_run {path : String} {disk d : Disk} {j : Journal}
    (hopen : Journal.open path disk = (.ok j, d)) (hempty : disk.bytes = [])
    (events : List Event) (hread : ∀ r, .append r ∈ events → r.Readable) :
    ∃ s held, run ⟨j, d⟩ events = (s, held) ∧ s.disk.bytes = frames held ∧
      s.journal.replay s.disk = (.ok held, s.disk) ∧
      (∀ r, r.Fits → s.disk.failsAfter s.disk.writes = none →
        ∃ s', s.append r = (.ok (frames held).length, s') ∧
          run ⟨j, d⟩ (events ++ [.append r]) = (s', held ++ [r])) ∧
      ∀ kept, ∃ s' survivors, s.crash kept = (.ok survivors, s') ∧
        s'.disk.bytes = frames survivors ∧
        run ⟨j, d⟩ (events ++ [.crash kept]) = (s', survivors) ∧ survivors <+: held ∧
        ∀ first, first <+: held → (first <+: survivors ↔ (frames first).length ≤ kept) := by
  obtain ⟨hholds, hheld⟩ := (holds_nil_of_open hopen hempty).foldl_follow (by simp) events hread
  rcases hrun : run ⟨j, d⟩ events with ⟨s, held⟩
  have hfold : events.foldl follow (⟨j, d⟩, []) = (s, held) := hrun
  rw [hfold] at hholds hheld
  -- one more event of a run is a step from where the run has come to
  have hlast : ∀ event, run ⟨j, d⟩ (events ++ [event]) = follow (s, held) event := by
    intro event
    unfold run
    rw [List.foldl_append, hfold]
    rfl
  refine ⟨s, held, rfl, hholds.bytes, hholds.replay hheld, ?_, fun kept => ?_⟩
  · intro r hfits hwrite
    obtain ⟨s', hs', -⟩ := hholds.append_of_fits hfits hwrite
    refine ⟨s', hs', ?_⟩
    rw [hlast]
    simp only [Session.follow, hs']
  · obtain ⟨s', hs', hnext⟩ := hholds.crash hheld kept
    refine ⟨s', _, hs', hnext.bytes, ?_, within_isPrefix kept held,
      fun first hfirst => prefix_within_iff hfirst⟩
    rw [hlast]
    simp only [Session.follow, hs']

end Session

end Journal

end DocStore
