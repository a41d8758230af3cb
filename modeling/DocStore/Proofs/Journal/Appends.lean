import DocStore.Proofs.Journal.Crash
import DocStore.Proofs.Journal.Payload

/-!
# DocStore — appends that fail

Any append may fail: its record is too long for a frame, or the disk gives up after some bytes of the
frame. A run of appends leaves on the file the frames of those records alone whose append was answered
with a place (`Journal.Session.appended`).

* **`Journal.Session.append_cases`** — the step: what one append answers, and what it leaves.
* **`Journal.Session.bytes_appendAll`**, **`offset_of_appended`** — a run of appends, on any file.
* **`failed_appends_leave_no_trace`** — the main statement, for a file of whole frames.
-/

namespace DocStore

namespace Journal

namespace Session

/-- Append records one after the other. Every answer stands beside its record. -/
def appendAll : Session → List Record → List (Record × Except EngineError Nat) × Session
  | s, [] => ([], s)
  | s, r :: rs =>
    let (answer, s) := s.append r
    let (answers, s) := appendAll s rs
    ((r, answer) :: answers, s)

/-- The records whose append was answered with a place, and the places. -/
def appended : List (Record × Except EngineError Nat) → List (Record × Nat)
  | [] => []
  | (r, .ok offset) :: answers => (r, offset) :: appended answers
  | (_, .error _) :: answers => appended answers

/-- **One append** puts a frame at the end of the file and answers where it begins; or the disk gives
up, or the record is too long, and then the file is as it was. -/
theorem append_cases (s : Session) (r : Record) :
    (r.Fits ∧ s.disk.failsAfter s.disk.writes = none ∧
      (s.append r).1 = .ok s.disk.bytes.length ∧
      (s.append r).2.disk.bytes = s.disk.bytes ++ r.frame) ∨
    (r.Fits ∧ (∃ n, s.disk.failsAfter s.disk.writes = some n) ∧ (s.append r).1 = .error .io ∧
      (s.append r).2.disk.bytes = s.disk.bytes) ∨
    (¬ r.Fits ∧ s.append r = (.error (.badValue (.recordTooLong r.payload.length)), s)) := by
  by_cases hfits : r.Fits
  · cases hwrite : s.disk.failsAfter s.disk.writes with
    | none =>
      rw [s.append_of_fits hfits hwrite]
      exact Or.inl ⟨hfits, rfl, rfl, rfl⟩
    | some n =>
      rw [s.append_of_failing hfits hwrite]
      exact Or.inr (Or.inl ⟨hfits, ⟨n, rfl⟩, rfl, rfl⟩)
  · rw [s.append_of_not_fits hfits]
    exact Or.inr (Or.inr ⟨hfits, rfl⟩)

/-- What a run of one more record in front has answered, and where it ends. -/
theorem appendAll_cons (s : Session) (r : Record) (rs : List Record) :
    s.appendAll (r :: rs) =
      ((r, (s.append r).1) :: ((s.append r).2.appendAll rs).1, ((s.append r).2.appendAll rs).2) := rfl

theorem map_fst_appendAll (s : Session) (rs : List Record) :
    (s.appendAll rs).1.map Prod.fst = rs := by
  induction rs generalizing s with
  | nil => rfl
  | cons r rs ih => rw [appendAll_cons, List.map_cons, ih]

/-- **A run of appends** puts the frames of the answered records at the end of the file, in order, and
nothing else. -/
theorem bytes_appendAll (s : Session) (rs : List Record) :
    (s.appendAll rs).2.disk.bytes =
      s.disk.bytes ++ frames ((appended (s.appendAll rs).1).map Prod.fst) := by
  induction rs generalizing s with
  | nil => exact (List.append_nil _).symm
  | cons r rs ih =>
    rw [appendAll_cons, ih]
    rcases s.append_cases r with ⟨-, -, hanswer, hbytes⟩ | ⟨-, -, hanswer, hbytes⟩ | ⟨-, hsame⟩
    · rw [hanswer, hbytes, appended, List.map_cons, frames_cons, List.append_assoc]
    · rw [hanswer, hbytes, appended]
    · rw [hsame, appended]

theorem fits_of_mem_appended {s : Session} {rs : List Record} {p : Record × Nat}
    (h : p ∈ appended (s.appendAll rs).1) : p.1.Fits := by
  induction rs generalizing s with
  | nil => cases h
  | cons r rs ih =>
    rw [appendAll_cons] at h
    rcases s.append_cases r with ⟨hfits, -, hanswer, -⟩ | ⟨-, -, hanswer, -⟩ | ⟨-, hsame⟩
    · rw [hanswer] at h
      rcases List.mem_cons.mp h with rfl | hlater
      · exact hfits
      · exact ih hlater
    · rw [hanswer] at h
      exact ih h
    · rw [hsame] at h
      exact ih h

/-- **An append answers where its frame lies**: behind what was on the file, and behind the frames of
the records that were answered before it. -/
theorem offset_of_appended {s : Session} {rs : List Record} {before after : List (Record × Nat)}
    {r : Record} {offset : Nat}
    (h : appended (s.appendAll rs).1 = before ++ (r, offset) :: after) :
    offset = (s.disk.bytes ++ frames (before.map Prod.fst)).length := by
  induction rs generalizing s before with
  | nil => cases before <;> cases h
  | cons r' rs ih =>
    rw [appendAll_cons] at h
    rcases s.append_cases r' with ⟨-, -, hanswer, hbytes⟩ | ⟨-, -, hanswer, hbytes⟩ | ⟨-, hsame⟩
    · rw [hanswer, appended] at h
      cases before with
      | nil =>
        obtain ⟨hfirst, -⟩ := List.cons.inj h
        rw [← (Prod.mk.inj hfirst).2, List.map_nil, frames_nil, List.append_nil]
      | cons p before =>
        -- the record in question comes later, and the frame of this one is before it on the file
        obtain ⟨rfl, hlater⟩ := List.cons.inj h
        rw [ih hlater, hbytes, List.map_cons, frames_cons, List.append_assoc]
    · rw [hanswer] at h
      rw [ih h, hbytes]
    · rw [hsame] at h
      exact ih h

/-- Records that fit are all appended if no write fails. -/
theorem map_fst_appended_of_fits {s : Session} {rs : List Record} (hfits : ∀ r ∈ rs, r.Fits)
    (hwrites : ∀ n, s.disk.failsAfter n = none) :
    (appended (s.appendAll rs).1).map Prod.fst = rs := by
  induction rs generalizing s with
  | nil => rfl
  | cons r rs ih =>
    obtain ⟨hfit, hfits⟩ := List.forall_mem_cons.mp hfits
    rw [appendAll_cons, s.append_of_fits hfit (hwrites _), appended, List.map_cons]
    exact congrArg (r :: ·) (ih hfits hwrites)

end Session

open Session

/-- **Failed appends leave no trace.** Take a file of whole frames and any appends, on a disk on which
any write may fail after any number of bytes. The file then is what it was, and behind it the frames of
the records that were answered with a place, each at that place. A replay gives the records from before
and behind them those that were answered. What the next append does is settled as well: it is answered
and adds its frame, or it fails and leaves the file alone. -/
theorem failed_appends_leave_no_trace {s s' : Session} {held rs : List Record}
    {answers : List (Record × Except EngineError Nat)} (h : Intact s.disk.bytes held)
    (hrun : s.appendAll rs = (answers, s')) :
    answers.map Prod.fst = rs ∧
    s'.disk.bytes = s.disk.bytes ++ frames ((appended answers).map Prod.fst) ∧
    (∀ before r offset after, appended answers = before ++ (r, offset) :: after →
      s'.disk.bytes = s.disk.bytes ++ frames (before.map Prod.fst) ++ r.frame ++
        frames (after.map Prod.fst) ∧
      offset = (s.disk.bytes ++ frames (before.map Prod.fst)).length) ∧
    ((∀ p ∈ appended answers, p.1.Readable) →
      s'.journal.replay s'.disk = (.ok (held ++ (appended answers).map Prod.fst), s'.disk)) ∧
    ∀ r, (r.Fits ∧ s'.disk.failsAfter s'.disk.writes = none ∧
        (s'.append r).1 = .ok s'.disk.bytes.length ∧
        (s'.append r).2.disk.bytes = s'.disk.bytes ++ r.frame) ∨
      (r.Fits ∧ (∃ n, s'.disk.failsAfter s'.disk.writes = some n) ∧ (s'.append r).1 = .error .io ∧
        (s'.append r).2.disk.bytes = s'.disk.bytes) ∨
      (¬ r.Fits ∧ s'.append r = (.error (.badValue (.recordTooLong r.payload.length)), s')) := by
  obtain rfl : (s.appendAll rs).1 = answers := congrArg Prod.fst hrun
  obtain rfl : (s.appendAll rs).2 = s' := congrArg Prod.snd hrun
  have hall := bytes_appendAll s rs
  refine ⟨map_fst_appendAll s rs, hall, fun before r offset after hsplit => ⟨?_, ?_⟩,
    fun hread => ?_, Session.append_cases _⟩
  · rw [hall, hsplit]
    simp
  · exact offset_of_appended hsplit
  · have hadded : Intact (frames ((appended (s.appendAll rs).1).map Prod.fst))
        ((appended (s.appendAll rs).1).map Prod.fst) := by
      refine intact_frames (fun r hr => ?_) fun r hr => ?_
      · obtain ⟨p, hp, rfl⟩ := List.mem_map.mp hr
        exact fits_of_mem_appended hp
      · obtain ⟨p, hp, rfl⟩ := List.mem_map.mp hr
        exact hread p hp
    exact replay_of_intact _ (hall ▸ h.append hadded)

/-- A journal that holds a record takes another one, fails in the header of the next, and goes on. -/
theorem failed_appends_leave_no_trace_of_torn_header :
    let first : Record := .dropDatabase "a"
    let second : Record := .dropDatabase "b"
    let third : Record := .dropDatabase "c"
    let disk : Disk :=
      { file := some (frames [first]), failsAfter := fun n => if n = 1 then some 5 else none }
    let s : Session := ⟨⟨"journal.emj", false⟩, disk⟩
    ∃ answers s', s.appendAll [second, third, second] = (answers, s') ∧
      Intact s.disk.bytes [first] ∧
      appended answers = [(second, (frames [first]).length),
        (second, (frames [first, second]).length)] ∧
      s'.disk.bytes = frames [first, second, second] ∧
      s'.journal.replay s'.disk = (.ok [first, second, second], s'.disk) := by
  intro first second third disk s
  have hfirst : first.Fits ∧ first.Readable :=
    ⟨Record.fits_of_length_chars (by decide), first.readable_iff.mpr rfl⟩
  have hsecond : second.Fits ∧ second.Readable :=
    ⟨Record.fits_of_length_chars (by decide), second.readable_iff.mpr rfl⟩
  have hthird : third.Fits := Record.fits_of_length_chars (by decide)
  have hintact : Intact s.disk.bytes [first] :=
    intact_frames (List.forall_mem_singleton.mpr hfirst.1) (List.forall_mem_singleton.mpr hfirst.2)
  rcases hrun : s.appendAll [second, third, second] with ⟨answers, s'⟩
  have hanswers : appended answers = [(second, (frames [first]).length),
      (second, (frames [first, second]).length)] := by
    rw [show answers = (s.appendAll [second, third, second]).1 by rw [hrun], appendAll_cons,
      s.append_of_fits hsecond.1 rfl, appendAll_cons,
      Session.append_of_failing _ (n := 5) hthird rfl, appendAll_cons,
      Session.append_of_fits _ hsecond.1 rfl]
    simp [appended, appendAll, s, disk, Disk.bytes, Disk.written]
  obtain ⟨-, hbytes, -, hreplay, -⟩ := failed_appends_leave_no_trace hintact hrun
  rw [hanswers] at hbytes hreplay
  refine ⟨answers, s', rfl, hintact, hanswers, ?_, hreplay ?_⟩
  · rw [hbytes]
    simp [s, disk, Disk.bytes]
  · simp only [List.forall_mem_cons]
    exact ⟨hsecond.2, hsecond.2, by simp⟩

end Journal

end DocStore
