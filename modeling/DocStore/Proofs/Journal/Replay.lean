import DocStore.Proofs.Journal.Appends
import DocStore.Proofs.Journal.Reread

/-!
# DocStore — replaying any file

A journal's file may hold any bytes. Whatever they are, they begin with whole frames that can be read,
and what comes behind these decides how a replay ends (`Journal.replay_cases`): bytes that make no
frame are cut off, a frame with a wrong checksum or with a payload that is no record fails the replay.

* **`replay_of_written`** — a file that a journal has written, cut anywhere: the replay gives the records
  inside the bytes that are left, each of them as it is read, or fails.
* **`replay_of_any_file`** — the main statement: a replay fails and leaves the file alone, or leaves
  the whole frames, which can be replayed again and appended to.
-/

namespace DocStore

namespace Journal

/-- **What decides a replay** is behind the whole frames at the front of the file. -/
theorem replay_cases (j : Journal) (disk : Disk) :
    ∃ front rs rest, disk.bytes = front ++ rest ∧ Intact front rs ∧
      ((Frame.split rest = .torn ∧
          j.replay disk = (.ok rs, if rest = [] then disk else disk.withBytes front)) ∨
        (Frame.split rest = .damaged ∧
          j.replay disk = (.error (.corruption front.length j.path), disk)) ∨
        ∃ payload behind, Frame.split rest = .frame payload behind ∧
          Record.ofPayload? payload = none ∧ j.replay disk = (.error .serialization, disk)) := by
  obtain ⟨front, rs, rest, hbytes, hfront, hrest⟩ := exists_intact disk.bytes
  refine ⟨front, rs, rest, hbytes, hfront, ?_⟩
  cases hsplit : Frame.split rest with
  | torn => exact Or.inl ⟨rfl, replay_of_torn j hbytes hfront hsplit⟩
  | damaged => exact Or.inr (Or.inl ⟨rfl, replay_of_damaged j hbytes hfront hsplit⟩)
  | frame payload behind =>
    have hread := hrest payload behind hsplit
    exact Or.inr (Or.inr ⟨payload, behind, rfl, hread, replay_of_unread j hbytes hfront hsplit hread⟩)

/-- Whole frames that are read at the front of a file of frames are all of them, if nothing but a torn
rest is behind. Induction on the frames that are read. -/
theorem Intact.eq_frames {front rest tail : List UInt8} {rs held : List Record} (h : Intact front rs)
    (hbytes : front ++ rest = frames held ++ tail) (hfits : ∀ r ∈ held, r.Fits)
    (hrest : Frame.split rest = .torn) (htail : Frame.split tail = .torn) :
    rs = held.map Record.reread ∧ front = frames held ∧ ∀ r ∈ held, r.Returns := by
  induction h generalizing held with
  | nil =>
    cases held with
    | nil => exact ⟨rfl, rfl, by simp⟩
    | cons r held =>
      rw [List.nil_append, frames_cons, List.append_assoc] at hbytes
      rw [hbytes, Record.frame, Frame.split_encode_append _ _ (hfits r List.mem_cons_self)] at hrest
      cases hrest
  | @cons payload bytes r rs hlength hread _ ih =>
    have hfront := Frame.split_encode_append payload (bytes ++ rest) hlength
    rw [← List.append_assoc, hbytes] at hfront
    cases held with
    | nil =>
      rw [frames_nil, List.nil_append, htail] at hfront
      cases hfront
    | cons r' held =>
      obtain ⟨hfit, hfits'⟩ := List.forall_mem_cons.mp hfits
      rw [frames_cons, List.append_assoc, Record.frame, Frame.split_encode_append _ _ hfit] at hfront
      obtain ⟨rfl, hbehind⟩ := Frame.Split.frame.inj hfront
      obtain rfl := Record.eq_reread_of_ofPayload? hread
      obtain ⟨rfl, rfl, hreturn⟩ := ih hbehind.symm hfits'
      exact ⟨rfl, rfl, List.forall_mem_cons.mpr ⟨hread, hreturn⟩⟩

/-- **A replay of a file that was written and cut** gives the records inside the bytes that are left, as
they are read, and leaves their frames, or fails and leaves the disk as it was. -/
theorem replay_of_written (j : Journal) {disk : Disk} {held : List Record} {n : Nat}
    (hbytes : disk.bytes = (frames held).take n) (hfits : ∀ r ∈ held, r.Fits) :
    (∃ err, j.replay disk = (.error err, disk)) ∨
      ∃ d, j.replay disk = (.ok ((within n held).map Record.reread), d) ∧
        d.bytes = frames (within n held) ∧ ∀ r ∈ within n held, r.Returns := by
  obtain ⟨tail, htake, htail⟩ := take_frames n held hfits
  have hsub := (within_isPrefix n held).subset
  obtain ⟨front, rs, rest, hsplit, hfront,
    ⟨hrest, hreplay⟩ | ⟨-, hreplay⟩ | ⟨payload, behind, -, -, hreplay⟩⟩ := replay_cases j disk
  · rw [hbytes, htake] at hsplit
    obtain ⟨rfl, rfl, hreturn⟩ := hfront.eq_frames hsplit.symm (fun r hr => hfits r (hsub hr)) hrest htail
    refine Or.inr ⟨_, hreplay, ?_, hreturn⟩
    split
    · next hnil =>
      have htail := List.append_cancel_left hsplit
      rw [hbytes, htake, htail, hnil, List.append_nil]
    · rfl
  · exact Or.inl ⟨_, hreplay⟩
  · exact Or.inl ⟨_, hreplay⟩

/-- An append that is answered with a place has put the frame of its record at the end of the file. -/
theorem append_eq_ok {j j' : Journal} {r : Record} {disk d : Disk} {offset : Nat}
    (h : j.append r disk = (.ok offset, j', d)) :
    r.Fits ∧ offset = disk.bytes.length ∧ d.bytes = disk.bytes ++ r.frame := by
  by_cases hfits : r.Fits
  · cases hwrite : disk.failsAfter disk.writes with
    | none =>
      rw [append_of_fits j hfits hwrite] at h
      obtain ⟨hoffset, hrest⟩ := Prod.mk.inj h
      obtain ⟨-, rfl⟩ := Prod.mk.inj hrest
      exact ⟨hfits, (Except.ok.inj hoffset).symm, rfl⟩
    | some n =>
      rw [append_of_failing j hfits hwrite] at h
      cases h
  · rw [append_of_not_fits j hfits] at h
    cases h

/-- Behind whole frames a record that is appended is read last. -/
theorem replay_of_append {j j' : Journal} {x : Record} {disk d : Disk} {offset : Nat}
    {rs : List Record} (h : Intact disk.bytes rs) (hread : x.Readable)
    (happend : j.append x disk = (.ok offset, j', d)) :
    j'.replay d = (.ok (rs ++ [x]), d) := by
  obtain ⟨hfits, -, hbytes⟩ := append_eq_ok happend
  exact replay_of_intact j' (hbytes ▸ h.concat hfits hread)

/-- **A replay of any file** fails, at the first frame that is damaged or cannot be read, and leaves
the disk as it was; or it gives the records of the whole frames that the file begins with, and leaves
these frames. What it cuts off is shorter than a header, or a header that names more bytes than follow.
The file that it leaves is replayed in the same way again, and what is appended to it is read last. -/
theorem replay_of_any_file (j : Journal) (disk : Disk) :
    (∃ e front rs rest, j.replay disk = (.error e, disk) ∧ disk.bytes = front ++ rest ∧
      Intact front rs ∧
      (Frame.split rest = .damaged ∧ e = .corruption front.length j.path ∨
        ∃ payload behind, Frame.split rest = .frame payload behind ∧
          Record.ofPayload? payload = none ∧ e = .serialization)) ∨
    ∃ rs d rest, j.replay disk = (.ok rs, d) ∧ disk.bytes = d.bytes ++ rest ∧ Intact d.bytes rs ∧
      (rest.length < Frame.headerLength ∨
        ∃ n sum behind, n < 2 ^ 32 ∧ sum < 2 ^ 32 ∧
          rest = Frame.word n ++ Frame.word sum ++ behind ∧ behind.length < n) ∧
      j.replay d = (.ok rs, d) ∧
      ∀ x offset j' d', x.Readable → j.append x d = (.ok offset, j', d') →
        j'.replay d' = (.ok (rs ++ [x]), d') := by
  obtain ⟨front, rs, rest, hbytes, hfront,
    ⟨htorn, hreplay⟩ | ⟨hdamaged, hreplay⟩ | ⟨payload, behind, hframe, hread, hreplay⟩⟩ :=
    replay_cases j disk
  · -- what is left on the disk are the whole frames, whether something was cut off or not
    obtain ⟨d, hd, hleft⟩ : ∃ d, j.replay disk = (.ok rs, d) ∧ d.bytes = front := by
      refine ⟨_, hreplay, ?_⟩
      split
      · next hnil => rw [hbytes, hnil, List.append_nil]
      · rfl
    have hintact : Intact d.bytes rs := hleft ▸ hfront
    refine Or.inr ⟨rs, d, rest, hd, hleft ▸ hbytes, hintact, Frame.split_eq_torn_iff.mp htorn,
      replay_of_intact j hintact, fun x offset j' d' hx happend => ?_⟩
    exact replay_of_append hintact hx happend
  · exact Or.inl ⟨_, front, rs, rest, hreplay, hbytes, hfront, Or.inl ⟨hdamaged, rfl⟩⟩
  · exact Or.inl ⟨_, front, rs, rest, hreplay, hbytes, hfront,
      Or.inr ⟨payload, behind, hframe, hread, rfl⟩⟩

/-- A file of one frame and a header that names more bytes than follow it. The header is cut off, and a
record that is appended afterwards is read behind the first. -/
theorem replay_of_any_file_of_overlong_header :
    let first : Record := .dropDatabase "a"
    let second : Record := .dropDatabase "b"
    let tail := Frame.word 4294967295 ++ Frame.word 0 ++ [123, 125]
    let disk : Disk := { file := some (frames [first] ++ tail) }
    let j : Journal := ⟨"journal.emj", false⟩
    second.Readable ∧
    ∃ d offset j' d', j.replay disk = (.ok [first], d) ∧ d.bytes = frames [first] ∧
      j.append second d = (.ok offset, j', d') ∧ j'.replay d' = (.ok [first, second], d') := by
  intro first second tail disk j
  have hfirst : Intact (frames [first]) [first] := by
    refine intact_frames (List.forall_mem_singleton.mpr ?_) (List.forall_mem_singleton.mpr ?_)
    · exact Record.fits_of_length_chars (by decide)
    · exact first.readable_iff.mpr rfl
  have hsecond : second.Fits ∧ second.Readable :=
    ⟨Record.fits_of_length_chars (by decide), second.readable_iff.mpr rfl⟩
  have htorn : Frame.split tail = .torn := by decide
  have hbytes : disk.bytes = frames [first] ++ tail := rfl
  have hreplay := replay_of_torn j hbytes hfirst htorn
  rw [if_neg (by decide)] at hreplay
  have hwrite : (disk.withBytes (frames [first])).failsAfter
      (disk.withBytes (frames [first])).writes = none := rfl
  have happend := append_of_fits j hsecond.1 hwrite
  rcases replay_of_any_file j disk with ⟨e, _, _, _, herror, -⟩ | ⟨rs, d, _, hok, -, -, -, -, hnext⟩
  · rw [hreplay] at herror
    cases herror
  · obtain ⟨hrecords, rfl⟩ := Prod.mk.inj (hok.symm.trans hreplay)
    obtain rfl := Except.ok.inj hrecords
    exact ⟨hsecond.2, _, _, _, _, hreplay, rfl, happend, hnext _ _ _ _ hsecond.2 happend⟩

end Journal

end DocStore
