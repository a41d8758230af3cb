import DocStore.Proofs.Journal.Appends
import DocStore.Proofs.Journal.Remainder
import DocStore.Store

/-!
# DocStore — a damaged byte

One byte of a journal's file is another one, in the checksum of a frame or in its payload. A replay
finds that out and gives no records, so the store does not open, and nobody sees what the damage has
made of a document.

* **`Frame.split_modify_encode`** — the damaged frame is known as such, wherever the byte is.
* **`Journal.replay_of_damage`** — the replay comes to the damaged frame, unless it comes to a payload
  before it that it cannot read. Its error is `Journal.damage`.
* **`damaged_byte_is_detected`** — the main statement, for the file that any run of appends leaves.
-/

namespace DocStore

/-! ## §1 — a damaged frame -/

section Modify

variable {α : Type} (front back : List α) (f : α → α)

theorem modify_append_length_add (i : Nat) :
    (front ++ back).modify (front.length + i) f = front ++ back.modify i f := by
  rw [List.modify_eq_take_drop, List.modify_eq_take_drop, List.take_length_add_append,
    List.drop_length_add_append, List.append_assoc]

theorem modify_append_of_lt {i : Nat} (h : i < front.length) :
    (front ++ back).modify i f = front.modify i f ++ back := by
  have hle : i ≤ front.length := Nat.le_of_lt h
  rw [List.modify_eq_take_drop, List.modify_eq_take_drop, List.take_append_of_le_length hle,
    List.drop_append_of_le_length hle, List.drop_eq_getElem_cons h, List.append_assoc]
  rfl

end Modify

namespace Frame

variable {payload : List UInt8} {mask : UInt8}

/-- Any four bytes are a word. -/
theorem exists_word {bytes : List UInt8} (h : bytes.length = 4) :
    ∃ n, n < 2 ^ 32 ∧ bytes = word n := by
  match bytes, h with
  | [a, b, c, d], _ => exact ⟨_, ofWord_lt a b c d, (word_ofWord a b c d).symm⟩

theorem modify_xor_ne {bytes : List UInt8} {i : Nat} (hi : i < bytes.length) (hmask : mask ≠ 0) :
    bytes.modify i (· ^^^ mask) ≠ bytes := by
  intro h
  have hget : (bytes.modify i (· ^^^ mask))[i]? = bytes[i]? := by rw [h]
  rw [List.getElem?_modify_eq, List.getElem?_eq_getElem hi] at hget
  exact Checksum.xor_mask_ne hmask (Option.some.inj hget)

/-- **A frame is damaged** by a change of any one byte behind its length. -/
theorem split_modify_encode (hfits : payload.length < 2 ^ 32) {i : Nat} (hi : 4 ≤ i)
    (hlen : i < (encode payload).length) (hmask : mask ≠ 0) (rest : List UInt8) :
    split ((encode payload).modify i (· ^^^ mask) ++ rest) = .damaged := by
  rw [length_encode, headerLength] at hlen
  obtain ⟨k, rfl⟩ := Nat.exists_eq_add_of_le hi
  rw [encode, List.append_assoc, show 4 + k = (word payload.length).length + k from rfl,
    modify_append_length_add]
  rcases Nat.lt_or_ge k 4 with hsum | hpayload
  · -- the header names another checksum than that of the payload
    have hk : k < (word (checksum payload).toNat).length := hsum
    obtain ⟨sum, hlt, hword⟩ :=
      exists_word ((List.length_modify (· ^^^ mask) (word (checksum payload).toNat) k).trans rfl)
    have hother : (checksum payload).toNat ≠ sum := by
      rintro rfl
      exact modify_xor_ne hk hmask hword
    rw [modify_append_of_lt _ _ _ hk, hword, ← List.append_assoc, List.append_assoc,
      split_header hfits hlt]
    simp [hother]
  · -- the payload has another checksum than the header names
    obtain ⟨m, rfl⟩ := Nat.exists_eq_add_of_le hpayload
    have hother : (checksum (payload.modify m (· ^^^ mask))).toNat ≠ (checksum payload).toNat :=
      fun h => Checksum.checksum_modify_ne (by omega) hmask (UInt32.toNat_inj.mp h)
    have htake : (payload.modify m (· ^^^ mask) ++ rest).take payload.length =
        payload.modify m (· ^^^ mask) := List.take_left' (List.length_modify _ _ _)
    rw [show 4 + m = (word (checksum payload).toNat).length + m from rfl, modify_append_length_add,
      ← List.append_assoc, List.append_assoc, split_header hfits (UInt32.toNat_lt _), htake]
    simp [hother]

end Frame

/-! ## §2 — a damaged file -/

namespace Journal

/-- The error of a replay that comes to a damaged frame behind those of records: the damage, with the
place where its frame begins, unless one of the records cannot be read. -/
def damage (path : String) (offset : Nat) (before : List Record) : EngineError :=
  if ∀ r ∈ before, (Record.ofPayload? r.payload).isSome then .corruption offset path
  else .serialization

theorem frames_modify (before after : List Record) {r : Record} {i : Nat} (h : i < r.frame.length)
    (f : UInt8 → UInt8) :
    (frames (before ++ r :: after)).modify ((frames before).length + i) f =
      frames before ++ (r.frame.modify i f ++ frames after) := by
  rw [frames_append, frames_cons, modify_append_length_add, modify_append_of_lt _ _ _ h]

/-- **A damaged frame fails the replay.** Induction on the records before it, of which the frames that
can be read are gone through. -/
theorem replay_of_damage (j : Journal) {disk : Disk} {bytes rest : List UInt8}
    {held before : List Record} (hbytes : disk.bytes = bytes ++ frames before ++ rest)
    (h : Intact bytes held) (hfits : ∀ r ∈ before, r.Fits) (hrest : Frame.split rest = .damaged) :
    j.replay disk = (.error (damage j.path (bytes ++ frames before).length before), disk) := by
  induction before generalizing bytes held with
  | nil =>
    rw [frames_nil, List.append_nil] at hbytes ⊢
    exact replay_of_damaged j hbytes h hrest
  | cons r before ih =>
    obtain ⟨hfit, hfits⟩ := List.forall_mem_cons.mp hfits
    have hsplit : Frame.split (r.frame ++ (frames before ++ rest)) =
        .frame r.payload (frames before ++ rest) := Frame.split_encode_append _ _ hfit
    cases hread : Record.ofPayload? r.payload with
    | none =>
      have hunread : damage j.path (bytes ++ frames (r :: before)).length (r :: before) =
          .serialization := by
        simp [damage, hread]
      rw [hunread]
      refine replay_of_unread j ?_ h hsplit hread
      simpa using hbytes
    | some r' =>
      have hframe : Intact (bytes ++ r.frame) (held ++ [r']) := h.concat hfit hread
      have hdamage : damage j.path (bytes ++ frames (r :: before)).length (r :: before) =
          damage j.path (bytes ++ r.frame ++ frames before).length before := by
        simp [damage, hread]
      rw [hdamage]
      exact ih (by simpa using hbytes) hframe hfits

end Journal

/-! ## §3 — the store -/

open Polynomial Checksum

/-- A store does not open on a journal that cannot be replayed. -/
theorem Store.open_of_replay_error {options : Options} {path : String} {host : Host}
    {e : EngineError} (hpath : options.journalPath? = some path)
    (hreplay : ∀ (j : Journal) (d : Disk), j.path = path → d.bytes = host.disk.bytes →
      j.replay d = (.error e, d)) :
    ∃ e' host', Store.open options host = .error (e', host') ∧
      host'.disk.bytes = host.disk.bytes ∧ (host.disk.reachable = true → e' = e) := by
  unfold Store.open Journal.open
  rw [hpath]
  by_cases hreachable : host.disk.reachable = true
  · simp only [hreachable, if_true,
      hreplay ⟨path, false⟩ (host.disk.withBytes host.disk.bytes) rfl rfl]
    exact ⟨e, _, rfl, rfl, fun _ => rfl⟩
  · simp only [hreachable, Bool.false_eq_true, if_false]
    exact ⟨.io, _, rfl, rfl, fun h => h.elim⟩

/-- **A damaged byte is detected.** Take a file of whole frames, any appends behind them, and one of the
records that were answered with a place. Change one byte of its frame, of the checksum or of the
payload. A replay of that file fails and leaves it alone; its error is the damage at that place, unless a
record that was appended before cannot be read. No store opens on the file. The checksum is that of
CRC-32, a remainder by its generator. -/
theorem damaged_byte_is_detected {s s' : Journal.Session} {held rs : List Record}
    {answers : List (Record × Except EngineError Nat)} (h : Journal.Intact s.disk.bytes held)
    (hrun : s.appendAll rs = (answers, s')) {before after : List (Record × Nat)} {r : Record}
    {offset : Nat} (hr : Journal.Session.appended answers = before ++ (r, offset) :: after) {i : Nat}
    (hi : 4 ≤ i) (hlen : i < r.frame.length) {mask : UInt8} (hmask : mask ≠ 0) {host : Host}
    (hhost : host.disk.bytes = s'.disk.bytes.modify (offset + i) (· ^^^ mask)) :
    (∀ j : Journal, j.replay host.disk =
      (.error (Journal.damage j.path offset (before.map Prod.fst)), host.disk)) ∧
    (∀ (options : Options) (path : String), options.journalPath? = some path →
      ∃ e host', Store.open options host = .error (e, host') ∧
        host'.disk.bytes = host.disk.bytes ∧
        (host.disk.reachable = true → e = Journal.damage path offset (before.map Prod.fst))) ∧
    ∀ bytes : List UInt8,
      polynomial (bits 32 (checksum bytes ^^^ 0xFFFFFFFF).toNat) =
        (X ^ 32 * polynomial (message bytes) +
          X ^ (8 * bytes.length) * polynomial (List.replicate 32 true)) %ₘ generator := by
  obtain rfl : (s.appendAll rs).1 = answers := congrArg Prod.fst hrun
  obtain rfl : (s.appendAll rs).2 = s' := congrArg Prod.snd hrun
  have hplace := Journal.Session.offset_of_appended hr
  have hallFit : ∀ p ∈ before ++ (r, offset) :: after, p.1.Fits := fun p hp =>
    Journal.Session.fits_of_mem_appended (hr ▸ hp)
  have hfits : ∀ x ∈ before.map Prod.fst, x.Fits := by
    intro x hx
    obtain ⟨p, hp, rfl⟩ := List.mem_map.mp hx
    exact hallFit p (List.mem_append_left _ hp)
  have hfit : r.Fits := hallFit (r, offset) (List.mem_append_right _ List.mem_cons_self)
  have hall := Journal.Session.bytes_appendAll s rs
  rw [hr, List.map_append, List.map_cons] at hall
  -- the file is what comes before the frame, the frame with its damage, and what comes after
  rw [hall, hplace, List.length_append, Nat.add_assoc, modify_append_length_add,
    Journal.frames_modify _ _ hlen, ← List.append_assoc] at hhost
  have hdamaged := Frame.split_modify_encode hfit hi hlen hmask
    (Journal.frames (after.map Prod.fst))
  have hreplay : ∀ (j : Journal) (d : Disk), d.bytes = host.disk.bytes →
      j.replay d = (.error (Journal.damage j.path offset (before.map Prod.fst)), d) := by
    intro j d hd
    rw [hplace]
    exact Journal.replay_of_damage j (hd.trans hhost) h hfits hdamaged
  refine ⟨fun j => hreplay j host.disk rfl, fun options path hpath => ?_,
    Checksum.remainder_checksum⟩
  refine Store.open_of_replay_error hpath fun j d hj hd => ?_
  rw [hreplay j d hd, hj]

/-- Two records are appended to an empty file, and a bit of the second one's payload is turned. -/
theorem damaged_byte_is_detected_of_two :
    let first : Record := .dropDatabase "a"
    let second : Record := .dropDatabase "b"
    let s : Journal.Session := ⟨⟨"db/journal.emj", false⟩, {}⟩
    let place := first.frame.length
    ∃ answers s', s.appendAll [first, second] = (answers, s') ∧
      Journal.Session.appended answers = [(first, 0), (second, place)] ∧
      10 < second.frame.length ∧
      ∃ host : Host, host.disk.bytes = s'.disk.bytes.modify (place + 10) (· ^^^ 1) ∧
        (∀ j : Journal, j.replay host.disk = (.error (.corruption place j.path), host.disk)) ∧
        ∃ e host', Store.open { dbpath := some "db" } host = .error (e, host') ∧
          e = .corruption place "db/journal.emj" ∧ host'.disk.bytes = host.disk.bytes := by
  intro first second s place
  have hfirst : first.Fits ∧ first.Readable :=
    ⟨Record.fits_of_length_chars (by decide), first.readable_iff.mpr rfl⟩
  have hsecond : second.Fits := Record.fits_of_length_chars (by decide)
  have hlength : 10 < second.frame.length := by
    have hle := second.length_chars_le
    have hchars : second.toValue.chars.length = 30 := by decide
    rw [Journal.length_frame]
    omega
  have hanswers : Journal.Session.appended (s.appendAll [first, second]).1 =
      [(first, 0), (second, place)] := by
    rw [Journal.Session.appendAll_cons, s.append_of_fits hfirst.1 rfl,
      Journal.Session.appendAll_cons, Journal.Session.append_of_fits _ hsecond rfl]
    rfl
  rcases hrun : s.appendAll [first, second] with ⟨answers, s'⟩
  rw [hrun] at hanswers
  let host : Host := {
    disk := { file := some (s'.disk.bytes.modify (place + 10) (· ^^^ 1)) }
    ids := fun _ => ""
    showTime := fun _ => "" }
  have hhost : host.disk.bytes = s'.disk.bytes.modify (place + 10) (· ^^^ 1) := rfl
  have hempty : Journal.Intact s.disk.bytes [] := .nil
  obtain ⟨hreplay, hopen, -⟩ := damaged_byte_is_detected hempty hrun
    (show _ = [(first, 0)] ++ (second, place) :: [] from hanswers) (by decide) hlength (by decide) hhost
  have hread : ∀ path,
      Journal.damage path place ([(first, 0)].map Prod.fst) = .corruption place path := by
    intro path
    simp [Journal.damage, show Record.ofPayload? first.payload = some first from hfirst.2]
  simp only [hread] at hreplay hopen
  obtain ⟨e, host', herror, hbytes, he⟩ :=
    hopen { dbpath := some "db" } "db/journal.emj" (by decide)
  exact ⟨answers, s', rfl, hanswers, hlength, host, hhost, hreplay, e, host', herror, he rfl, hbytes⟩

/-! ### Records that nest too deep -/

/-- **A record that cannot be read hides the damage** of the one behind it: the replay fails before it
comes to the damage. -/
theorem Journal.replay_behind_unread (j : Journal) {disk : Disk} {first second : Record}
    (hfirst : first.Fits) (hsecond : second.Fits) (hunread : Record.ofPayload? first.payload = none)
    {i : Nat} (hi : 4 ≤ i) (hlen : i < second.frame.length) {mask : UInt8} (hmask : mask ≠ 0)
    (hbytes : disk.bytes = frames [first] ++ second.frame.modify i (· ^^^ mask)) :
    j.replay disk = (.error .serialization, disk) := by
  have hdamaged := Frame.split_modify_encode hsecond hi hlen hmask []
  have hparts : disk.bytes = [] ++ frames [first] ++ (second.frame.modify i (· ^^^ mask) ++ []) := by
    rw [hbytes, List.nil_append, List.append_nil]
  rw [replay_of_damage j hparts .nil (List.forall_mem_singleton.mpr hfirst) hdamaged]
  simp [damage, hunread]

/-- Empty arrays in one another. -/
def Value.nested : Nat → Value
  | 0 => .array []
  | n + 1 => .array [nested n]

/-- A document that nests too deep is appended, but not read, so the damage of the record behind it is
not told. -/
theorem damage_behind_deep_record :
    let deep : Record := .insert "a" "c" [.object [("_id", .nested 124)]]
    let drop : Record := .dropDatabase "a"
    let s : Journal.Session := ⟨⟨"db/journal.emj", false⟩, {}⟩
    let d : Disk := { file := some (Journal.frames [deep] ++ drop.frame.modify 8 (· ^^^ 1)) }
    ∃ answers s', s.appendAll [deep, drop] = (answers, s') ∧
      (Journal.Session.appended answers).map Prod.fst = [deep, drop] ∧
      s'.disk.bytes = Journal.frames [deep, drop] ∧
      s'.journal.replay d = (.error .serialization, d) ∧
      s'.journal.replay d ≠
        (.error (.corruption (Journal.frames [deep]).length s'.journal.path), d) := by
  intro deep drop s d
  have hdeep : deep.Fits := Record.fits_of_length_chars (by decide +kernel)
  have hdrop : drop.Fits := Record.fits_of_length_chars (by decide)
  have hlength : 8 < drop.frame.length := by
    have hle := drop.length_chars_le
    have hchars : drop.toValue.chars.length = 30 := by decide
    rw [Journal.length_frame]
    omega
  have hunread : Record.ofPayload? deep.payload = none := by
    have hbody : (Json.complete (Json.bodyAt (Json.enoughFuel deep.toValue.chars)
        (Json.greatestDepth - 1) deep.toValue.chars.tail)).isNone = true := by decide +kernel
    rw [Record.ofPayload?_chars, Option.isNone_iff_eq_none.mp hbody]
    rfl
  have hfits : ∀ r ∈ [deep, drop], r.Fits := by simp [hdeep, hdrop]
  have hanswers := Journal.Session.map_fst_appended_of_fits hfits (s := s) fun _ => rfl
  have hbytes := Journal.Session.bytes_appendAll s [deep, drop]
  rcases hrun : s.appendAll [deep, drop] with ⟨answers, s'⟩
  rw [hrun] at hanswers hbytes
  rw [hanswers, show s.disk.bytes = [] from rfl, List.nil_append] at hbytes
  have hd : d.bytes = Journal.frames [deep] ++ drop.frame.modify 8 (· ^^^ 1) := rfl
  have hreplay := Journal.replay_behind_unread s'.journal hdeep hdrop hunread (by decide) hlength
    (by decide) hd
  refine ⟨answers, s', rfl, hanswers, hbytes, hreplay, ?_⟩
  rw [hreplay]
  simp

end DocStore
