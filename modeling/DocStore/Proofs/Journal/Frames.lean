import DocStore.Journal.Basic

/-!
# DocStore — the frames of a journal, and a file that is cut

A journal's file is the frames of its records, one after the other (`Journal.frames`). This module
holds what reading them back needs to know of the bytes:

* **`Frame.split_header`** — what the eight bytes of a header decide, whatever they are.
* **`Frame.split_encode_append`**, **`Frame.eq_of_split_eq_frame`** — a frame that is whole is taken
  off the front, whatever follows, and nothing but a whole frame is.
* **`Frame.split_take_encode`** — a frame that is cut anywhere, inside its header or inside its
  payload, is no frame: it is torn.
* **`Journal.within`** — the records whose frames lie wholly inside the first bytes of a file, with
  `Journal.take_frames`: a file that is cut is the frames of these records and a torn rest.
* **`Journal.Intact`** — whole frames of any writer, with the records that they are read as. Reading
  goes through them (`Journal.scan_intact_append`), and every file begins with as many of them as can
  be read (`Journal.exists_intact`).

The one assumption is about the payloads: a record is `Record.Readable` if reading its payload gives
the record. It is made for the records that a file holds, never for all records, because a text that
nests too deep is written but not read.
-/

namespace DocStore

/-! ## §1 — words and single frames -/

namespace Frame

/-- Four bytes hold every number below `2 ^ 32`. -/
theorem ofWord_word (n : Nat) (h : n < 2 ^ 32) :
    ofWord (UInt8.ofNat n) (UInt8.ofNat (n / 256)) (UInt8.ofNat (n / 65536))
      (UInt8.ofNat (n / 16777216)) = n := by
  unfold ofWord
  simp only [UInt8.toNat_ofNat']
  omega

/-- Four bytes are the word of the number that they stand for. -/
theorem word_ofWord (a b c d : UInt8) : word (ofWord a b c d) = [a, b, c, d] := by
  have ha := a.toNat_lt
  have hb := b.toNat_lt
  have hc := c.toNat_lt
  have hd := d.toNat_lt
  unfold word ofWord
  simp only [List.cons.injEq, ← UInt8.toNat_inj, UInt8.toNat_ofNat', and_true]
  omega

theorem ofWord_lt (a b c d : UInt8) : ofWord a b c d < 2 ^ 32 := by
  have ha := a.toNat_lt
  have hb := b.toNat_lt
  have hc := c.toNat_lt
  have hd := d.toNat_lt
  unfold ofWord
  omega

@[simp] theorem length_encode (payload : List UInt8) :
    (encode payload).length = headerLength + payload.length := by
  simp only [encode, word, List.length_append, List.length_cons, List.length_nil, headerLength]

/-- **What a header decides**: `n` bytes have to be behind it, and `sum` has to be their checksum. -/
theorem split_header {n sum : Nat} (hn : n < 2 ^ 32) (hsum : sum < 2 ^ 32) (behind : List UInt8) :
    split (word n ++ word sum ++ behind) =
      if behind.length < n then .torn
      else if (checksum (behind.take n)).toNat ≠ sum then .damaged
      else .frame (behind.take n) (behind.drop n) := by
  simp only [word, List.cons_append, List.nil_append, split]
  rw [ofWord_word n hn, ofWord_word sum hsum]

/-- Fewer bytes than a header are torn. -/
theorem split_of_length_lt {bytes : List UInt8} (h : bytes.length < headerLength) :
    split bytes = .torn := by
  unfold split
  split
  · simp only [List.length_cons, headerLength] at h
    omega
  · rfl

/-- Eight bytes or more begin with a header. -/
theorem exists_header {bytes : List UInt8} (h : headerLength ≤ bytes.length) :
    ∃ n sum behind, n < 2 ^ 32 ∧ sum < 2 ^ 32 ∧ bytes = word n ++ word sum ++ behind := by
  match bytes, h with
  | a :: b :: c :: d :: e :: f :: g :: i :: behind, _ =>
    refine ⟨_, _, behind, ofWord_lt a b c d, ofWord_lt e f g i, ?_⟩
    rw [word_ofWord, word_ofWord]
    rfl

/-- **What is taken off the front is a frame**, and the bytes are that frame and the rest. -/
theorem eq_of_split_eq_frame {bytes payload rest : List UInt8}
    (h : split bytes = .frame payload rest) :
    bytes = encode payload ++ rest ∧ payload.length < 2 ^ 32 := by
  rcases Nat.lt_or_ge bytes.length headerLength with hshort | hlong
  · rw [split_of_length_lt hshort] at h
    cases h
  obtain ⟨n, sum, behind, hn, hsum, rfl⟩ := exists_header hlong
  rw [split_header hn hsum] at h
  split at h
  · cases h
  split at h
  · cases h
  next hlen hchecksum =>
  obtain ⟨rfl, rfl⟩ := Split.frame.inj h
  have hlength : (behind.take n).length = n := List.length_take_of_le (Nat.le_of_not_lt hlen)
  refine ⟨?_, hlength.symm ▸ hn⟩
  unfold encode
  rw [hlength, Decidable.not_not.mp hchecksum, List.append_assoc _ _ (behind.drop n),
    List.take_append_drop]

/-- Bytes are torn if they are fewer than a header, or begin with a header that names more bytes than
are behind it. -/
theorem split_eq_torn_iff {bytes : List UInt8} :
    split bytes = .torn ↔ bytes.length < headerLength ∨
      ∃ n sum behind, n < 2 ^ 32 ∧ sum < 2 ^ 32 ∧ bytes = word n ++ word sum ++ behind ∧
        behind.length < n := by
  constructor
  · intro h
    rcases Nat.lt_or_ge bytes.length headerLength with hshort | hlong
    · exact Or.inl hshort
    obtain ⟨n, sum, behind, hn, hsum, rfl⟩ := exists_header hlong
    rw [split_header hn hsum] at h
    split at h
    · next hlen => exact Or.inr ⟨n, sum, behind, hn, hsum, rfl, hlen⟩
    · split at h <;> cases h
  · rintro (hshort | ⟨n, sum, behind, hn, hsum, rfl, hlen⟩)
    · exact split_of_length_lt hshort
    · rw [split_header hn hsum, if_pos hlen]

/-- **A whole frame is taken off the front**, whatever bytes follow it. -/
theorem split_encode_append (payload rest : List UInt8) (h : payload.length < 2 ^ 32) :
    split (encode payload ++ rest) = .frame payload rest := by
  unfold encode
  rw [List.append_assoc, split_header h (UInt32.toNat_lt _)]
  simp

/-- **A frame that is cut is torn**, wherever the cut is. -/
theorem split_take_encode (payload : List UInt8) (n : Nat) (h : payload.length < 2 ^ 32)
    (hn : n < (encode payload).length) : split ((encode payload).take n) = .torn := by
  rw [length_encode] at hn
  rcases Nat.lt_or_ge n headerLength with hshort | hlong
  · -- the cut is inside the header
    apply split_of_length_lt
    rw [List.length_take]
    omega
  · -- the header is whole, and names more bytes than are left of the payload
    obtain ⟨k, rfl⟩ : ∃ k, n = headerLength + k := ⟨n - headerLength, by omega⟩
    have hcut : (encode payload).take (headerLength + k)
        = word payload.length ++ word (checksum payload).toNat ++ payload.take k := by
      simp [encode, word, headerLength, Nat.add_comm]
    rw [hcut, split_header h (UInt32.toNat_lt _), if_pos]
    rw [List.length_take]
    omega

end Frame

/-! ## §2 — records and their frames -/

def Record.frame (r : Record) : List UInt8 := Frame.encode r.payload

/-- A record's payload is short enough for a frame to say its length. -/
def Record.Fits (r : Record) : Prop := r.payload.length < 2 ^ 32

instance (r : Record) : Decidable r.Fits := inferInstanceAs (Decidable (_ < _))

/-- Reading a record's payload gives the record back. -/
def Record.Readable (r : Record) : Prop := Record.ofPayload? r.payload = some r

namespace Journal

/-- The file of a journal that holds these records. -/
def frames (rs : List Record) : List UInt8 := rs.flatMap Record.frame

@[simp] theorem frames_nil : frames [] = [] := rfl

@[simp] theorem frames_cons (r : Record) (rs : List Record) :
    frames (r :: rs) = r.frame ++ frames rs := rfl

@[simp] theorem frames_append (rs ss : List Record) :
    frames (rs ++ ss) = frames rs ++ frames ss := List.flatMap_append

@[simp] theorem length_frame (r : Record) :
    r.frame.length = Frame.headerLength + r.payload.length := Frame.length_encode _

/-- Every record takes some bytes. -/
theorem frames_eq_nil_iff {rs : List Record} : frames rs = [] ↔ rs = [] := by
  cases rs with
  | nil => simp
  | cons r rs =>
    have hlength := length_frame r
    simp only [frames_cons, List.append_eq_nil_iff, reduceCtorEq, iff_false, not_and]
    intro hnil
    rw [hnil, List.length_nil, Frame.headerLength] at hlength
    omega

/-! ## §3 — the records inside the first bytes of a file -/

/-- The records whose frames lie wholly inside the first `n` bytes of the file that holds `rs`. -/
def within : Nat → List Record → List Record
  | _, [] => []
  | n, r :: rs => if r.frame.length ≤ n then r :: within (n - r.frame.length) rs else []

/-- They are the first ones. -/
theorem within_isPrefix (n : Nat) (rs : List Record) : within n rs <+: rs := by
  induction rs generalizing n with
  | nil => exact List.prefix_rfl
  | cons r rs ih =>
    unfold within
    split
    · exact List.cons_prefix_cons.mpr ⟨rfl, ih _⟩
    · exact List.nil_prefix

/-- They are all that lie inside: the frames of the first records take at most `n` bytes exactly if
these records are among them. -/
theorem prefix_within_iff {n : Nat} {ps rs : List Record} (h : ps <+: rs) :
    ps <+: within n rs ↔ (frames ps).length ≤ n := by
  induction rs generalizing n ps with
  | nil =>
    have hnil : ps = [] := List.prefix_nil.mp h
    simp [hnil]
  | cons r rs ih =>
    cases ps with
    | nil => simp
    | cons p ps =>
      obtain ⟨rfl, htail⟩ := List.cons_prefix_cons.mp h
      unfold within
      rw [frames_cons, List.length_append]
      split
      · next hle =>
        -- the first frame is inside, and takes its length from the bytes for the others
        rw [List.cons_prefix_cons, ih htail]
        simp only [true_and]
        omega
      · next hgt =>
        -- the first frame is cut already, so only the empty beginning lies inside
        rw [List.prefix_nil]
        constructor
        · exact fun hcons => absurd hcons (List.cons_ne_nil _ _)
        · intro hle
          omega

/-- A file that is not cut keeps all its records. -/
theorem within_of_length_le {n : Nat} {rs : List Record} (h : (frames rs).length ≤ n) :
    within n rs = rs :=
  (within_isPrefix n rs).eq_of_length_le ((prefix_within_iff List.prefix_rfl).mpr h).length_le

/-- **A file that is cut** holds the frames of the records that lie inside it, and behind them
bytes that make no frame. -/
theorem take_frames (n : Nat) (rs : List Record) (hfits : ∀ r ∈ rs, r.Fits) :
    ∃ rest, (frames rs).take n = frames (within n rs) ++ rest ∧ Frame.split rest = .torn := by
  induction rs generalizing n with
  | nil => exact ⟨[], by simp [within], rfl⟩
  | cons r rs ih =>
    have hr : r.Fits := hfits r List.mem_cons_self
    rw [frames_cons]
    unfold within
    split
    · next hle =>
      obtain ⟨rest, htake, htorn⟩ :=
        ih (n - r.frame.length) fun s hs => hfits s (List.mem_cons_of_mem _ hs)
      refine ⟨rest, ?_, htorn⟩
      rw [List.take_append, List.take_of_length_le hle, htake, frames_cons, List.append_assoc]
    · next hgt =>
      -- the cut lies in the first frame, and all that is left is torn
      have hlt : n < r.frame.length := by omega
      refine ⟨r.frame.take n, ?_, Frame.split_take_encode _ n hr hlt⟩
      rw [List.take_append_of_le_length (by omega), frames_nil, List.nil_append]

/-! ## §4 — whole frames, and reading them back -/

/-- Whole frames, one behind the other, with the records that their payloads are read as. -/
inductive Intact : List UInt8 → List Record → Prop where
  | nil : Intact [] []
  | cons {payload bytes : List UInt8} {r : Record} {rs : List Record}
      (hfits : payload.length < 2 ^ 32) (hread : Record.ofPayload? payload = some r)
      (hrest : Intact bytes rs) : Intact (Frame.encode payload ++ bytes) (r :: rs)

theorem Intact.append {bytes bytes' : List UInt8} {rs rs' : List Record} (h : Intact bytes rs)
    (h' : Intact bytes' rs') : Intact (bytes ++ bytes') (rs ++ rs') := by
  induction h with
  | nil => exact h'
  | cons hfits hread _ ih =>
    rw [List.append_assoc, List.cons_append]
    exact .cons hfits hread ih

/-- One more frame behind the others. -/
theorem Intact.concat {bytes payload : List UInt8} {rs : List Record} {r : Record}
    (h : Intact bytes rs) (hfits : payload.length < 2 ^ 32)
    (hread : Record.ofPayload? payload = some r) :
    Intact (bytes ++ Frame.encode payload) (rs ++ [r]) := by
  have hframe := Intact.cons hfits hread .nil
  rw [List.append_nil] at hframe
  exact h.append hframe

theorem intact_frames {rs : List Record} (hfits : ∀ r ∈ rs, r.Fits)
    (hread : ∀ r ∈ rs, r.Readable) : Intact (frames rs) rs := by
  induction rs with
  | nil => exact .nil
  | cons r rs ih =>
    obtain ⟨hfit, hfits⟩ := List.forall_mem_cons.mp hfits
    obtain ⟨hread₁, hread⟩ := List.forall_mem_cons.mp hread
    exact .cons hfit hread₁ (ih hfits hread)

/-- Every frame takes up at least one byte, so there are no more records than bytes. -/
theorem Intact.length_le {bytes : List UInt8} {rs : List Record} (h : Intact bytes rs) :
    rs.length ≤ bytes.length := by
  induction h with
  | nil => exact Nat.le_refl _
  | cons _ _ _ ih =>
    rw [List.length_cons, List.length_append, Frame.length_encode, Frame.headerLength]
    omega

/-- A frame that can be read is one unit of fuel and one record. -/
theorem scan_frame (path : String) {payload : List UInt8} {r : Record}
    (hfits : payload.length < 2 ^ 32) (hread : Record.ofPayload? payload = some r)
    (rest : List UInt8) (fuel offset : Nat) :
    scan path (fuel + 1) offset (Frame.encode payload ++ rest) =
      (scan path fuel (offset + (Frame.encode payload).length) rest).map fun (rs, kept) =>
        (r :: rs, (Frame.encode payload).length + kept) := by
  simp only [scan, Frame.split_encode_append _ _ hfits, Frame.length_encode, hread]
  cases scan path fuel (offset + (Frame.headerLength + payload.length)) rest <;> rfl

/-- **Reading goes through whole frames**: it gives their records and goes on behind them, with one
unit of fuel less for each. -/
theorem scan_intact_append (path : String) {bytes : List UInt8} {rs : List Record}
    (h : Intact bytes rs) (rest : List UInt8) (fuel offset : Nat) :
    scan path (rs.length + fuel) offset (bytes ++ rest) =
      (scan path fuel (offset + bytes.length) rest).map fun (more, kept) =>
        (rs ++ more, bytes.length + kept) := by
  induction h generalizing offset with
  | nil =>
    rw [List.length_nil, Nat.zero_add, List.nil_append, List.length_nil, Nat.add_zero]
    cases scan path fuel offset rest with
    | error e => rfl
    | ok found => simp [Except.map]
  | @cons payload bytes r rs hfits hread _ ih =>
    have hfuel : (r :: rs).length + fuel = rs.length + fuel + 1 := by
      rw [List.length_cons]
      omega
    rw [hfuel, List.append_assoc, scan_frame path hfits hread, ih, List.length_append, Nat.add_assoc]
    cases scan path fuel (offset + ((Frame.encode payload).length + bytes.length)) rest with
    | error e => rfl
    | ok found => simp [Except.map, Nat.add_assoc]

/-- The fuel for a file is a unit for every byte, and a frame takes more than one byte, so behind whole
frames there is some left. -/
theorem scan_file (path : String) {bytes : List UInt8} {rs : List Record} (h : Intact bytes rs)
    (rest : List UInt8) :
    ∃ fuel, scan path ((bytes ++ rest).length + 1) 0 (bytes ++ rest) =
      (scan path (fuel + 1) bytes.length rest).map fun (more, kept) =>
        (rs ++ more, bytes.length + kept) := by
  have hle := h.length_le
  obtain ⟨fuel, hfuel⟩ : ∃ fuel, (bytes ++ rest).length + 1 = rs.length + (fuel + 1) := by
    rw [List.length_append]
    exact ⟨bytes.length + rest.length - rs.length, by omega⟩
  refine ⟨fuel, ?_⟩
  rw [hfuel, scan_intact_append path h, Nat.zero_add]

/-- **Every file begins with whole frames**, behind which there is no frame that can be read. -/
theorem exists_intact (bytes : List UInt8) :
    ∃ front rs rest, bytes = front ++ rest ∧ Intact front rs ∧
      ∀ payload behind, Frame.split rest = .frame payload behind →
        Record.ofPayload? payload = none := by
  match hsplit : Frame.split bytes with
  | .torn => exact ⟨[], [], bytes, rfl, .nil, fun _ _ h => by rw [hsplit] at h; cases h⟩
  | .damaged => exact ⟨[], [], bytes, rfl, .nil, fun _ _ h => by rw [hsplit] at h; cases h⟩
  | .frame payload behind =>
    cases hread : Record.ofPayload? payload with
    | none =>
      refine ⟨[], [], bytes, rfl, .nil, fun _ _ h => ?_⟩
      rw [hsplit] at h
      obtain ⟨rfl, -⟩ := Frame.Split.frame.inj h
      exact hread
    | some r =>
      obtain ⟨hbytes, hfits⟩ := Frame.eq_of_split_eq_frame hsplit
      -- the induction is on the length, and a frame is not empty
      have hshorter : behind.length < bytes.length := by
        rw [hbytes, List.length_append, Frame.length_encode, Frame.headerLength]
        omega
      obtain ⟨front, rs, rest, rfl, hfront, hrest⟩ := exists_intact behind
      refine ⟨Frame.encode payload ++ front, r :: rs, rest, ?_, .cons hfits hread hfront, hrest⟩
      rw [hbytes, List.append_assoc]
termination_by bytes.length

end Journal

end DocStore
