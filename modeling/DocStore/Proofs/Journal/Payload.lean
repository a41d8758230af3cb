import DocStore.Proofs.Journal.Frames
import DocStore.Proofs.Json.Strings

/-!
# DocStore — payloads and texts

A payload is the bytes of a record's text. Reading it is reading that text
(`Record.ofPayload?_chars`), and it is at least as long as the text has characters
(`Record.length_chars_le`), so a long text makes a record that no frame can hold.
-/

namespace DocStore

/-! ## §1 — byte arrays as lists -/

namespace Bytes

/-- Walking a byte array puts the bytes from an index on behind those that were taken before. -/
theorem toList_loop (b : ByteArray) (i : Nat) (taken : List UInt8) :
    ByteArray.toList.loop b i taken = taken.reverse ++ b.data.toList.drop i := by
  rw [ByteArray.toList.loop.eq_def]
  split
  · next hlt =>
    have hget : b.get! i = b.data.toList.get ⟨i, hlt⟩ := by
      simp [ByteArray.get!, getElem!_pos b.data i hlt]
    -- the loop goes up, so the induction is on the bytes that are left
    rw [toList_loop b (i + 1), List.reverse_cons, List.append_assoc, hget,
      List.drop_eq_getElem_cons (i := i) hlt]
    rfl
  · next hge =>
    have hdrop : b.data.toList.drop i = [] := List.drop_of_length_le (by simpa using hge)
    rw [hdrop, List.append_nil]
termination_by b.size - i

theorem toList_eq (b : ByteArray) : b.toList = b.data.toList := by
  unfold ByteArray.toList
  rw [toList_loop]
  rfl

/-- A text has at least as many bytes as characters. -/
theorem length_le_utf8Encode (cs : List Char) : cs.length ≤ cs.utf8Encode.size := by
  induction cs with
  | nil => simp
  | cons c cs ih =>
    have hfirst : 0 < [c].utf8Encode.size := by
      rw [List.utf8Encode_singleton, List.size_toByteArray]
      exact List.length_pos_iff.mpr String.utf8EncodeChar_ne_nil
    rw [List.utf8Encode_cons, ByteArray.size_append, List.length_cons]
    omega

theorem utf8Encode_le (cs : List Char) : cs.utf8Encode.size ≤ 4 * cs.length := by
  induction cs with
  | nil => simp
  | cons c cs ih =>
    have hfirst : [c].utf8Encode.size ≤ 4 := by
      rw [List.utf8Encode_singleton, List.size_toByteArray, String.length_utf8EncodeChar]
      exact c.utf8Size_le_four
    rw [List.utf8Encode_cons, ByteArray.size_append, List.length_cons]
    omega

end Bytes

/-! ## §2 — the payload of a record -/

namespace Record

theorem payload_eq (r : Record) : r.payload = r.text.toByteArray.data.toList := by
  unfold payload
  rw [Bytes.toList_eq, String.toUTF8_eq_toByteArray]

theorem length_chars_le (r : Record) : r.toValue.chars.length ≤ r.payload.length := by
  have h := Bytes.length_le_utf8Encode r.toValue.chars
  rw [payload_eq]
  unfold text Value.text
  rwa [String.toByteArray_ofList, Array.length_toList]

theorem length_payload_le (r : Record) : r.payload.length ≤ 4 * r.toValue.chars.length := by
  have h := Bytes.utf8Encode_le r.toValue.chars
  rw [payload_eq]
  unfold text Value.text
  rwa [String.toByteArray_ofList, Array.length_toList]

theorem fits_of_length_chars {r : Record} (h : 4 * r.toValue.chars.length < 2 ^ 32) : r.Fits :=
  Nat.lt_of_le_of_lt r.length_payload_le h

/-- A document whose `_id` is a text of `2 ^ 32` characters makes a record that no frame holds. -/
theorem not_fits_of_long_id (db coll : String) {text : String} (h : 2 ^ 32 ≤ text.length) :
    ¬ (insert db coll [.object [("_id", .string text)]]).Fits := by
  have hpayload := length_chars_le (insert db coll [.object [("_id", .string text)]])
  have hquoted := Json.length_le_quoted text
  simp only [toValue, Value.chars, Value.fieldChars, Value.itemChars, List.length_cons,
    List.length_append] at hpayload
  unfold Fits
  omega

/-- Reading a payload is reading its text. -/
theorem ofPayload?_payload (r : Record) : ofPayload? r.payload = ofText? r.text := by
  have hbytes : (⟨r.payload.toArray⟩ : ByteArray) = r.text.toByteArray := by
    rw [payload_eq]
  have hvalid : r.text.toByteArray.IsValidUTF8 := r.text.isValidUTF8
  unfold ofPayload? String.fromUTF8?
  rw [hbytes, dif_pos hvalid]
  rfl

/-- What begins like an object is not read as an array. -/
theorem asArray?_of_brace (cs : List Char) :
    (Value.parse? (String.ofList ('{' :: cs))).bind Value.asArray? = none := by
  have hread : Value.parse? (String.ofList ('{' :: cs)) =
      Json.complete ((Json.bodyAt (Json.enoughFuel cs + 1) (Json.greatestDepth - 1) cs).map
        fun found => (Value.object (Fields.ofEntries found.1), found.2)) := by
    unfold Value.parse?
    rw [String.toList_ofList]
    rfl
  rw [hread]
  cases Json.bodyAt (Json.enoughFuel cs + 1) (Json.greatestDepth - 1) cs with
  | none => rfl
  | some found =>
    simp only [Option.map_some, Json.complete]
    split <;> rfl

/-- The text of a record is that of an object. -/
theorem exists_text_eq (r : Record) : ∃ cs, r.text = String.ofList ('{' :: cs) ∧
    r.toValue.chars = '{' :: cs := by
  cases r <;> exact ⟨_, rfl, rfl⟩

/-- The characters of a payload are those of an object. -/
theorem ofPayload?_chars (r : Record) :
    ofPayload? r.payload = (Json.complete (Json.bodyAt (Json.enoughFuel r.toValue.chars)
      (Json.greatestDepth - 1) r.toValue.chars.tail)).bind ofEntries? := by
  obtain ⟨cs, htext, hchars⟩ := r.exists_text_eq
  have hentries : Json.parseEntries? (String.ofList ('{' :: cs)) =
      Json.complete (Json.bodyAt (Json.enoughFuel ('{' :: cs)) (Json.greatestDepth - 1) cs) := by
    unfold Json.parseEntries?
    rw [String.toList_ofList]
    rfl
  rw [ofPayload?_payload, htext, hchars, List.tail_cons]
  unfold ofText?
  rw [hentries, asArray?_of_brace]
  cases Json.complete (Json.bodyAt (Json.enoughFuel ('{' :: cs)) (Json.greatestDepth - 1) cs) <;> rfl

theorem readable_iff (r : Record) :
    r.Readable ↔ (Json.complete (Json.bodyAt (Json.enoughFuel r.toValue.chars)
      (Json.greatestDepth - 1) r.toValue.chars.tail)).bind ofEntries? = some r := by
  rw [Readable, ofPayload?_chars]

end Record

end DocStore
