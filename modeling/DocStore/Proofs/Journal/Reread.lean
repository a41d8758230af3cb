import DocStore.Proofs.Journal.Payload
import DocStore.Proofs.Json.Reading

/-!
# DocStore — what is read of a written record

A record's payload is read as the record with the values that the texts of its documents are read as
(`Record.reread`), or as nothing. Its change, its database and its collection are strings, and come back.

* **`Record.eq_reread_of_ofPayload?`** — no other record is read.
* **`Record.Settled.faithful`** — a record is faithful, that is read as itself or not at all, if its
  documents are settled.
-/

namespace DocStore

/-! ## §1 — documents -/

namespace Document

/-- The document that the text of a document is read as. -/
def reread (d : Document) : Document := ⟨Fields.ofEntries (Value.rereadFields d.fields)⟩

theorem contains_reread (d : Document) (name : String) : d.reread.contains name = d.contains name := by
  rw [Bool.eq_iff_iff]
  unfold contains reread
  rw [Fields.contains_iff, Fields.contains_iff, Fields.mem_names_ofEntries, Value.names_rereadFields]

theorem reread_of_settled {d : Document} (h : d.toValue.Settled) : d.reread = d := by
  have hvalue : d.reread.toValue = d.toValue := h.reread_eq
  exact congrArg Document.mk (Value.object.inj hvalue)

theorem rereadItems_map_toValue (ds : List Document) :
    Value.rereadItems (ds.map toValue) = (ds.map reread).map toValue := by
  induction ds with
  | nil => rfl
  | cons d ds ih =>
    rw [List.map_cons, List.map_cons, List.map_cons, Value.rereadItems, ih]
    rfl

end Document

/-! ## §2 — records -/

theorem Json.exists_of_complete {α : Type} {found : Option (α × List Char)} {a : α}
    (h : complete found = some a) : ∃ rest, found = some (a, rest) := by
  cases found with
  | none => cases h
  | some pair =>
    obtain ⟨b, rest⟩ := pair
    simp only [complete] at h
    split at h
    · exact ⟨rest, by rw [Option.some.inj h]⟩
    · cases h

namespace Record

/-- The record that the payload of a record is read as. -/
def reread : Record → Record
  | insert db coll documents => insert db coll (Value.rereadItems documents)
  | dropCollection db coll => dropCollection db coll
  | dropDatabase db => dropDatabase db

/-- The entries of a record's object, with what their values are read as, stand for the record. -/
theorem exists_fields_eq (r : Record) : ∃ fs, r.toValue = .object fs ∧
    ofEntries? (Value.rereadFields fs) = some r.reread := by
  cases r <;> exact ⟨_, rfl, rfl⟩

/-- **What is read of a record's payload.** -/
theorem eq_reread_of_ofPayload? {r r' : Record} (h : ofPayload? r.payload = some r') :
    r' = r.reread := by
  obtain ⟨fs, hobject, hfields⟩ := r.exists_fields_eq
  rw [ofPayload?_chars, hobject] at h
  obtain ⟨es, hcomplete, hrecord⟩ := Option.bind_eq_some_iff.mp h
  obtain ⟨rest, hbody⟩ := Json.exists_of_complete hcomplete
  obtain ⟨rfl, -⟩ := Value.eq_reread_of_bodyAt _ hbody
  exact Option.some.inj (hrecord.symm.trans hfields)

/-- The payload of a record is read, as whatever it is read. -/
def Returns (r : Record) : Prop := ofPayload? r.payload = some r.reread

theorem returns_of_ofPayload? {r r' : Record} (h : ofPayload? r.payload = some r') : r.Returns := by
  rwa [eq_reread_of_ofPayload? h] at h

/-- Reading a record's payload gives no other record, if it gives one. -/
def Faithful (r : Record) : Prop := ∀ r', ofPayload? r.payload = some r' → r' = r

/-- The documents of a record are settled. -/
def Settled : Record → Prop
  | insert _ _ documents => Value.ItemsSettled documents
  | _ => True

/-- **A record whose documents are settled** is read as itself, if it is read. -/
theorem Settled.faithful {r : Record} (h : r.Settled) : r.Faithful := by
  intro r' hread
  rw [eq_reread_of_ofPayload? hread]
  cases r with
  | insert db coll documents => exact congrArg (insert db coll) (Value.rereadItems_eq h)
  | dropCollection db coll => rfl
  | dropDatabase db => rfl

end Record

end DocStore
