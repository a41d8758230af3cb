import DocStore.Proofs.Outcome
import DocStore.Proofs.Store.Ids

/-!
# DocStore — taken texts, whatever file a store was opened on

A store may be opened on a file that others have written. What it finds there need not be tidy: documents
without an `_id`, or two with the same one. But the texts that it keeps of a collection are those of the
documents, no more and no less, so an insert is refused for what is stored and for nothing else.

* **`Collection.Told`** — the taken texts are those of the documents.
* **`Catalog.Told.applyAll`** — a catalog made by any records is like that, and stays so under every call
  (**`Store.Call.told_run`**).
-/

namespace DocStore

/-! ## §1 — collections and catalogs -/

namespace Collection

/-- The taken texts are the texts of the documents. -/
def Told (c : Collection) : Prop :=
  ∀ key, key ∈ c.ids ↔ ∃ d ∈ c.documents, d.idKey? = some key

theorem told_empty : empty.Told := by
  intro key
  simp [empty]

theorem mem_take {ids : List String} {d : Document} {key : String} :
    key ∈ take ids d ↔ key ∈ ids ∨ d.idKey? = some key := by
  unfold take
  -- a text that is taken already is not put in twice
  cases hkey : d.idKey? with
  | none => simp
  | some own => simp [List.mem_insert_iff, or_comm, eq_comm]

/-- Induction on the documents that are put at the end. -/
theorem Told.append {c : Collection} (h : c.Told) (ds : List Document) : (c.append ds).Told := by
  induction ds generalizing c with
  | nil =>
    have hsame : c.append [] = c := by simp [Collection.append]
    rwa [hsame]
  | cons d ds ih =>
    -- the first document comes with its own text, the induction takes the others from there
    have hone : Told ⟨c.documents ++ [d], take c.ids d⟩ := by
      intro key
      rw [mem_take, h key]
      simp [or_and_right, exists_or]
    have hsplit : c.append (d :: ds) = Collection.append ⟨c.documents ++ [d], take c.ids d⟩ ds := by
      simp [Collection.append]
    rw [hsplit]
    exact ih hone

end Collection

namespace Catalog

def Told (c : Catalog) : Prop := c.Every Collection.Told

variable {c c' : Catalog}

theorem Told.insert (h : c.Told) (db coll : String) (ds : List Document) :
    (c.insert db coll ds).Told :=
  Every.insert h ((Every.getD h Collection.told_empty db coll).append ds)

/-- **Whatever a record says**, one case for each kind. -/
theorem Told.apply (h : c.Told) {r : Record} (happly : c.apply r = .ok c') : c'.Told := by
  cases r with
  | insert db coll values =>
    obtain ⟨ds, -, happly⟩ := ok_of_bind happly
    rw [← Except.ok.inj happly]
    exact h.insert db coll ds
  | dropCollection db coll =>
    rw [← Except.ok.inj happly]
    exact Every.dropCollection h db coll
  | dropDatabase db =>
    rw [← Except.ok.inj happly]
    exact Every.dropDatabase h db

theorem Told.applyAll (h : c.Told) {rs : List Record} (happly : c.applyAll rs = .ok c') :
    c'.Told := by
  induction rs generalizing c with
  | nil => rwa [← Except.ok.inj happly]
  | cons r rs ih =>
    unfold Catalog.applyAll at happly
    split at happly
    · next hfirst => exact ih (h.apply hfirst) happly
    · cases happly

/-- In an empty collection no text is taken, and in any other those of its documents. -/
theorem Told.mem_takenIds (h : c.Told) {db coll key : String} :
    key ∈ c.takenIds db coll ↔ ∃ d ∈ c.documents db coll, d.idKey? = some key := by
  unfold takenIds documents
  cases hfound : c.collection? db coll with
  | none => simp
  | some collection => exact h db coll collection hfound key

end Catalog

/-! ## §2 — stores -/

/-- A store that is opened has a catalog made by the records of its file, or none. -/
theorem Store.told_of_open {options : Options} {host : Host} {s : Store}
    (h : Store.open options host = .ok s) : s.catalog.Told := by
  rcases Store.open_eq_ok h with ⟨-, rfl⟩ | ⟨path, records, catalog, file, -, happly, rfl⟩
  · exact Catalog.every_empty
  · exact Catalog.Told.applyAll Catalog.every_empty happly

theorem Store.Call.told_run (c : Store.Call) {s : Store} (h : s.catalog.Told) :
    (c.run s).2.catalog.Told := by
  rcases c.catalog_run_cases s with hsame | ⟨r, -, happly⟩
  · rwa [hsame]
  · exact h.apply happly

end DocStore
