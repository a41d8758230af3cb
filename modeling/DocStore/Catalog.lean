import DocStore.Journal.Record
import DocStore.SortedMap

/-!
# DocStore — the catalog

The catalog holds the documents of all collections of all databases. A collection keeps its
documents in the order in which they were inserted, and beside them the texts of their `_id`s, which
are taken. Databases and collections are there from the first insert on; a database goes with its
last collection. `Catalog.apply` makes the change that a journal record describes.
-/

namespace DocStore

/-- The documents of a collection, and the texts of the `_id`s that are taken. -/
structure Collection where
  documents : List Document
  ids : List String

namespace Collection

def empty : Collection := ⟨[], []⟩

/-- The taken texts with those of one more document. -/
def take (ids : List String) (d : Document) : List String :=
  match d.idKey? with
  | some key => ids.insert key
  | none => ids

/-- The collection with documents at its end. -/
def append (c : Collection) (ds : List Document) : Collection :=
  ⟨c.documents ++ ds, ds.foldl take c.ids⟩

end Collection

/-- The collections of a database, by name. -/
abbrev Database := SortedMap Collection

/-- The databases, by name. -/
structure Catalog where
  databases : SortedMap Database

namespace Catalog

/-- The catalog without databases. -/
def empty : Catalog := ⟨.empty⟩

instance : Inhabited Catalog := ⟨empty⟩

/-- A database. -/
def database? (c : Catalog) (db : String) : Option Database := c.databases.find? db

/-- A collection. -/
def collection? (c : Catalog) (db coll : String) : Option Collection :=
  match c.database? db with
  | some collections => collections.find? coll
  | none => none

/-- The documents of a collection; of one that is not there, none. -/
def documents (c : Catalog) (db coll : String) : List Document :=
  match c.collection? db coll with
  | some collection => collection.documents
  | none => []

/-- The `_id` texts that are taken in a collection. -/
def takenIds (c : Catalog) (db coll : String) : List String :=
  match c.collection? db coll with
  | some collection => collection.ids
  | none => []

/-- The names of the databases, in order. -/
def databaseNames (c : Catalog) : List String := c.databases.names

/-- The names of the collections of a database, in order. -/
def collectionNames (c : Catalog) (db : String) : List String :=
  match c.database? db with
  | some collections => collections.names
  | none => []

/-! ## Changes -/

/-- Put documents at the end of a collection, which is made if it is not there. -/
def insert (c : Catalog) (db coll : String) (ds : List Document) : Catalog :=
  let collections := (c.database? db).getD .empty
  let collection := (collections.find? coll).getD .empty
  ⟨c.databases.put db (collections.put coll (collection.append ds))⟩

/-- Drop a collection, and its database with the last one. -/
def dropCollection (c : Catalog) (db coll : String) : Catalog :=
  match c.database? db with
  | some collections =>
    let left := collections.erase coll
    ⟨if left.isEmpty then c.databases.erase db else c.databases.put db left⟩
  | none => c

/-- Drop a database. -/
def dropDatabase (c : Catalog) (db : String) : Catalog := ⟨c.databases.erase db⟩

/-- Make the change that a record describes. What is inserted has to be documents. -/
def apply (c : Catalog) : Record → Except EngineError Catalog
  | .insert db coll values => do
    let ds ← Document.ofValues values
    .ok (c.insert db coll ds)
  | .dropCollection db coll => .ok (c.dropCollection db coll)
  | .dropDatabase db => .ok (c.dropDatabase db)

/-- Make the changes of records, one after the other. -/
def applyAll : Catalog → List Record → Except EngineError Catalog
  | c, [] => .ok c
  | c, r :: rs =>
    match c.apply r with
    | .ok c => applyAll c rs
    | .error e => .error e

/-! ## What is found after a change -/

theorem database?_insert (c : Catalog) (db coll : String) (ds : List Document) (db' : String) :
    (c.insert db coll ds).database? db' =
      if db' = db then
        let collections := (c.database? db).getD .empty
        some (collections.put coll (((collections.find? coll).getD .empty).append ds))
      else c.database? db' :=
  SortedMap.find?_put c.databases db db' _

/-- An insert puts the documents at the end of their collection, and all others stay. -/
theorem collection?_insert (c : Catalog) (db coll : String) (ds : List Document)
    (db' coll' : String) :
    (c.insert db coll ds).collection? db' coll' =
      if db' = db ∧ coll' = coll then some (((c.collection? db coll).getD .empty).append ds)
      else c.collection? db' coll' := by
  unfold collection?
  rw [database?_insert]
  by_cases hdb : db' = db
  · subst hdb
    simp only [true_and, if_true]
    rw [SortedMap.find?_put]
    by_cases hcoll : coll' = coll
    · simp only [hcoll, if_true]
      cases c.database? db' <;> rfl
    · simp only [hcoll, if_false]
      cases c.database? db' <;> rfl
  · simp [hdb]

theorem documents_insert (c : Catalog) (db coll : String) (ds : List Document) :
    (c.insert db coll ds).documents db coll = c.documents db coll ++ ds := by
  unfold documents
  rw [collection?_insert, if_pos ⟨rfl, rfl⟩]
  cases c.collection? db coll <;> rfl

/-- A dropped collection is taken out of its database, which goes with its last one. -/
theorem database?_dropCollection {c : Catalog} {db : String} {collections : Database}
    (h : c.database? db = some collections) (coll other : String) :
    (c.dropCollection db coll).database? other =
      if other = db then
        if (collections.erase coll).isEmpty then none else some (collections.erase coll)
      else c.database? other := by
  unfold dropCollection database?
  rw [show c.databases.find? db = some collections from h]
  simp only
  by_cases hempty : (collections.erase coll).isEmpty = true
  · simp only [if_pos hempty, SortedMap.find?_erase]
  · simp only [if_neg hempty, SortedMap.find?_put]

theorem dropCollection_of_none {c : Catalog} {db : String} (h : c.database? db = none)
    (coll : String) : c.dropCollection db coll = c := by
  unfold dropCollection
  rw [h]

/-- A dropped collection is gone, and all others stay. -/
theorem collection?_dropCollection (c : Catalog) (db coll db' coll' : String) :
    (c.dropCollection db coll).collection? db' coll' =
      if db' = db ∧ coll' = coll then none else c.collection? db' coll' := by
  cases hfound : c.database? db with
  | none =>
    rw [dropCollection_of_none hfound]
    by_cases h : db' = db ∧ coll' = coll
    · rw [if_pos h, h.1]
      unfold collection?
      rw [hfound]
    · rw [if_neg h]
  | some collections =>
    by_cases hdb : db' = db
    · subst hdb
      have hleft : (c.dropCollection db' coll).collection? db' coll'
          = (collections.erase coll).find? coll' := by
        unfold collection?
        rw [database?_dropCollection hfound, if_pos rfl]
        by_cases hempty : (collections.erase coll).isEmpty = true
        · -- a database without collections is one that is not there
          have hentries : (collections.erase coll).entries = [] := List.isEmpty_iff.mp hempty
          rw [if_pos hempty]
          unfold SortedMap.find?
          rw [hentries]
          rfl
        · rw [if_neg hempty]
      rw [hleft, SortedMap.find?_erase]
      unfold collection?
      rw [hfound]
      simp
    · unfold collection?
      rw [database?_dropCollection hfound, if_neg hdb, if_neg (fun h => hdb h.1)]

/-- With a database all its collections are gone. -/
theorem collection?_dropDatabase (c : Catalog) (db db' coll : String) :
    (c.dropDatabase db).collection? db' coll = if db' = db then none else c.collection? db' coll := by
  unfold collection? database? dropDatabase
  rw [SortedMap.find?_erase]
  by_cases hdb : db' = db <;> simp [hdb]

end Catalog

end DocStore
