import DocStore.Proofs.Json.Values
import DocStore.Proofs.Pipeline.Keys
import DocStore.Proofs.Store.Batches

/-!
# DocStore — a text key stands for one value

Stores tell `_id`s apart by their texts, and `$group` its keys. No two values have one text, so whatever is
said of these texts can be said of the values: an insert is refused for an `_id` that is there already, and
not for another one that is written alike; and the documents of a row have one key, and not just one text.

* **`Batch.firstClash_iff`** — the first text that is taken is that of the first `_id` that is taken.
* **`Grouping.Partitions.separatesKeys`** — rows by the texts of keys are rows by keys.
* **`texts_tell_values_apart`** — the main statement, for all values, stores and groupings.
-/

namespace DocStore

/-! ## §1 — ids -/

theorem Document.idKey?_eq_text_iff {d : Document} {id : Value} :
    d.idKey? = some id.text ↔ d.id? = some id := by
  unfold idKey?
  rw [Option.map_eq_some_iff]
  constructor
  · rintro ⟨own, hid, htext⟩
    rwa [← Value.text_inj htext]
  · exact fun hid => ⟨id, hid, rfl⟩

namespace Batch

/-- A document among these has this `_id`. -/
def IsIdOf (id : Value) (ds : List Document) : Prop := ∃ d ∈ ds, d.id? = some id

/-- No document of a batch has the `_id` of a document before it, be it stored or of the batch. -/
def FreeIds (stored batch : List Document) : Prop :=
  ∀ before d after, batch = before ++ d :: after →
    ∀ id, d.id? = some id → ¬ IsIdOf id (stored ++ before)

/-- The first document of a batch that has the `_id` of a document before it has this one. -/
def FirstSame (stored batch : List Document) (id : Value) : Prop :=
  ∃ before d after, batch = before ++ d :: after ∧ FreeIds stored before ∧
    d.id? = some id ∧ IsIdOf id (stored ++ before)

variable {stored batch ds : List Document} {id : Value} {key : String}

theorem isKeyOf_text_iff : IsKeyOf id.text ds ↔ IsIdOf id ds := by
  simp only [IsKeyOf, IsIdOf, Document.idKey?_eq_text_iff]

/-- A document with a text has an `_id` of this text. -/
theorem exists_id {d : Document} (h : d.idKey? = some key) :
    ∃ id : Value, key = id.text ∧ d.id? = some id := by
  obtain ⟨id, hid, rfl⟩ := Option.map_eq_some_iff.mp h
  exact ⟨id, rfl, hid⟩

theorem free_iff_freeIds : Free stored batch ↔ FreeIds stored batch := by
  constructor
  · intro h before d after hsplit id hid hsame
    exact h before d after hsplit id.text (Document.idKey?_eq_text_iff.mpr hid)
      (isKeyOf_text_iff.mpr hsame)
  · intro h before d after hsplit key hkey hclash
    obtain ⟨id, rfl, hid⟩ := exists_id hkey
    exact h before d after hsplit id hid (isKeyOf_text_iff.mp hclash)

/-- **The first text that is taken** is that of the first `_id` that is taken. -/
theorem firstClash_iff :
    FirstClash stored batch key ↔ ∃ id : Value, key = id.text ∧ FirstSame stored batch id := by
  constructor
  · rintro ⟨before, d, after, hsplit, hfree, hkey, hclash⟩
    obtain ⟨id, rfl, hid⟩ := exists_id hkey
    exact ⟨id, rfl, before, d, after, hsplit, free_iff_freeIds.mp hfree, hid,
      isKeyOf_text_iff.mp hclash⟩
  · rintro ⟨id, rfl, before, d, after, hsplit, hfree, hid, hsame⟩
    exact ⟨before, d, after, hsplit, free_iff_freeIds.mpr hfree,
      Document.idKey?_eq_text_iff.mpr hid, isKeyOf_text_iff.mpr hsame⟩

end Batch

/-! ## §2 — keys of groups -/

namespace Grouping

/-- Rows by keys: no two have the same `_id`, each is made of the documents with this key, and two documents
are in one row if they have one key and not otherwise. -/
structure SeparatesKeys (g : Grouping) (ds out : List Document) : Prop where
  rows : ∃ keys : List Value, keys.Nodup ∧ out.map Document.id? = keys.map some ∧
    List.Forall₂ (fun key row => g.IsRowOf (g.members ds key.text) row) keys out
  members : ∀ d ∈ ds, ∀ key : Value, d ∈ g.members ds key.text ↔ g.key.of d = key
  joined : ∀ d ∈ ds, ∀ d' ∈ ds, g.Joins ds out d d' ↔ g.key.of d = g.key.of d'

theorem keyText_eq_iff {g : Grouping} {d : Document} {key : Value} :
    g.keyText d = key.text ↔ g.key.of d = key :=
  ⟨Value.text_inj, congrArg Value.text⟩

/-- **Rows by the texts of keys are rows by keys.** -/
theorem Partitions.separatesKeys {g : Grouping} {ds out : List Document} (h : g.Partitions ds out) :
    g.SeparatesKeys ds out where
  rows := by
    obtain ⟨keys, hids, htexts⟩ := exists_rowIds h.rows
    have hdistinct : (keys.map Value.text).Nodup := htexts ▸ h.distinct
    have hrows := h.rows
    rw [← htexts, List.forall₂_map_left_iff] at hrows
    exact ⟨keys, hdistinct.of_map, hids, hrows⟩
  members d hd key := by
    rw [mem_members_iff, keyText_eq_iff]
    exact and_iff_right hd
  joined d hd d' hd' := by
    rw [joins_iff h hd hd']
    exact keyText_eq_iff

end Grouping

/-! ## §3 — all keys -/

/-- **Text keys never confuse different values.** Values of one text are one value, whatever they hold, with
the kinds of their numbers and the order of their fields. So an insert, into any store that calls lead to,
reports a duplicate key just for the first `_id` of the batch that is there before, stored or in the batch
itself. And the rows of an accepted `$group` are those of its keys, so that two documents are in one row only
if they have the same key. -/
theorem texts_tell_values_apart :
    (∀ v w : Value, v.text = w.text → v = w) ∧
    (∀ s : Store, s.Reachable → ∀ (db coll : String) (ds : List Document) (key : String),
      (s.insert db coll ds).1 = .error (.duplicateKey (db ++ "." ++ coll) key) ↔
        ∃ id : Value, key = id.text ∧
          Batch.FirstSame (s.scan db coll) (s.host.ensureIds ds).1 id) ∧
    (∀ (spec : Value) (stage : Stage), (∀ fs, spec = .object fs → (Fields.names fs).Nodup) →
      Pipeline.readStage (.object [("$group", spec)]) = .ok stage →
        ∃ fs g, spec = .object fs ∧ Grouping.WrittenAs g fs ∧ stage = .group g ∧
          ∀ ds, g.SeparatesKeys ds (stage.run ds)) := by
  refine ⟨fun v w h => Value.text_inj h, fun s hs db coll ds key => ?_, fun spec stage hnames h => ?_⟩
  · rw [Store.insert_refused_iff, ← Batch.firstClash_iff]
    exact Batch.firstTaken?_eq_some_iff fun key => hs.told.mem_takenIds
  · have hread : (Grouping.read spec).map Stage.group = .ok stage := mapError_eq_ok_iff.mp h
    obtain ⟨g, hg, rfl⟩ := map_eq_ok_iff.mp hread
    obtain ⟨fs, hspec, hwritten⟩ := Grouping.read_eq_ok hg
    have hdistinct := hwritten.nodup_names (hnames fs hspec)
    exact ⟨fs, g, hspec, hwritten, rfl,
      fun ds => (Grouping.partitions_apply hdistinct ds).separatesKeys⟩

/-- The number one as an integer and as a double: two texts, two `_id`s that can be stored together, though
neither twice, and two rows. -/
theorem texts_tell_values_apart_of_one :
    let host : Host := { ids := fun _ => "a", showTime := fun _ => "" }
    let one : Value := .number (.int 1)
    let one' : Value := .number (.double (.ofInt 1))
    let d : Document := ⟨[("_id", one)]⟩
    let d' : Document := ⟨[("_id", one')]⟩
    let g : Grouping := ⟨.path "_id", []⟩
    one.text ≠ one'.text ∧
      (∃ s, Store.open {} host = .ok s ∧
        (∀ key, (s.insert "db" "notes" [d, d']).1 ≠ .error (.duplicateKey "db.notes" key)) ∧
        (s.insert "db" "notes" [d, d]).1 = .error (.duplicateKey "db.notes" "1")) ∧
      ¬ g.Joins [d, d'] (g.apply [d, d']) d d' := by
  intro host one one' d d' g
  obtain ⟨hvalues, hinsert, hgroup⟩ := texts_tell_values_apart
  have hne : one ≠ one' := fun h => nomatch Value.number.inj h
  have hreachable : Store.Reachable (.inMemory host) :=
    .opened (show Store.open {} host = .ok _ from rfl)
  refine ⟨fun htext => hne (hvalues one one' htext), ⟨_, rfl, fun key hrefused => ?_, ?_⟩, ?_⟩
  · obtain ⟨id, -, before, doc, after, hsplit, -, hid, old, hold, hsame⟩ :=
      (hinsert _ hreachable "db" "notes" [d, d'] key).mp hrefused
    -- only the first document is in front of another one
    match before, hsplit with
    | [], _ => cases hold
    | [first], hsplit =>
      obtain ⟨rfl, hrest⟩ := List.cons.inj hsplit
      obtain ⟨rfl, -⟩ := List.cons.inj hrest
      obtain rfl := List.mem_singleton.mp hold
      exact hne (Option.some.inj (hsame.trans hid.symm))
    | _ :: _ :: _, hsplit => simp [host, d, d', Host.ensureIds] at hsplit
  · have hfree : Batch.Free [] [d] :=
      Batch.free_cons.mpr ⟨fun _ _ => by simp [Batch.IsKeyOf], Batch.free_nil⟩
    exact (hinsert _ hreachable "db" "notes" [d, d] "1").mpr ⟨one, rfl, [d], d, [], rfl,
      Batch.free_iff_freeIds.mp hfree, rfl, d, List.mem_cons_self, rfl⟩
  · have hnames : ∀ fs, Value.object [("_id", .string "$_id")] = .object fs →
        (Fields.names fs).Nodup := by
      intro fs hspec
      obtain rfl := Value.object.inj hspec
      decide
    obtain ⟨fs, g', -, -, hstage, hrows⟩ := hgroup _ (.group g) hnames rfl
    obtain rfl := Stage.group.inj hstage
    exact mt ((hrows [d, d']).joined d (by simp) d' (by simp)).mp hne

end DocStore
