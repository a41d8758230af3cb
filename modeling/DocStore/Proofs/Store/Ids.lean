import DocStore.Proofs.Filter.Numbers
import DocStore.Proofs.Store.Recovery

/-!
# DocStore — the `_id`s of a collection

Documents of a collection are told apart by the texts of their `_id`s. No text is there twice, in no
state of a store, whatever is inserted and dropped and however often the store starts again. This is
less than that no two `_id`s are the same for a filter: `1` and `1.0` are the same number in two texts.
Among values that can be written in one way only, such as strings and not too great integers, it is
just that.

* **`Collection.Keyed`** — every document has an `_id`, and the taken texts are theirs, each once.
* **`Store.Call.keyed_apply`** — a change that a call makes keeps this for all collections.
* **`Value.isPlain`** — values that are the same only if they are written in the same way.
* **`ids_differ_in_text`** — the main statement; **`ids_same_in_two_texts`** shows two documents with
  `_id`s that are the same for a filter.
-/

namespace DocStore

/-! ## §1 — the taken texts -/

theorem Document.exists_idKey {d : Document} (h : d.contains "_id" = true) :
    ∃ key, d.idKey? = some key := by
  obtain ⟨id, hid⟩ : ∃ id, d.id? = some id := Option.isSome_iff_exists.mp h
  refine ⟨id.text, ?_⟩
  unfold idKey?
  rw [hid]
  rfl

namespace Collection

/-- Every document has an `_id`, and the taken texts are theirs, the last one first, each once. -/
structure Keyed (c : Collection) : Prop where
  keys : c.documents.map Document.idKey? = c.ids.reverse.map some
  nodup : c.ids.Nodup

theorem keyed_empty : empty.Keyed := ⟨rfl, List.nodup_nil⟩

/-- Documents can be put at the end that have `_id`s of their own. Induction on the documents. -/
theorem Keyed.append {c : Collection} (h : c.Keyed) {ds : List Document}
    (hids : ∀ d ∈ ds, d.contains "_id" = true) (hfree : Store.firstTaken? c.ids ds = none) :
    (c.append ds).Keyed := by
  induction ds generalizing c with
  | nil =>
    have hsame : c.append [] = c := by simp [Collection.append]
    rwa [hsame]
  | cons d ds ih =>
    obtain ⟨key, hkey⟩ := Document.exists_idKey (hids d List.mem_cons_self)
    unfold Store.firstTaken? at hfree
    simp only [hkey] at hfree
    split at hfree
    · cases hfree
    · next hnew =>
      have hnew : key ∉ c.ids := by simpa using hnew
      have htaken : Collection.take c.ids d = key :: c.ids := by
        unfold Collection.take
        rw [hkey]
        exact List.insert_of_not_mem hnew
      have hone : Keyed ⟨c.documents ++ [d], key :: c.ids⟩ := by
        refine ⟨?_, List.nodup_cons.mpr ⟨hnew, h.nodup⟩⟩
        simp [h.keys, hkey]
      have hsplit : c.append (d :: ds) = Collection.append ⟨c.documents ++ [d], key :: c.ids⟩ ds := by
        simp [Collection.append, htaken]
      rw [hsplit]
      exact ih hone (fun d' hd' => hids d' (List.mem_cons_of_mem d hd')) hfree

end Collection

namespace Host

theorem contains_ensureId (h : Host) (d : Document) : (h.ensureId d).1.contains "_id" = true := by
  unfold ensureId
  split
  · assumption
  · next hnone =>
    show (Document.withId (h.drawId).1 d).contains "_id" = true
    unfold Document.withId
    rw [if_neg hnone]
    rfl

theorem contains_ensureIds (h : Host) (ds : List Document) :
    ∀ d ∈ (h.ensureIds ds).1, d.contains "_id" = true := by
  induction ds generalizing h with
  | nil => simp [ensureIds]
  | cons d ds ih =>
    intro d' hd'
    rcases List.mem_cons.mp hd' with rfl | hrest
    · exact contains_ensureId h d
    · exact ih _ d' hrest

end Host

/-! ## §2 — changes -/

namespace Catalog

/-- A property of every collection that is there. -/
def Every (P : Collection → Prop) (c : Catalog) : Prop :=
  ∀ db coll collection, c.collection? db coll = some collection → P collection

section Every

variable {P : Collection → Prop} {c : Catalog} {db coll : String}

theorem every_empty : empty.Every P := by
  intro db coll collection h
  cases h

/-- An insert touches one collection. -/
theorem Every.insert (h : c.Every P) {ds : List Document}
    (hnew : P (((c.collection? db coll).getD .empty).append ds)) : (c.insert db coll ds).Every P := by
  intro db' coll' collection hfound
  rw [collection?_insert] at hfound
  split at hfound
  · rw [← Option.some.inj hfound]
    exact hnew
  · exact h db' coll' collection hfound

theorem Every.dropCollection (h : c.Every P) (db coll : String) :
    (c.dropCollection db coll).Every P := by
  intro db' coll' collection hfound
  rw [collection?_dropCollection] at hfound
  split at hfound
  · cases hfound
  · exact h db' coll' collection hfound

theorem Every.dropDatabase (h : c.Every P) (db : String) : (c.dropDatabase db).Every P := by
  intro db' coll' collection hfound
  rw [collection?_dropDatabase] at hfound
  split at hfound
  · cases hfound
  · exact h db' coll' collection hfound

/-- A collection that is not there is as good as one without documents. -/
theorem Every.getD (h : c.Every P) (hempty : P .empty) (db coll : String) :
    P ((c.collection? db coll).getD .empty) := by
  cases hfound : c.collection? db coll with
  | none => exact hempty
  | some collection => exact h db coll collection hfound

end Every

def Keyed (c : Catalog) : Prop :=
  ∀ db coll collection, c.collection? db coll = some collection → collection.Keyed

theorem keyed_empty : empty.Keyed := every_empty

theorem takenIds_eq (c : Catalog) (db coll : String) :
    c.takenIds db coll = ((c.collection? db coll).getD .empty).ids := by
  unfold takenIds
  cases c.collection? db coll <;> rfl

theorem Keyed.insert {c : Catalog} (h : c.Keyed) {db coll : String} {ds : List Document}
    (hids : ∀ d ∈ ds, d.contains "_id" = true)
    (hfree : Store.firstTaken? (c.takenIds db coll) ds = none) : (c.insert db coll ds).Keyed := by
  rw [takenIds_eq] at hfree
  exact Every.insert h ((Every.getD h Collection.keyed_empty db coll).append hids hfree)

theorem Keyed.dropCollection {c : Catalog} (h : c.Keyed) (db coll : String) :
    (c.dropCollection db coll).Keyed :=
  Every.dropCollection h db coll

theorem Keyed.dropDatabase {c : Catalog} (h : c.Keyed) (db : String) : (c.dropDatabase db).Keyed :=
  Every.dropDatabase h db

end Catalog

namespace Store

/-- **A change that a call makes** keeps the texts apart. An insert is a change only if all of its
texts are new. -/
theorem Call.keyed_apply {c : Call} {s : Store} {r : Record} {catalog : Catalog}
    (h : s.catalog.Keyed) (hchange : c.change? s = some r)
    (happly : s.catalog.apply r = .ok catalog) : catalog.Keyed := by
  cases c with
  | insert db coll ds =>
    simp only [change?] at hchange
    split at hchange
    · cases hchange
    · next hfree =>
      obtain rfl := Option.some.inj hchange
      rw [Catalog.apply_insert] at happly
      obtain rfl := Except.ok.inj happly
      exact h.insert (Host.contains_ensureIds s.host ds) hfree
  | dropCollection db coll =>
    simp only [change?, Option.map_eq_some_iff] at hchange
    obtain ⟨_, -, rfl⟩ := hchange
    obtain rfl := Except.ok.inj happly
    exact h.dropCollection db coll
  | dropDatabase db =>
    simp only [change?, Option.map_eq_some_iff] at hchange
    obtain ⟨_, -, rfl⟩ := hchange
    obtain rfl := Except.ok.inj happly
    exact h.dropDatabase db
  | count db coll f => cases hchange
  | scan db coll => cases hchange
  | flush => cases hchange

theorem Call.keyed_run (c : Call) {s : Store} (h : s.catalog.Keyed) :
    (c.run s).2.catalog.Keyed := by
  rcases c.catalog_run_cases s with hsame | ⟨r, hchange, happly⟩
  · rwa [hsame]
  · exact keyed_apply h hchange happly

/-! ## §3 — runs -/

/-- Whatever first records of the account a crash leaves, they make a catalog with its texts apart. -/
def Account (held : List Record) : Prop :=
  ∀ first, first <+: held → ∀ catalog, Catalog.empty.applyAll first = .ok catalog → catalog.Keyed

theorem Account.of_isPrefix {first held : List Record} (h : Account held) (hfirst : first <+: held) :
    Account first :=
  Throughout.of_isPrefix h hfirst

theorem Account.keyed {s : Store} {held : List Record} (h : Account held) (hkeeps : s.Keeps held) :
    s.catalog.Keyed :=
  Throughout.catalog h hkeeps.stands

theorem Account.call {s : Store} {held : List Record} (h : Account held) (hkeeps : s.Keeps held)
    (c : Call) : Account (held ++ c.logged s) :=
  Throughout.call h hkeeps.stands (c.keyed_run (h.keyed hkeeps))

/-- **A run of a durable store** goes through and keeps the texts apart. Induction on the events. -/
theorem Keeps.follow_account {options : Options} {path : String}
    (hpath : options.journalPath? = some path) {s : Store} {held : List Record} (h : s.Keeps held)
    (haccount : Account held) (hheld : ∀ r ∈ held, r.Readable) (events : List Event)
    (hread : s.Rereads options events) :
    ∃ s' held', Store.follow options (s, held) events = .ok (s', held') ∧ s'.catalog.Keyed := by
  induction events generalizing s held with
  | nil => exact ⟨s, held, rfl, haccount.keyed h⟩
  | cons event events ih =>
    cases event with
    | call c =>
      obtain ⟨hlogged, hrest⟩ := hread
      have hnextRead : ∀ r ∈ held ++ c.logged s, r.Readable := fun r hr =>
        (List.mem_append.mp hr).elim (hheld r) (hlogged r)
      exact ih (h.call c) (haccount.call h c) hnextRead hrest
    | crash kept =>
      obtain ⟨s₁, hcrash, hnext, -⟩ := h.crash hpath hheld kept
      have hbegin := Journal.within_isPrefix kept held
      obtain ⟨s', held', hrun, hkeyed⟩ := ih hnext (haccount.of_isPrefix hbegin)
        (fun r hr => hheld r (hbegin.subset hr)) (hread s₁ hcrash)
      exact ⟨s', held', by simp only [Store.follow, hcrash, hrun], hkeyed⟩

/-- A store in memory starts again without anything. -/
theorem follow_inMemory {options : Options} (hpath : options.journalPath? = none) {s : Store}
    (h : s.catalog.Keyed) (held : List Record) (events : List Event) :
    ∃ s' held', Store.follow options (s, held) events = .ok (s', held') ∧ s'.catalog.Keyed := by
  induction events generalizing s held with
  | nil => exact ⟨s, held, rfl, h⟩
  | cons event events ih =>
    cases event with
    | call c => exact ih (c.keyed_run h) _
    | crash kept =>
      have hcrash : s.crash options kept
          = .ok (Store.inMemory (s.host.withDisk (s.host.disk.truncate kept))) := by
        unfold crash Store.open
        rw [hpath]
      obtain ⟨s', held', hrun, hkeyed⟩ := ih
        (s := Store.inMemory (s.host.withDisk (s.host.disk.truncate kept))) Catalog.keyed_empty
        (Journal.within kept held)
      exact ⟨s', held', by simp only [Store.follow, hcrash, hrun], hkeyed⟩

/-- **Runs of any store** that starts on an empty file, or in memory. -/
theorem keyed_of_follow {options : Options} {host : Host} {s₀ : Store}
    (hstart : Store.open options host = .ok s₀) (hfile : host.disk.bytes = [])
    (events : List Event) (hread : options.journalPath? ≠ none → s₀.Rereads options events) :
    ∃ s held, Store.follow options (s₀, []) events = .ok (s, held) ∧ s.catalog.Keyed := by
  cases hpath : options.journalPath? with
  | none =>
    have hempty : s₀ = Store.inMemory host := by
      unfold Store.open at hstart
      rw [hpath] at hstart
      exact (Except.ok.inj hstart).symm
    refine follow_inMemory hpath ?_ [] events
    rw [hempty]
    exact Catalog.keyed_empty
  | some path =>
    have hnil := keeps_nil_of_open hpath hfile hstart
    have haccount : Account [] := throughout_nil Catalog.keyed_empty
    exact hnil.follow_account hpath haccount (by simp) events (hread (by simp [hpath]))

end Store

/-! ## §4 — values that are written in one way -/

namespace Value

mutual

/-- Whether a value is equal, as JSON, to no value but itself. Both zeros are equal doubles, and
several fields may stand in any order. -/
def isRigid : Value → Bool
  | null | bool _ | string _ | number (.int _) | object [] => true
  | array vs => areRigid vs
  | object [(_, v)] => v.isRigid
  | _ => false

def areRigid : List Value → Bool
  | [] => true
  | v :: vs => v.isRigid && areRigid vs

end

mutual

theorem eq_of_equal :
    ∀ {v w : Value}, v.isRigid = true → w.isRigid = true → v.equal w = true → v = w
  | null, w, _, _, h => by
    cases w <;> simp_all [equal]
  | bool a, w, _, _, h => by
    cases w <;> simp_all [equal]
  | string s, w, _, _, h => by
    cases w <;> simp_all [equal]
  | number (.int m), w, _, hw, h => by
    cases w with
    | number n =>
      cases n with
      | int n => simpa [equal, Number.equal] using h
      | double x => cases hw
    | _ => cases h
  | array vs, w, hv, hw, h => by
    cases w with
    | array ws => rw [eq_of_equalItems hv hw h]
    | _ => cases h
  | object [], w, _, _, h => by
    cases w with
    | object gs =>
      cases gs with
      | nil => rfl
      | cons g gs => cases h
    | _ => cases h
  | object [(name, v)], w, hv, hw, h => by
    cases w with
    | object gs =>
      match gs, hw, h with
      | [], _, h => cases h
      | [(name', w)], hw, h =>
        -- the one field has to be the other one
        simp only [equal, fieldsWithin, List.length_cons, List.length_nil, beq_self_eq_true,
          Bool.true_and, Bool.and_true, List.lookup_cons, List.lookup_nil] at h
        by_cases hname : name = name'
        · simp only [hname, beq_self_eq_true] at h
          rw [hname, eq_of_equal (v := v) (w := w) hv hw h]
        · simp only [beq_false_of_ne hname] at h
          cases h
      | _ :: _ :: _, hw, _ => cases hw
    | _ => cases h

theorem eq_of_equalItems : ∀ {vs ws : List Value}, areRigid vs = true → areRigid ws = true →
    equalItems vs ws = true → vs = ws
  | [], [], _, _, _ => rfl
  | [], _ :: _, _, _, h => by cases h
  | _ :: _, [], _, _, h => by cases h
  | v :: vs, w :: ws, hv, hw, h => by
    unfold areRigid at hv hw
    unfold equalItems at h
    rw [Bool.and_eq_true] at hv hw h
    rw [eq_of_equal hv.1 hw.1 h.1, eq_of_equalItems hv.2 hw.2 h.2]

end

/-- Whether a value is the same, for a filter, as no plain value but itself. Numbers are the same by
their doubles, in which integers meet beyond `2 ^ 53`, and with doubles anywhere. The `_id`s that a host
generates are plain. -/
def isPlain : Value → Bool
  | number (.int n) => decide (n.natAbs ≤ 2 ^ 53)
  | number (.double _) => false
  | v => v.isRigid

theorem isRigid_of_isPlain {v : Value} (h : v.isPlain = true) : v.isRigid = true := by
  cases v with
  | number n =>
    cases n with
    | int n => rfl
    | double x => cases h
  | null => rfl
  | bool b => rfl
  | string s => rfl
  | array vs => exact h
  | object fs => exact h

theorem eq_of_same {v w : Value} (hv : v.isPlain = true) (hw : w.isPlain = true)
    (h : v.same w = true) : v = w := by
  have hequal : v.equal w = true := by
    cases v with
    | number a =>
      cases w with
      | number b =>
        cases a with
        | double x => cases hv
        | int m =>
          cases b with
          | double y => cases hw
          | int n =>
            -- up to `2 ^ 53`, integers are the doubles that they become
            have hunits := Number.int_eq_of_sameValue
              (Binary64.exists_units_eq (of_decide_eq_true hv))
              (Binary64.exists_units_eq (of_decide_eq_true hw)) h
            simp [equal, Number.equal, hunits]
      | _ => exact h
    | _ => exact h
  exact eq_of_equal (isRigid_of_isPlain hv) (isRigid_of_isPlain hw) hequal

example (h : Host) : (h.drawId).1.isPlain = true := rfl

end Value

/-! ## §5 — the documents of a collection -/

/-- Where documents have their texts, they have `_id`s with these texts. -/
theorem Document.exists_ids {ds : List Document} {keys : List String}
    (h : ds.map Document.idKey? = keys.map some) :
    ∃ ids : List Value, ds.map Document.id? = ids.map some ∧ ids.map Value.text = keys := by
  induction ds generalizing keys with
  | nil =>
    cases keys with
    | nil => exact ⟨[], rfl, rfl⟩
    | cons key keys => cases h
  | cons d ds ih =>
    cases keys with
    | nil => cases h
    | cons key keys =>
      obtain ⟨hfirst, hrest⟩ := List.cons.inj h
      obtain ⟨ids, hids, htexts⟩ := ih hrest
      obtain ⟨id, hid, htext⟩ := Option.map_eq_some_iff.mp hfirst
      exact ⟨id :: ids, by simp [hid, hids], by simp [htext, htexts]⟩

theorem Catalog.Keyed.exists_ids {c : Catalog} (h : c.Keyed) (db coll : String) :
    ∃ ids : List Value, (c.documents db coll).map Document.id? = ids.map some ∧
      (ids.map Value.text).Nodup := by
  unfold Catalog.documents
  cases hfound : c.collection? db coll with
  | none => exact ⟨[], rfl, List.nodup_nil⟩
  | some collection =>
    have hkeyed := h db coll collection hfound
    obtain ⟨ids, hids, htexts⟩ := Document.exists_ids hkeyed.keys
    refine ⟨ids, hids, ?_⟩
    rw [htexts]
    exact List.nodup_reverse.mpr hkeyed.nodup

/-- **No two documents of a collection have the same `_id` text.** A store that is opened on an empty
file, or in memory, goes through any run of calls and crashes, and then every document has an `_id`,
and in no collection two of them have the same text. Two plain `_id`s are then not the same for a
filter either. With a journal this asks that the reader gives back every record that the run logs
(`Store.Rereads`): it rounds doubles more than once, and two of them may come back as one. -/
theorem ids_differ_in_text {options : Options} {host : Host} {s₀ : Store}
    (hstart : Store.open options host = .ok s₀) (hfile : host.disk.bytes = [])
    (events : List Store.Event) (hread : options.journalPath? ≠ none → s₀.Rereads options events) :
    ∃ s held, Store.follow options (s₀, []) events = .ok (s, held) ∧
      ∀ db coll, ∃ ids : List Value, (s.scan db coll).map Document.id? = ids.map some ∧
        ids.Pairwise fun a b => a.text ≠ b.text ∧
          (a.isPlain = true → b.isPlain = true → a.same b = false) := by
  obtain ⟨s, held, hrun, hkeyed⟩ := Store.keyed_of_follow hstart hfile events hread
  refine ⟨s, held, hrun, fun db coll => ?_⟩
  obtain ⟨ids, hids, htexts⟩ := hkeyed.exists_ids db coll
  refine ⟨ids, hids, ?_⟩
  have hdiffer : ids.Pairwise fun a b => a.text ≠ b.text := List.pairwise_map.mp htexts
  refine hdiffer.imp ?_
  intro a b hne
  refine ⟨hne, fun ha hb => ?_⟩
  cases hsame : a.same b with
  | false => rfl
  | true => exact absurd (congrArg Value.text (Value.eq_of_same ha hb hsame)) hne

/-- A durable store that starts again between two inserts. -/
theorem ids_differ_in_text_of_restart :
    let options : Options := { dbpath := some "data" }
    let host : Host := { ids := fun _ => "", showTime := fun _ => "" }
    let first : Document := ⟨[("_id", .string "a")]⟩
    let second : Document := ⟨[("_id", .string "b")]⟩
    let events : List Store.Event :=
      [.call (.insert "db" "notes" [first]), .crash 1000, .call (.insert "db" "notes" [second])]
    ∃ s₀, Store.open options host = .ok s₀ ∧ s₀.Rereads options events ∧
      ∃ s held, Store.follow options (s₀, []) events = .ok (s, held) ∧
        ∃ ids : List Value, (s.scan "db" "notes").map Document.id? = ids.map some ∧
          ids.Pairwise fun a b => a.text ≠ b.text := by
  intro options host first second events
  have hpath : options.journalPath? = some "data/journal.emj" := by decide
  have hstart := Store.open_of_empty host hpath rfl rfl
  -- documents that have an `_id` are logged as they are, by whatever store
  have hrecord : ∀ (d : Document) (s : Store) r, d.contains "_id" = true →
      Store.Call.change? (.insert "db" "notes" [d]) s = some r →
      r = .insert "db" "notes" [d.toValue] := by
    intro d s r hid h
    rw [Store.Call.change?_insert (by simpa using hid)] at h
    split at h
    · cases h
    · exact (Option.some.inj h).symm
  have hfirst : (Record.insert "db" "notes" [first.toValue]).Readable :=
    (Record.readable_iff _).mpr (by cbv)
  have hsecond : (Record.insert "db" "notes" [second.toValue]).Readable :=
    (Record.readable_iff _).mpr (by cbv)
  have hread : ∀ s : Store, s.Rereads options events := by
    intro s
    refine ⟨fun r hr => ?_, fun s' _ => ⟨fun r hr => ?_, trivial⟩⟩
    · rw [hrecord first s r rfl (Store.Call.change?_of_mem_logged hr)]
      exact hfirst
    · rw [hrecord second s' r rfl (Store.Call.change?_of_mem_logged hr)]
      exact hsecond
  obtain ⟨s, held, hrun, hids⟩ := ids_differ_in_text hstart rfl events fun _ => hread _
  obtain ⟨ids, hscan, hdiffer⟩ := hids "db" "notes"
  exact ⟨_, hstart, hread _, s, held, hrun, ids, hscan, hdiffer.imp fun h => h.1⟩

/-- In memory, documents with free `_id`s are stored. -/
theorem Store.insert_of_inMemory {s : Store} {db coll : String} {ds : List Document}
    (hj : s.journal = none) (hids : ∀ d ∈ ds, d.contains "_id" = true)
    (hfree : firstTaken? (s.catalog.takenIds db coll) ds = none) :
    s.insert db coll ds = (.ok ds.length, { s with catalog := s.catalog.insert db coll ds }) := by
  unfold Store.insert
  rw [Host.ensureIds_of_contains s.host hids]
  simp only [hfree]
  rw [log_of_inMemory _ hj]

/-- **Two `_id`s may be the same for a filter**: the number one is stored as an integer and as a
double, and a filter for it accepts both documents. -/
theorem ids_same_in_two_texts :
    let host : Host := { ids := fun _ => "", showTime := fun _ => "" }
    let integer : Value := .ofNat 1
    let double : Value := .number (.double (.ofInt 1))
    let events : List Store.Event := [.call (.insert "a" "c" [⟨[("_id", integer)]⟩]),
      .call (.insert "a" "c" [⟨[("_id", double)]⟩])]
    ∃ s₀ s held, Store.open {} host = .ok s₀ ∧ Store.follow {} (s₀, []) events = .ok (s, held) ∧
      (s.scan "a" "c").map Document.id? = [some integer, some double] ∧
      integer.same double = true := by
  intro host integer double events
  have hcontains : ∀ v : Value, ∀ d ∈ [(⟨[("_id", v)]⟩ : Document)], d.contains "_id" = true := by
    intro v d hd
    rw [List.mem_singleton.mp hd]
    rfl
  -- the texts are `1` and `1.0`
  have hfree : Store.firstTaken? [integer.text] [⟨[("_id", double)]⟩] = none := by decide +kernel
  have hsame : integer.same double = true := by decide +kernel
  clear_value double
  have hfirst : (Store.inMemory host).insert "a" "c" [⟨[("_id", integer)]⟩] = _ :=
    Store.insert_of_inMemory rfl (hcontains integer) rfl
  have hmemory : ((Store.inMemory host).insert "a" "c" [⟨[("_id", integer)]⟩]).2.journal = none := by
    rw [hfirst]
    rfl
  have hfree' : Store.firstTaken? (((Store.inMemory host).insert "a" "c"
      [⟨[("_id", integer)]⟩]).2.catalog.takenIds "a" "c") [⟨[("_id", double)]⟩] = none := by
    rw [hfirst]
    exact hfree
  have hsecond := Store.insert_of_inMemory hmemory (hcontains double) hfree'
  refine ⟨_, _, _, rfl, rfl, ?_, hsame⟩
  show ((((Store.inMemory host).insert "a" "c" [⟨[("_id", integer)]⟩]).2.insert "a" "c"
    [⟨[("_id", double)]⟩]).2.scan "a" "c").map Document.id? = _
  rw [hsecond, hfirst]
  rfl

end DocStore
