import DocStore.Proofs.Filter.Numbers
import DocStore.Proofs.Pipeline.Groups

/-!
# DocStore — groups and equal keys

Filters and sort orders compare values, and groups go by texts. A value has as many texts as there are
forms in which it can be written: the kinds of its numbers, the signs of its zeros and the order of its
fields are in the text and not in the value. Keys that are equal and written in one form
(`Value.OneForm`) are one value and have one text; those written in two forms are put into two groups.

* **`Value.OneForm.eq_of_equal`**, **`Value.WrittenAlike.eq_of_same`** — in one form, equal values are
  one value.
* **`Grouping.Joins`** — two documents are in one row.
* **`groups_join_equal_keys`** — the main statement; **`equal_keys_in_two_rows`** shows a key of two
  forms and its two rows.
-/

namespace DocStore

/-! ## §1 — values in one form -/

namespace Value

mutual

/-- Two values, whatever they hold, with numbers of the same kinds, doubles of the same signs and fields
in the same order, no name twice, at the same places. -/
inductive OneForm : Value → Value → Prop
  | null : OneForm .null .null
  | bool (a b : Bool) : OneForm (.bool a) (.bool b)
  | integer (m n : Int) : OneForm (.number (.int m)) (.number (.int n))
  | double {x y : Binary64.Finite} (h : x.negative = y.negative) :
      OneForm (.number (.double x)) (.number (.double y))
  | string (s t : String) : OneForm (.string s) (.string t)
  | array {vs ws : List Value} (h : OneFormItems vs ws) : OneForm (.array vs) (.array ws)
  | object {fs gs : Fields Value} (hnames : (Fields.names gs).Nodup) (h : OneFormFields fs gs) :
      OneForm (.object fs) (.object gs)

inductive OneFormItems : List Value → List Value → Prop
  | nil : OneFormItems [] []
  | cons {v w : Value} {vs ws : List Value} (h : OneForm v w) (hrest : OneFormItems vs ws) :
      OneFormItems (v :: vs) (w :: ws)

inductive OneFormFields : Fields Value → Fields Value → Prop
  | nil : OneFormFields [] []
  | cons (name : String) {v w : Value} {fs gs : Fields Value} (h : OneForm v w)
      (hrest : OneFormFields fs gs) : OneFormFields ((name, v) :: fs) ((name, w) :: gs)

end

mutual

/-- **In one form, values equal as JSON are one value.** Induction on the values. -/
theorem OneForm.eq_of_equal : ∀ {v w : Value}, v.OneForm w → v.equal w = true → v = w
  | .null, _, .null, _ => rfl
  | .bool _, _, .bool _ _, h => congrArg bool (beq_iff_eq.mp h)
  | .number _, _, .integer _ _, h => congrArg (fun n => number (.int n)) (beq_iff_eq.mp h)
  | .number _, _, .double hsign, h =>
    congrArg (fun x => number (.double x)) (Binary64.Finite.eq_of_units hsign (beq_iff_eq.mp h))
  | .string _, _, .string _ _, h => congrArg string (beq_iff_eq.mp h)
  | .array _, _, .array hitems, h => congrArg array (hitems.eq_of_equalItems h)
  | .object _, _, .object hnames hfields, h => by
    -- each field finds the one at its place, for no name is there twice
    have hfound := fun name w => (lookup_eq_some_iff_mem (k := name) (a := w) hnames).mpr
    exact congrArg object (hfields.eq_of_fieldsWithin hfound (Bool.and_eq_true_iff.mp h).2)

theorem OneFormItems.eq_of_equalItems : ∀ {vs ws : List Value}, OneFormItems vs ws →
    equalItems vs ws = true → vs = ws
  | [], _, .nil, _ => rfl
  | _ :: _, _, .cons hfirst hrest, h => by
    obtain ⟨hequal, hothers⟩ := Bool.and_eq_true_iff.mp h
    rw [hfirst.eq_of_equal hequal, hrest.eq_of_equalItems hothers]

theorem OneFormFields.eq_of_fieldsWithin : ∀ {fs gs all : List (String × Value)},
    OneFormFields fs gs → (∀ name w, (name, w) ∈ gs → all.lookup name = some w) →
      fieldsWithin fs all = true → fs = gs
  | [], _, _, .nil, _, _ => rfl
  | _ :: _, _, _, .cons name hfirst hrest, hfound, h => by
    obtain ⟨hequal, hothers⟩ := Bool.and_eq_true_iff.mp h
    rw [hfound name _ List.mem_cons_self] at hequal
    have hlater := fun name' w hin => hfound name' w (List.mem_cons_of_mem _ hin)
    rw [hfirst.eq_of_equal hequal, hrest.eq_of_fieldsWithin hlater hothers]

end

/-- Not an integer that has to be rounded before it is compared. -/
def IsExact : Value → Prop
  | number n => n.IsDouble
  | _ => True

/-- Two values in one form which are compared as they are. -/
structure WrittenAlike (v w : Value) : Prop where
  form : v.OneForm w
  left : v.IsExact
  right : w.IsExact

/-- **Values written alike are one value if a filter takes them for one.** -/
theorem WrittenAlike.eq_of_same {v w : Value} (h : v.WrittenAlike w) (hsame : v.same w = true) :
    v = w := by
  obtain ⟨hform, hv, hw⟩ := h
  refine hform.eq_of_equal ?_
  cases hform with
  | integer m n =>
    -- filters compare the doubles of integers, JSON equality the integers
    exact beq_iff_eq.mpr (Number.int_eq_of_sameValue hv hw hsame)
  | _ => exact hsame

end Value

/-! ## §2 — documents in one row -/

namespace Grouping

variable {g : Grouping}

/-- Two of the documents are among those of one row. -/
def Joins (g : Grouping) (ds out : List Document) (d d' : Document) : Prop :=
  ∃ text, d ∈ g.members ds text ∧ d' ∈ g.members ds text ∧
    ∃ row ∈ out, g.IsRowOf (g.members ds text) row

theorem exists_row {ds : List Document} {texts : List String} {out : List Document}
    (h : List.Forall₂ (fun text row => g.IsRowOf (g.members ds text) row) texts out) {text : String}
    (htext : text ∈ texts) : ∃ row ∈ out, g.IsRowOf (g.members ds text) row := by
  induction h with
  | nil => cases htext
  | cons hrow _ ih =>
    rcases List.mem_cons.mp htext with rfl | hin
    · exact ⟨_, List.mem_cons_self, hrow⟩
    · obtain ⟨row, hout, hrow⟩ := ih hin
      exact ⟨row, List.mem_cons_of_mem _ hout, hrow⟩

/-- **Documents of one text are in one row**, and no others are. -/
theorem joins_iff {ds out : List Document} (h : g.Partitions ds out) {d d' : Document} (hd : d ∈ ds)
    (hd' : d' ∈ ds) : g.Joins ds out d d' ↔ g.keyText d = g.keyText d' := by
  constructor
  · rintro ⟨text, hin, hin', -⟩
    exact (mem_members_iff.mp hin).2.trans (mem_members_iff.mp hin').2.symm
  · intro htext
    exact ⟨g.keyText d, mem_members_iff.mpr ⟨hd, rfl⟩, mem_members_iff.mpr ⟨hd', htext.symm⟩,
      exists_row h.rows (mem_texts hd)⟩

theorem IsRowOf.id?_eq {members : List Document} {row : Document} (h : g.IsRowOf members row) :
    ∃ d ∈ members, row.id? = some (g.key.of d) := by
  obtain ⟨d, rest, hmembers, hfields⟩ := h
  refine ⟨d, hmembers ▸ List.mem_cons_self, ?_⟩
  show Fields.find? row.fields "_id" = _
  rw [hfields]
  rfl

/-- Every row has an `_id`, and its text is that of the row. -/
theorem exists_rowIds {ds : List Document} {texts : List String} {out : List Document}
    (h : List.Forall₂ (fun text row => g.IsRowOf (g.members ds text) row) texts out) :
    ∃ ids : List Value, out.map Document.id? = ids.map some ∧ ids.map Value.text = texts := by
  induction h with
  | nil => exact ⟨[], rfl, rfl⟩
  | cons hrow _ ih =>
    obtain ⟨ids, hids, htexts⟩ := ih
    obtain ⟨d, hd, hid⟩ := hrow.id?_eq
    have htext : (g.key.of d).text = _ := (mem_members_iff.mp hd).2
    exact ⟨g.key.of d :: ids, by simp [hid, hids], by simp [htext, htexts]⟩

/-- What equal keys have to do with the rows, as far as they are written alike. -/
structure JoinsEqualKeys (g : Grouping) (ds out : List Document) : Prop where
  joined : ∀ d ∈ ds, ∀ d' ∈ ds, (g.key.of d).WrittenAlike (g.key.of d') →
    (g.key.of d).same (g.key.of d') = true → g.Joins ds out d d'
  /-- Of no two rows the `_id`s are equal and written alike. -/
  apart : ∃ ids : List Value, out.map Document.id? = ids.map some ∧
    ids.Pairwise fun id id' => id.WrittenAlike id' → id.same id' = false

theorem Partitions.joinsEqualKeys {ds out : List Document} (h : g.Partitions ds out) :
    g.JoinsEqualKeys ds out where
  joined d hd d' hd' halike hsame :=
    (joins_iff h hd hd').mpr (congrArg Value.text (halike.eq_of_same hsame))
  apart := by
    obtain ⟨ids, hids, htexts⟩ := exists_rowIds h.rows
    refine ⟨ids, hids, ?_⟩
    have hdiffer : ids.Pairwise fun id id' => id.text ≠ id'.text :=
      List.pairwise_map.mp (show (ids.map Value.text).Nodup from htexts ▸ h.distinct)
    refine hdiffer.imp fun hne halike => ?_
    rw [← Bool.not_eq_true]
    exact fun hsame => hne (congrArg Value.text (halike.eq_of_same hsame))

end Grouping

/-- **Equal keys are in one row.** An accepted `$group` puts two documents into one row if filters take
their keys for one and the keys are written alike, and so no two rows have `_id`s that are written alike
and taken for one. -/
theorem groups_join_equal_keys {spec : Value} {stage : Stage}
    (hnames : ∀ fs, spec = .object fs → (Fields.names fs).Nodup)
    (h : Pipeline.readStage (.object [("$group", spec)]) = .ok stage) :
    ∃ fs g, spec = .object fs ∧ Grouping.WrittenAs g fs ∧ stage = .group g ∧
      ∀ ds, g.Partitions ds (stage.run ds) ∧ g.JoinsEqualKeys ds (stage.run ds) := by
  have hread : (Grouping.read spec).map Stage.group = .ok stage := mapError_eq_ok_iff.mp h
  obtain ⟨g, hg, rfl⟩ := map_eq_ok_iff.mp hread
  obtain ⟨fs, hspec, hwritten⟩ := Grouping.read_eq_ok hg
  have hdistinct := hwritten.nodup_names (hnames fs hspec)
  refine ⟨fs, g, hspec, hwritten, rfl, fun ds => ?_⟩
  have hpartitions := Grouping.partitions_apply hdistinct ds
  exact ⟨hpartitions, hpartitions.joinsEqualKeys⟩

/-- Documents by an object in which a number is nested, written in the same way. -/
theorem groups_join_equal_keys_of_objects :
    let one : Number := .int 1
    let spec : Value := .object [("_id", .string "$k"), ("n", .object [("$sum", .number one)])]
    let g : Grouping := ⟨.path "k", [("n", .sumConstant one.value)]⟩
    let key : Value := .object [("city", .string "Bern"), ("at", .array [.null,
      .number (.double (.ofInt 3))])]
    let first : Document := ⟨[("k", key)]⟩
    let second : Document := ⟨[("_id", .ofNat 2), ("k", key)]⟩
    (∀ fs, spec = .object fs → (Fields.names fs).Nodup) ∧
      Pipeline.readStage (.object [("$group", spec)]) = .ok (.group g) ∧ key.WrittenAlike key ∧
      key.same key = true ∧ g.Joins [first, second] (g.apply [first, second]) first second := by
  intro one spec g key first second
  have hnames : ∀ fs, spec = .object fs → (Fields.names fs).Nodup := by
    intro fs hspec
    obtain rfl := Value.object.inj hspec
    decide
  have hread : Pipeline.readStage (.object [("$group", spec)]) = .ok (.group g) := rfl
  have halike : key.WrittenAlike key := ⟨.object (by decide) (.cons _ (.string _ _)
    (.cons _ (.array (.cons .null (.cons (.double rfl) .nil))) .nil)), trivial, trivial⟩
  have hsame : key.same key = true := by decide +kernel
  obtain ⟨fs, g', -, -, hstage, hgroups⟩ := groups_join_equal_keys hnames hread
  obtain rfl := Stage.group.inj hstage
  exact ⟨hnames, hread, halike, hsame, (hgroups [first, second]).2.joined first (by simp) second
    (by simp) halike hsame⟩

/-- **An equal key in two forms makes two rows**: the number one as an integer and as a double. -/
theorem equal_keys_in_two_rows :
    let one : Value := .ofNat 1
    let one' : Value := .number (.double (.ofInt 1))
    let spec : Value := .object [("_id", .string "$k"), ("n", .object [("$sum", one)])]
    let stage : Stage := .group ⟨.path "k", [("n", .sumConstant (.ofInt 1))]⟩
    let ds : List Document := [⟨[("k", one)]⟩, ⟨[("k", one')]⟩]
    Pipeline.readStage (.object [("$group", spec)]) = .ok stage ∧ one.same one' = true ∧
      (stage.run ds).map Document.id? = [some one, some one'] := by
  intro one one' spec stage ds
  have hsame : one.same one' = true := by decide +kernel
  have htexts : one.text ≠ one'.text := by decide +kernel
  refine ⟨rfl, hsame, ?_⟩
  clear_value one one'
  have hgroups : (Grouping.mk (.path "k") [("n", .sumConstant (.ofInt 1))]).groups ds =
      [⟨one, [⟨[("k", one)]⟩]⟩, ⟨one', [⟨[("k", one')]⟩]⟩] := by
    show Grouping.insert one' _ [⟨one, _⟩] = _
    rw [Grouping.insert, if_neg htexts]
    rfl
  show ((Grouping.groups _ ds).map _).map Document.id? = _
  rw [hgroups]
  rfl

end DocStore
