import DocStore.Pipeline.Basic
import DocStore.Proofs.Outcome
import Mathlib.Data.List.Forall2

/-!
# DocStore — the groups of documents

Grouping goes through the documents once and puts each into the group of its key, told by the key's text.
What comes of it is said without going through them: the texts of the keys, each once
(`Grouping.texts`), and for each text the documents that have it (`Grouping.members`). The groups hold
exactly that at every moment (`Grouping.Holds`).

* **`Grouping.Holds.insert`**, **`Grouping.holds_groups`** — one document more, and so all of them.
* **`Grouping.rows_of_texts`** — every text has a row, made of the documents that have it.
* **`Grouping.members_perm`** — every document is in one group.
* **`Grouping.apply_alone`** — a constant key makes one row, so the documents of a group can be counted
  without the others.
* **`groups_partition`** — all this of the stage that an accepted specification is read as.
-/

namespace DocStore

/-! ## §1 — documents by the texts of their keys -/

namespace Grouping

variable (g : Grouping)

/-- The text of a document's key, by which documents are put together. -/
def keyText (d : Document) : String := (g.key.of d).text

/-- The texts of keys, each once, in the order in which they first appear. -/
def texts (ds : List Document) : List String := (ds.map g.keyText).eraseDups

/-- The documents whose key has this text, as they stand. -/
def members (ds : List Document) (text : String) : List Document :=
  ds.filter (g.keyText · == text)

/-- The groups of documents: one for each text, with the key of its first member. -/
structure Holds (ds : List Document) (gs : List Group) : Prop where
  texts : gs.map (·.key.text) = g.texts ds
  members : ∀ group ∈ gs, group.members = g.members ds group.key.text
  keys : ∀ group ∈ gs, ∃ d rest, group.members = d :: rest ∧ g.key.of d = group.key

end Grouping

theorem nodup_eraseDups {α : Type} [BEq α] [LawfulBEq α] : ∀ as : List α, as.eraseDups.Nodup
  | [] => by simp
  | a :: as => by
    rw [List.eraseDups_cons, List.nodup_cons]
    refine ⟨?_, nodup_eraseDups _⟩
    rw [List.mem_eraseDups, List.mem_filter]
    simp
-- what is left behind an element is filtered, so it is no tail
termination_by as => as.length
decreasing_by exact Nat.lt_succ_of_le (List.length_filter_le _ _)

namespace Grouping

variable {g : Grouping}

theorem texts_concat (ds : List Document) (d : Document) :
    g.texts (ds ++ [d]) =
      if g.keyText d ∈ g.texts ds then g.texts ds else g.texts ds ++ [g.keyText d] := by
  have hmem : g.keyText d ∈ g.texts ds ↔ g.keyText d ∈ ds.map g.keyText := List.mem_eraseDups
  have hsplit : g.texts (ds ++ [d]) =
      g.texts ds ++ ([g.keyText d].removeAll (ds.map g.keyText)).eraseDups := by
    unfold texts
    rw [List.map_append, List.eraseDups_append]
    rfl
  rw [if_congr hmem rfl rfl, hsplit, List.removeAll, List.filter_singleton]
  by_cases hin : g.keyText d ∈ ds.map g.keyText
  · simp only [List.elem_eq_mem, hin, decide_true, Bool.not_true, cond_false, if_true,
      List.eraseDups_nil, List.append_nil]
  · simp only [List.elem_eq_mem, hin, decide_false, Bool.not_false, cond_true, if_false,
      List.eraseDups_cons, List.filter_nil, List.eraseDups_nil]

theorem members_concat_of_eq {d : Document} {text : String} (h : text = g.keyText d)
    (ds : List Document) : g.members (ds ++ [d]) text = g.members ds text ++ [d] := by
  simp [members, h]

theorem members_concat_of_ne {d : Document} {text : String} (h : text ≠ g.keyText d)
    (ds : List Document) : g.members (ds ++ [d]) text = g.members ds text := by
  simp [members, Ne.symm h]

theorem members_eq_nil {ds : List Document} {text : String} (h : text ∉ g.texts ds) :
    g.members ds text = [] := by
  refine List.filter_eq_nil_iff.mpr fun d hd heq => h ?_
  rw [← beq_iff_eq.mp heq]
  exact List.mem_eraseDups.mpr (List.mem_map_of_mem hd)

theorem texts_insert (key : Value) (d : Document) (gs : List Group) :
    (insert key d gs).map (·.key.text) =
      if key.text ∈ gs.map (·.key.text) then gs.map (·.key.text)
      else gs.map (·.key.text) ++ [key.text] := by
  induction gs with
  | nil => simp [insert]
  | cons group gs ih =>
    unfold insert
    by_cases h : group.key.text = key.text
    · simp [h]
    · have h' : key.text ≠ group.key.text := Ne.symm h
      simp only [if_neg h, List.map_cons, ih, List.mem_cons, h', false_or]
      split <;> rfl

/-- What becomes of the groups when a document comes in: others stay, the one of its key takes it in at
the end, or a new one is made. -/
theorem mem_insert {key : Value} {d : Document} {gs : List Group} {group : Group}
    (hdistinct : (gs.map (·.key.text)).Nodup) (h : group ∈ insert key d gs) :
    (group ∈ gs ∧ group.key.text ≠ key.text) ∨
      (∃ old ∈ gs, old.key.text = key.text ∧ group = { old with members := old.members ++ [d] }) ∨
        (key.text ∉ gs.map (·.key.text) ∧ group = ⟨key, [d]⟩) := by
  induction gs with
  | nil => exact .inr (.inr ⟨by simp, List.mem_singleton.mp h⟩)
  | cons first gs ih =>
    obtain ⟨hfirst, hrest⟩ := List.nodup_cons.mp hdistinct
    unfold insert at h
    split at h
    · next heq =>
      rcases List.mem_cons.mp h with rfl | hin
      · exact .inr (.inl ⟨first, List.mem_cons_self, heq, rfl⟩)
      · -- a later group has another text
        refine .inl ⟨List.mem_cons_of_mem _ hin, fun he => hfirst ?_⟩
        show first.key.text ∈ _
        rw [heq, ← he]
        exact List.mem_map_of_mem hin
    · next hne =>
      rcases List.mem_cons.mp h with rfl | hin
      · exact .inl ⟨List.mem_cons_self, hne⟩
      · rcases ih hrest hin with ⟨hold, ht⟩ | ⟨old, hold, ht⟩ | ⟨hnew, rfl⟩
        · exact .inl ⟨List.mem_cons_of_mem _ hold, ht⟩
        · exact .inr (.inl ⟨old, List.mem_cons_of_mem _ hold, ht⟩)
        · refine .inr (.inr ⟨?_, rfl⟩)
          rw [List.map_cons, List.mem_cons, not_or]
          exact ⟨Ne.symm hne, hnew⟩

/-! ## §2 — what the groups are -/

theorem holds_nil : g.Holds [] [] where
  texts := rfl
  members _ h := by cases h
  keys _ h := by cases h

/-- **One document more**: it comes to the group of its key, or makes a new one at the end. -/
theorem Holds.insert {ds : List Document} {gs : List Group} (h : g.Holds ds gs) (d : Document) :
    g.Holds (ds ++ [d]) (insert (g.key.of d) d gs) := by
  have hdistinct : (gs.map (·.key.text)).Nodup := by
    rw [h.texts]
    exact nodup_eraseDups _
  refine ⟨?_, fun group hin => ?_, fun group hin => ?_⟩
  -- for members and keys: a group of another text, the group of this text, a new group
  · rw [texts_insert, h.texts, texts_concat]
    rfl
  · rcases mem_insert hdistinct hin with ⟨hold, ht⟩ | ⟨old, hold, ht, rfl⟩ | ⟨hnew, rfl⟩
    · rw [members_concat_of_ne ht]
      exact h.members group hold
    · rw [members_concat_of_eq ht]
      show old.members ++ [d] = g.members ds old.key.text ++ [d]
      rw [h.members old hold]
    · show [d] = g.members (ds ++ [d]) (g.keyText d)
      rw [members_concat_of_eq rfl, members_eq_nil (h.texts ▸ hnew)]
      rfl
  · rcases mem_insert hdistinct hin with ⟨hold, -⟩ | ⟨old, hold, -, rfl⟩ | ⟨-, rfl⟩
    · exact h.keys group hold
    · obtain ⟨first, rest, hmembers, hkey⟩ := h.keys old hold
      refine ⟨first, rest ++ [d], ?_, hkey⟩
      show old.members ++ [d] = _
      rw [hmembers]
      rfl
    · exact ⟨d, [], rfl, rfl⟩

/-- Any number of documents more. Induction on them. -/
theorem Holds.foldl_insert {before : List Document} {gs : List Group} (h : g.Holds before gs)
    (ds : List Document) :
    g.Holds (before ++ ds) (ds.foldl (fun gs d => Grouping.insert (g.key.of d) d gs) gs) := by
  induction ds generalizing before gs with
  | nil => rwa [List.append_nil]
  | cons d ds ih =>
    have hnext := ih (h.insert d)
    rwa [List.append_assoc, List.singleton_append] at hnext

theorem holds_groups (ds : List Document) : g.Holds ds (g.groups ds) :=
  holds_nil.foldl_insert ds

/-! ## §3 — rows -/

theorem fields_foldl_put (members : List Document) (as : List (String × Accumulator))
    (d : Document) :
    (as.foldl (fun d a => d.put a.1 (a.2.compute members)) d).fields =
      d.fields.putAll (as.map fun a => (a.1, a.2.compute members)) := by
  induction as generalizing d with
  | nil => rfl
  | cons a as ih => exact ih _

/-- A row has the key as its `_id` and then the values of the accumulators, when their names are
different ones. -/
theorem fields_row {group : Group} (hnames : ("_id" :: g.accumulators.map Prod.fst).Nodup) :
    (g.row group).fields =
      ("_id", group.key) :: g.accumulators.map fun a => (a.1, a.2.compute group.members) := by
  unfold row
  rw [fields_foldl_put, Fields.putAll_of_nodup]
  · rfl
  · simpa [Fields.names, Function.comp_def] using hnames

/-- A row of some documents: the key of the first one as its `_id`, then, in the order in which they are
written, what the accumulators make of all of them. -/
def IsRowOf (g : Grouping) (members : List Document) (row : Document) : Prop :=
  ∃ d rest, members = d :: rest ∧
    row.fields = ("_id", g.key.of d) :: g.accumulators.map fun a => (a.1, a.2.compute members)

/-- The rows are those of the texts of keys, in the order in which the texts first appear. -/
theorem rows_of_texts (hnames : ("_id" :: g.accumulators.map Prod.fst).Nodup) (ds : List Document) :
    List.Forall₂ (fun text row => g.IsRowOf (g.members ds text) row) (g.texts ds) (g.apply ds) := by
  have hgroups := g.holds_groups ds
  unfold apply
  rw [← hgroups.texts, List.forall₂_map_left_iff, List.forall₂_map_right_iff, List.forall₂_same]
  intro group hin
  obtain ⟨d, rest, hmembers, hkey⟩ := hgroups.keys group hin
  refine ⟨d, rest, ?_, ?_⟩
  · rw [← hgroups.members group hin, hmembers]
  · rw [fields_row hnames, hgroups.members group hin, hkey]

/-! ## §4 — every document in one group -/

/-- Documents sorted out by their texts are the documents. -/
theorem flatMap_filter_perm {f : Document → String} {texts : List String} (hdistinct : texts.Nodup)
    {ds : List Document} (hcover : ∀ d ∈ ds, f d ∈ texts) :
    (texts.flatMap fun text => ds.filter (f · == text)).Perm ds := by
  -- on the texts, each of which takes its documents out
  induction texts generalizing ds with
  | nil =>
    cases ds with
    | nil => exact .nil
    | cons d ds => exact absurd (hcover d List.mem_cons_self) (by simp)
  | cons text texts ih =>
    obtain ⟨htext, hrest⟩ := List.nodup_cons.mp hdistinct
    have hsame : (texts.flatMap fun other => ds.filter (f · == other)) =
        texts.flatMap fun other => (ds.filter (!f · == text)).filter (f · == other) := by
      refine congrArg List.flatten (List.map_congr_left fun other hother => ?_)
      rw [List.filter_filter]
      refine List.filter_congr fun d _ => ?_
      by_cases heq : f d = other
      · have hne : f d ≠ text := fun e => htext (e ▸ heq ▸ hother)
        simp [heq, heq ▸ hne]
      · simp [heq]
    have hothers : ∀ d ∈ ds.filter (!f · == text), f d ∈ texts := by
      intro d hd
      obtain ⟨hd, hne⟩ := List.mem_filter.mp hd
      exact (List.mem_cons.mp (hcover d hd)).resolve_left (by simpa using hne)
    rw [List.flatMap_cons, hsame]
    exact ((ih hrest hothers).append_left _).trans (List.filter_append_perm (f · == text) ds)

theorem mem_texts {ds : List Document} {d : Document} (hd : d ∈ ds) : g.keyText d ∈ g.texts ds :=
  List.mem_eraseDups.mpr (List.mem_map_of_mem hd)

theorem members_perm (ds : List Document) : ((g.texts ds).flatMap (g.members ds)).Perm ds :=
  flatMap_filter_perm (nodup_eraseDups _) fun _ hd => mem_texts hd

theorem mem_members_iff {ds : List Document} {d : Document} {text : String} :
    d ∈ g.members ds text ↔ d ∈ ds ∧ g.keyText d = text := by
  rw [members, List.mem_filter, beq_iff_eq]

/-! ## §5 — the documents of a row alone -/

/-- The same accumulators, over all documents. -/
def alone (g : Grouping) (c : Value) : Grouping := { g with key := .constant c }

theorem apply_alone (hnames : ("_id" :: g.accumulators.map Prod.fst).Nodup) (c : Value)
    {ds : List Document} (hne : ds ≠ []) :
    ∃ row, (g.alone c).apply ds = [row] ∧
      row.fields = ("_id", c) :: g.accumulators.map fun a => (a.1, a.2.compute ds) := by
  -- all documents have the text of the constant, so they are one group
  have htext : ∀ d ∈ ds, (g.alone c).keyText d = c.text := fun _ _ => rfl
  have htexts : (g.alone c).texts ds = [c.text] := by
    cases ds with
    | nil => exact absurd rfl hne
    | cons d ds =>
      have hnone : (ds.map (g.alone c).keyText).filter (fun text => !text == c.text) = [] := by
        simpa using fun d hd => htext d (List.mem_cons_of_mem _ hd)
      rw [texts, List.map_cons, List.eraseDups_cons, htext d List.mem_cons_self, hnone,
        List.eraseDups_nil]
  have hmembers : (g.alone c).members ds c.text = ds :=
    List.filter_eq_self.mpr fun d hd => beq_iff_eq.mpr (htext d hd)
  have hrows := rows_of_texts (g := g.alone c) hnames ds
  rw [htexts] at hrows
  obtain ⟨row, rest, hrow, hrest, happly⟩ := List.forall₂_cons_left_iff.mp hrows
  obtain rfl := List.forall₂_nil_left_iff.mp hrest
  obtain ⟨d, others, -, hfields⟩ := hmembers ▸ hrow
  exact ⟨row, happly, hfields⟩

/-! ## §6 — specifications -/

end Grouping

/-- The operand of `_id` that a key is written as: a reference to a path, or else the one key of all
documents. -/
inductive GroupKey.Written : Value → GroupKey → Prop
  | path (p : String) : Written (.string ("$" ++ p)) (.path p)
  | constant {v : Value} (h : ∀ p, v ≠ .string ("$" ++ p)) : Written v (.constant v)

/-- A grouping and the object that it is written as: the key under `_id`, and under every other name, in
the order of the names, an accumulator. -/
structure Grouping.WrittenAs (g : Grouping) (fs : Fields Value) : Prop where
  key : ∃ id, fs.find? "_id" = some id ∧ GroupKey.Written id g.key
  accumulators : List.Forall₂ (fun entry a => a.1 = entry.1 ∧
    Grouping.readAccumulator entry.1 entry.2 = .ok a.2) (fs.filter (·.1 != "_id")) g.accumulators

namespace Grouping

theorem reference?_eq_some_iff {v : Value} {path : String} :
    reference? v = some path ↔ v = .string ("$" ++ path) := by
  constructor
  · intro h
    unfold reference? at h
    split at h
    · next s =>
      split at h
      · next cs hs =>
        obtain rfl := Option.some.inj h
        have htext : "$" ++ String.ofList cs = s := String.toList_inj.mp (by simp [hs])
        rw [htext]
      · cases h
    · cases h
  · rintro rfl
    simp [reference?]

theorem reference?_string (path : String) : reference? (.string ("$" ++ path)) = some path :=
  reference?_eq_some_iff.mpr rfl

theorem written_readKey (v : Value) : GroupKey.Written v (readKey v) := by
  unfold readKey
  cases hreference : reference? v with
  | some path =>
    rw [reference?_eq_some_iff.mp hreference]
    exact .path path
  | none =>
    refine .constant fun path h => ?_
    rw [reference?_eq_some_iff.mpr h] at hreference
    cases hreference

/-- Accumulators are read off an object one by one, apart from the key. Induction on its entries. -/
theorem readAccumulators_eq_ok {fs : Fields Value} {as : List (String × Accumulator)}
    (h : readAccumulators fs = .ok as) :
    List.Forall₂ (fun entry a => a.1 = entry.1 ∧ readAccumulator entry.1 entry.2 = .ok a.2)
      (fs.filter (·.1 != "_id")) as := by
  induction fs generalizing as with
  | nil =>
    cases h
    exact .nil
  | cons e rest ih =>
    obtain ⟨name, v⟩ := e
    unfold readAccumulators at h
    split at h
    · next hid => simpa [hid] using ih h
    · next hother =>
      obtain ⟨a, ha, h⟩ := ok_of_bind h
      obtain ⟨as, has, h⟩ := ok_of_bind h
      obtain rfl := Except.ok.inj h
      rw [List.filter_cons_of_pos (by simpa using hother)]
      exact .cons ⟨rfl, ha⟩ (ih has)

theorem read_eq_ok {spec : Value} {g : Grouping} (h : read spec = .ok g) :
    ∃ fs, spec = .object fs ∧ g.WrittenAs fs := by
  unfold read at h
  split at h
  · next fs =>
    split at h
    · cases h
    · next id hid =>
      obtain ⟨as, has, h⟩ := ok_of_bind h
      obtain rfl := Except.ok.inj h
      exact ⟨fs, rfl, ⟨id, hid, written_readKey id⟩, readAccumulators_eq_ok has⟩
  · cases h

/-- The names of accumulators are the names of the object but for `_id`. -/
theorem WrittenAs.nodup_names {g : Grouping} {fs : Fields Value} (h : g.WrittenAs fs)
    (hnames : (Fields.names fs).Nodup) : ("_id" :: g.accumulators.map Prod.fst).Nodup := by
  have hsame : (fs.filter (·.1 != "_id")).map Prod.fst = g.accumulators.map Prod.fst := by
    rw [← List.forall₂_eq_eq_eq, List.forall₂_map_left_iff, List.forall₂_map_right_iff]
    exact h.accumulators.imp fun _ _ h => h.1.symm
  rw [← hsame, List.nodup_cons]
  refine ⟨fun hin => ?_, hnames.sublist (List.filter_sublist.map Prod.fst)⟩
  obtain ⟨e, he, hid⟩ := List.mem_map.mp hin
  simpa [hid] using (List.mem_filter.mp he).2

/-- Documents put together in rows by the texts of their keys. -/
structure Partitions (g : Grouping) (ds out : List Document) : Prop where
  /-- The texts, in the order in which they first appear, have a row each. -/
  rows : List.Forall₂ (fun text row => g.IsRowOf (g.members ds text) row) (g.texts ds) out
  distinct : (g.texts ds).Nodup
  /-- Every document is in the row of its own text and in no other. -/
  belongs : ∀ d ∈ ds, g.keyText d ∈ g.texts ds ∧
    ∀ text, d ∈ g.members ds text ↔ text = g.keyText d
  /-- All documents are in some row, as often as they are there. -/
  perm : ((g.texts ds).flatMap (g.members ds)).Perm ds
  /-- The documents of a row come to the same values when they are grouped without the others. -/
  alone : ∀ c, List.Forall₂ (fun text row => ∃ one : Document,
    (g.alone c).apply (g.members ds text) = [one] ∧ one.fields.tail = row.fields.tail) (g.texts ds) out

theorem partitions_apply {g : Grouping} (hnames : ("_id" :: g.accumulators.map Prod.fst).Nodup)
    (ds : List Document) : g.Partitions ds (g.apply ds) where
  rows := rows_of_texts hnames ds
  distinct := nodup_eraseDups _
  belongs d hd := by
    refine ⟨mem_texts hd, fun text => ?_⟩
    rw [mem_members_iff, eq_comm]
    exact and_iff_right hd
  perm := members_perm ds
  alone c := by
    refine (rows_of_texts hnames ds).imp fun text row hrow => ?_
    obtain ⟨d, rest, hmembers, hfields⟩ := hrow
    obtain ⟨one, hone, hvalues⟩ := apply_alone hnames c
      (show g.members ds text ≠ [] from hmembers ▸ List.cons_ne_nil d rest)
    exact ⟨one, hone, by rw [hvalues, hfields]; rfl⟩

end Grouping

/-- **Groups partition the documents.** An accepted `$group` is an object, and makes one row of each text
that keys have, in the order in which the texts first appear: the key of the first document with that
text, and what each accumulator makes of the documents with that text, as they stand. -/
theorem groups_partition {spec : Value} {stage : Stage}
    (hnames : ∀ fs, spec = .object fs → (Fields.names fs).Nodup)
    (h : Pipeline.readStage (.object [("$group", spec)]) = .ok stage) :
    ∃ fs g, spec = .object fs ∧ Grouping.WrittenAs g fs ∧
      (∀ ds, g.Partitions ds (stage.run ds)) ∧ stage.run [] = [] := by
  have hread : (Grouping.read spec).map Stage.group = .ok stage := mapError_eq_ok_iff.mp h
  obtain ⟨g, hg, rfl⟩ := map_eq_ok_iff.mp hread
  obtain ⟨fs, hspec, hwritten⟩ := Grouping.read_eq_ok hg
  have hdistinct := hwritten.nodup_names (hnames fs hspec)
  exact ⟨fs, g, hspec, hwritten, Grouping.partitions_apply hdistinct, rfl⟩

/-- Documents by their city, with two accumulators. -/
theorem groups_partition_of_cities :
    let one : Number := .int 1
    let spec : Value := .object [("_id", .string "$city"), ("n", .object [("$sum", .number one)]),
      ("name", .object [("$first", .string "$name")])]
    let stage : Stage :=
      .group ⟨.path "city", [("n", .sumConstant one.value), ("name", .first "name")]⟩
    (∀ fs, spec = .object fs → (Fields.names fs).Nodup) ∧
      Pipeline.readStage (.object [("$group", spec)]) = .ok stage ∧
      ∃ fs g, spec = .object fs ∧ Grouping.WrittenAs g fs ∧
        (∀ ds, g.Partitions ds (stage.run ds)) ∧ stage.run [] = [] := by
  intro one spec stage
  have hnames : ∀ fs, spec = .object fs → (Fields.names fs).Nodup := by
    intro fs hspec
    obtain rfl := Value.object.inj hspec
    decide
  have hread : Pipeline.readStage (.object [("$group", spec)]) = .ok stage := rfl
  exact ⟨hnames, hread, groups_partition hnames hread⟩

end DocStore
