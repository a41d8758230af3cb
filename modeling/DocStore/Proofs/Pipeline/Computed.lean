import DocStore.Proofs.Pipeline.Flags
import DocStore.Proofs.Pipeline.Groups

/-!
# DocStore — computed fields of projections

A projection that lists what to keep takes each of its fields from the source: from the path of a
reference, or from the name itself where a flag is set. Its names are those that found something, in the
order in which they are listed, behind the `_id` of the source, which is put in front unless a flag leaves
it out. An `_id` that is listed with a reference which finds nothing is therefore the one of the source.

* **`Projection.fields_apply_of_isInclusion`** — a projection as entries that are put one by one.
* **`Projection.TakesFrom`** — what a specification means, for a document and its projection.
* **`computed_fields`** — the main statement; **`computed_id_falls_back`** shows the `_id` of the source
  where a reference finds nothing.
-/

namespace DocStore

/-! ## §1 — entries that are put one by one -/

namespace Projection

/-- What a name of a projection takes from a document, if it finds something. -/
def taken? (d : Document) (field : String × ProjectAction) : Option (String × Value) :=
  ((source? field.1 field.2).bind d.get?).map (field.1, ·)

theorem fields_takeField (d result : Document) (field : String × ProjectAction) :
    (takeField d result field).fields = result.fields.putAll (taken? d field).toList := by
  unfold takeField taken?
  cases source? field.1 field.2 with
  | none => rfl
  | some path =>
    simp only [Option.bind_some]
    cases d.get? path <;> rfl

/-- Names that find something put their entries in turn. Induction on the names. -/
theorem fields_foldl_takeField (fields : List (String × ProjectAction)) (d result : Document) :
    (fields.foldl (takeField d) result).fields =
      result.fields.putAll (fields.filterMap (taken? d)) := by
  induction fields generalizing result with
  | nil => rfl
  | cons field fields ih =>
    rw [List.foldl_cons, ih, fields_takeField, List.filterMap_cons]
    cases taken? d field <;> rfl

theorem fields_apply_of_isInclusion {p : Projection} (h : p.isInclusion = true) (d : Document) :
    (p.apply d).fields = (p.start d).fields.putAll (p.fields.filterMap (taken? d)) := by
  rw [apply, if_pos h]
  exact fields_foldl_takeField _ _ _

/-! ## §2 — specifications -/

/-- The path that an entry of a specification takes its value from: the path of a reference, or the name
itself where its flag is set. -/
def origin? (e : String × Value) : Option String :=
  match e.2.flag? with
  | some set => if set then some e.1 else none
  | none => Grouping.reference? e.2

/-- What the entries of a specification find in a document, in their order. -/
def found (fs : Fields Value) (d : Document) : Fields Value :=
  fs.filterMap fun e => ((origin? e).bind d.get?).map (e.1, ·)

theorem names_found_sublist (fs : Fields Value) (d : Document) :
    (Fields.names (found fs d)).Sublist (Fields.names fs) := by
  unfold found
  induction fs with
  | nil => exact .slnil
  | cons e fs ih =>
    rw [List.filterMap_cons]
    cases (origin? e).bind d.get? with
    | none => exact ih.cons e.1
    | some v => exact ih.cons_cons e.1

/-- What the operand of a name says: its flag, or the path of its reference. -/
inductive Means : Value → ProjectAction → Prop
  | flag {v : Value} {set : Bool} (h : v.flag? = some set) : Means v (flagAction set)
  | reference (path : String) : Means (.string ("$" ++ path)) (.take path)

theorem means_of_readAction {name : String} {v : Value} {action : ProjectAction}
    (h : readAction name v = .ok action) : Means v action := by
  cases hflag : v.flag? with
  | some set =>
    rw [readAction_of_flag hflag] at h
    obtain rfl := Except.ok.inj h
    exact .flag hflag
  | none =>
    unfold readAction at h
    split at h
    · cases hflag
    · cases hflag
    · cases hflag
    · next s =>
      split at h
      · next path hpath =>
        obtain rfl := Except.ok.inj h
        have hs : s = "$" ++ String.ofList path := String.toList_inj.mp (by simp [hpath])
        rw [hs]
        exact .reference _
      · cases h
    · cases h

/-- A name takes its value from where its operand says. -/
theorem Means.source?_eq {v : Value} {action : ProjectAction} (h : Means v action) (name : String) :
    source? name action = origin? (name, v) := by
  cases h with
  | @flag v set h =>
    unfold origin?
    rw [h]
    cases set <;> rfl
  | reference path => exact (Grouping.reference?_string path).symm

theorem Means.eq_leaveOut_iff {v : Value} {action : ProjectAction} (h : Means v action) :
    action = .leaveOut ↔ v.flag? = some false := by
  cases h with
  | @flag v set h => rw [h]; cases set <;> simp [flagAction]
  | reference path => simp [Value.flag?]

/-- A specification and what a projection says of its names, in their order. -/
def Reads (fs : Fields Value) (fields : List (String × ProjectAction)) : Prop :=
  List.Forall₂ (fun e field => field.1 = e.1 ∧ Means e.2 field.2) fs fields

/-- Names are read off an object one by one. Induction on its entries. -/
theorem reads_of_readFields {fs : Fields Value} {fields : List (String × ProjectAction)}
    (h : readFields fs = .ok fields) : Reads fs fields := by
  induction fs generalizing fields with
  | nil =>
    cases h
    exact .nil
  | cons e fs ih =>
    obtain ⟨name, v⟩ := e
    obtain ⟨action, haction, h⟩ := ok_of_bind h
    obtain ⟨actions, hactions, h⟩ := ok_of_bind h
    obtain rfl := Except.ok.inj h
    exact .cons ⟨rfl, means_of_readAction haction⟩ (ih hactions)

theorem reads_of_read {fs : Fields Value} {p : Projection} (h : read (.object fs) = .ok p) :
    Reads fs p.fields := by
  obtain ⟨fields, hfields, h⟩ := ok_of_bind h
  dsimp only at h
  split at h
  · cases h
  · obtain rfl := Except.ok.inj h
    exact reads_of_readFields hfields

theorem Reads.names_eq {fs : Fields Value} {fields : List (String × ProjectAction)}
    (h : Reads fs fields) : fields.map Prod.fst = Fields.names fs := by
  rw [Fields.names, ← List.forall₂_eq_eq_eq, List.forall₂_map_left_iff, List.forall₂_map_right_iff]
  exact h.flip.imp fun _ _ h => h.1

/-- What is said of a name is what its operand means. -/
theorem Reads.lookup {fs : Fields Value} {fields : List (String × ProjectAction)}
    (h : Reads fs fields) (name : String) : Option.Rel Means (fs.find? name) (fields.lookup name) := by
  unfold Fields.find?
  induction h with
  | nil => exact .none
  | @cons e field _ _ hfield _ ih =>
    obtain ⟨hname, hmeans⟩ := hfield
    rw [List.lookup_cons, List.lookup_cons, hname]
    split
    · exact .some hmeans
    · exact ih

theorem Reads.filterMap_taken? {fs : Fields Value} {fields : List (String × ProjectAction)}
    (h : Reads fs fields) (d : Document) : fields.filterMap (taken? d) = found fs d := by
  unfold found
  induction h with
  | nil => rfl
  | @cons e field _ _ hfield _ ih =>
    obtain ⟨hname, hmeans⟩ := hfield
    have hstep : taken? d field = ((origin? e).bind d.get?).map (e.1, ·) := by
      rw [taken?, hmeans.source?_eq, hname]
    rw [List.filterMap_cons, List.filterMap_cons, hstep, ih]

/-- Something is listed that is not to be left out. -/
def IsInclusive (fs : Fields Value) : Prop := ∃ e ∈ fs, e.2.flag? ≠ some false

theorem Reads.any_ne_leaveOut {fs : Fields Value} {fields : List (String × ProjectAction)}
    (h : Reads fs fields) (hsome : IsInclusive fs) : fields.any (·.2 != .leaveOut) = true := by
  obtain ⟨e, he, hflag⟩ := hsome
  induction h with
  | nil => cases he
  | @cons e' field _ _ hfield _ ih =>
    rw [List.any_cons, Bool.or_eq_true]
    rcases List.mem_cons.mp he with rfl | he
    · refine .inl (bne_iff_ne.mpr fun hleft => hflag ?_)
      exact hfield.2.eq_leaveOut_iff.mp hleft
    · exact .inr (ih he)

/-- The `_id` that a specification keeps: that of the source, unless a flag leaves it out. -/
def keptId? (fs : Fields Value) (d : Document) : Option Value :=
  if (fs.find? "_id").bind Value.flag? = some false then none else d.id?

theorem Reads.start_eq {fs : Fields Value} {p : Projection} (h : Reads fs p.fields) (d : Document) :
    (p.start d).fields = ((keptId? fs d).map ("_id", ·)).toList := by
  have hleft : p.action? "_id" = some .leaveOut ↔ (fs.find? "_id").bind Value.flag? = some false := by
    unfold action?
    have hsays := h.lookup "_id"
    generalize fs.find? "_id" = operand, p.fields.lookup "_id" = action at hsays ⊢
    cases hsays with
    | none => simp
    | some hmeans => simpa using hmeans.eq_leaveOut_iff
  unfold start keptId?
  by_cases hid : p.action? "_id" = some .leaveOut
  · rw [if_pos hid, if_pos (hleft.mp hid)]
    rfl
  · rw [if_neg hid, if_neg (hid ∘ hleft.mpr)]
    cases d.id? <;> rfl

/-! ## §3 — what becomes of a document -/

section

variable {fs : Fields Value} {p : Projection} (h : Reads fs p.fields)
  (hnames : (Fields.names fs).Nodup) (hsome : IsInclusive fs)

include h hnames hsome

/-- **What a projection holds under a name**: what is found where its operand says, and under `_id` else
the one that is kept. -/
theorem Reads.field?_apply (d : Document) (name : String) :
    (p.apply d).field? name =
      (((fs.find? name).bind fun v => origin? (name, v)).bind d.get?).or
        (if name = "_id" then keptId? fs d else none) := by
  have hdistinct : (p.fields.map Prod.fst).Nodup := h.names_eq ▸ hnames
  have hsource : (p.fields.lookup name).bind (source? name) =
      (fs.find? name).bind fun v => origin? (name, v) := by
    have hsays := h.lookup name
    generalize fs.find? name = operand, p.fields.lookup name = action at hsays ⊢
    cases hsays with
    | none => rfl
    | some hmeans => exact hmeans.source?_eq name
  have hstart : (p.start d).field? name = if name = "_id" then keptId? fs d else none := by
    rw [Document.field?, h.start_eq]
    cases keptId? fs d with
    | none => simp [Fields.find?]
    | some id =>
      by_cases hid : name = "_id"
      · simp [Fields.find?, hid]
      · simp [Fields.find?, List.lookup_cons, beq_false_of_ne hid, hid]
  have hinclusion : p.isInclusion = true := h.any_ne_leaveOut hsome
  rw [apply, if_pos hinclusion, field?_foldl_takeField hdistinct, hsource, hstart]

/-- **The names of a projection**: those that find something, behind the `_id` that is kept. -/
theorem Reads.names_apply (d : Document) :
    (p.apply d).names = if (keptId? fs d).isSome
      then "_id" :: (Fields.names (found fs d)).filter (· ≠ "_id")
      else Fields.names (found fs d) := by
  have hfound : (Fields.names (found fs d)).Nodup := hnames.sublist (names_found_sublist fs d)
  rw [Document.names, fields_apply_of_isInclusion (h.any_ne_leaveOut hsome), h.filterMap_taken?,
    Fields.names_putAll hfound, h.start_eq]
  cases keptId? fs d with
  | none => simp
  | some id => simp

end

/-- What a specification means, for a document and what a projection makes of it. -/
structure TakesFrom (fs : Fields Value) (d out : Document) : Prop where
  /-- A reference takes what the source has at its path, or nothing. -/
  computed : ∀ name path, fs.find? name = some (.string ("$" ++ path)) → name ≠ "_id" →
    out.field? name = d.get? path
  /-- The `_id` of the source stands in where a reference finds nothing. -/
  computed_id : ∀ path, fs.find? "_id" = some (.string ("$" ++ path)) →
    out.id? = (d.get? path).or d.id?
  kept : ∀ name v, fs.find? name = some v → v.flag? = some true → out.field? name = d.get? name
  id : fs.find? "_id" = none → out.id? = d.id?
  /-- The names are those that find something, in order, behind the `_id` if that is kept. -/
  names : out.names = if (keptId? fs d).isSome
    then "_id" :: (Fields.names (found fs d)).filter (· ≠ "_id")
    else Fields.names (found fs d)

theorem origin?_reference (name path : String) :
    origin? (name, .string ("$" ++ path)) = some path :=
  Grouping.reference?_string path

theorem keptId?_of_flag?_ne {fs : Fields Value}
    (h : (fs.find? "_id").bind Value.flag? ≠ some false) (d : Document) : keptId? fs d = d.id? :=
  if_neg h

theorem Reads.takesFrom {fs : Fields Value} {p : Projection} (h : Reads fs p.fields)
    (hnames : (Fields.names fs).Nodup) (hsome : IsInclusive fs) (d : Document) :
    TakesFrom fs d (p.apply d) where
  computed name path hlisted hname := by
    rw [h.field?_apply hnames hsome, hlisted, Option.bind_some, origin?_reference, if_neg hname]
    exact Option.or_none
  computed_id path hlisted := by
    have hkept : keptId? fs d = d.id? := keptId?_of_flag?_ne (by simp [hlisted, Value.flag?]) d
    rw [Document.id?, h.field?_apply hnames hsome, hlisted, Option.bind_some, origin?_reference,
      if_pos rfl, hkept]
    rfl
  kept name v hlisted hset := by
    have horigin : origin? (name, v) = some name := by simp [origin?, hset]
    rw [h.field?_apply hnames hsome, hlisted, Option.bind_some, horigin, Option.bind_some]
    split
    · next hid =>
      subst hid
      have hkept : keptId? fs d = d.id? := keptId?_of_flag?_ne (by simp [hlisted, hset]) d
      rw [hkept, Document.id?_eq_get?, Option.or_self]
    · exact Option.or_none
  id hlisted := by
    have hkept : keptId? fs d = d.id? := keptId?_of_flag?_ne (by simp [hlisted]) d
    rw [Document.id?, h.field?_apply hnames hsome, hlisted, if_pos rfl, hkept]
    rfl
  names := h.names_apply hnames hsome d

end Projection

/-- **Computed fields are taken from the source.** An accepted `$project` that lists something to keep
holds under the name of a reference what the source has at its path, or nothing, whatever other names
take; only the `_id` is that of the source where its reference finds nothing. There are no names but
those that find something and, unless a flag leaves it out, the `_id` of the source in front. -/
theorem computed_fields {fs : Fields Value} {stage : Stage} (hnames : (Fields.names fs).Nodup)
    (hsome : Projection.IsInclusive fs)
    (h : Pipeline.readStage (.object [("$project", .object fs)]) = .ok stage) (ds : List Document) :
    List.Forall₂ (Projection.TakesFrom fs) ds (stage.run ds) := by
  have hread : (Projection.read (.object fs)).map Stage.project = .ok stage :=
    mapError_eq_ok_iff.mp h
  obtain ⟨p, hp, rfl⟩ := map_eq_ok_iff.mp hread
  show List.Forall₂ _ ds (ds.map p.apply)
  rw [List.forall₂_map_right_iff, List.forall₂_same]
  exact fun d _ => (Projection.reads_of_read hp).takesFrom hnames hsome d

/-- Two fields that change places, an `_id` out of an embedded document and a reference that finds
nothing. -/
theorem computed_fields_of_swap :
    let fs : Fields Value := [("a", .string "$b"), ("b", .string "$a"), ("_id", .string "$k.n"),
      ("c", .string "$none")]
    let stage : Stage := .project ⟨[("a", .take "b"), ("b", .take "a"), ("_id", .take "k.n"),
      ("c", .take "none")]⟩
    let d : Document := ⟨[("_id", .null), ("a", .bool true), ("b", .string "x"),
      ("k", .object [("n", .bool false)])]⟩
    let out : Document := ⟨[("_id", .bool false), ("a", .string "x"), ("b", .bool true)]⟩
    (Fields.names fs).Nodup ∧ Projection.IsInclusive fs ∧
      Pipeline.readStage (.object [("$project", .object fs)]) = .ok stage ∧ stage.run [d] = [out] ∧
      Projection.TakesFrom fs d out := by
  intro fs stage d out
  have hnames : (Fields.names fs).Nodup := by decide
  have hsome : Projection.IsInclusive fs := ⟨_, List.mem_cons_self, nofun⟩
  have hread : Pipeline.readStage (.object [("$project", .object fs)]) = .ok stage := rfl
  have hrun : stage.run [d] = [out] := rfl
  have htakes := computed_fields hnames hsome hread [d]
  rw [hrun] at htakes
  exact ⟨hnames, hsome, hread, hrun, (List.forall₂_cons.mp htakes).1⟩

/-- **The `_id` of the source stands in** for one whose reference finds nothing. -/
theorem computed_id_falls_back :
    let fs : Fields Value := [("_id", .string "$x")]
    let stage : Stage := .project ⟨[("_id", .take "x")]⟩
    let d : Document := ⟨[("_id", .bool true)]⟩
    (Fields.names fs).Nodup ∧ Projection.IsInclusive fs ∧
      Pipeline.readStage (.object [("$project", .object fs)]) = .ok stage ∧ d.get? "x" = none ∧
      stage.run [d] = [d] ∧ d.id? = some (.bool true) := by
  intro fs stage d
  exact ⟨by decide, ⟨_, List.mem_cons_self, nofun⟩, rfl, rfl, rfl, rfl⟩

end DocStore
