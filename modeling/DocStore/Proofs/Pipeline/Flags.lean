import DocStore.Pipeline.Basic
import DocStore.Proofs.Outcome
import Mathlib.Data.List.Forall2

/-!
# DocStore — projections of flags

A projection of flags says of paths whether they are kept or left out, and goes by the names of fields: what
is kept is put under the path as a name, and left out is the field which has the path as its name. A path
of one segment (`Path.IsPlain`) is the name of a field, and there flags do what their paths say. What a
path with a point leads to is found in the source, but not under that name in the projection.

* **`Projection.field?_apply_of_isInclusion`**, **`Projection.field?_apply_of_not_isInclusion`** — the
  fields of a projection by their names.
* **`Projection.HonoursFlags`** — what flags mean, for a document and its projection.
* **`projection_honours_flags`** — the main statement, also of a projection that is made twice;
  **`Projection.ReadFrom.misses`** tells what becomes of the other paths and **`dotted_flags_missed`**
  shows two of them.
-/

namespace DocStore

/-! ## §1 — paths -/

namespace Path

/-- A path of one segment. -/
def IsPlain (path : String) : Prop := '.' ∉ path.toList

instance (path : String) : Decidable (IsPlain path) := inferInstanceAs (Decidable (_ ∉ _))

theorem splitPoints_of_notMem {cs : List Char} (h : '.' ∉ cs) : splitPoints cs = [cs] := by
  induction cs with
  | nil => rfl
  | cons c cs ih =>
    rw [List.mem_cons, not_or] at h
    obtain ⟨hc, hcs⟩ := h
    rw [splitPoints, if_neg (Ne.symm hc), ih hcs]

/-- In front of the first point there is none. -/
theorem exists_splitPoints (cs : List Char) :
    ∃ part parts, splitPoints cs = part :: parts ∧ '.' ∉ part := by
  induction cs with
  | nil => exact ⟨[], [], rfl, List.not_mem_nil⟩
  | cons c cs ih =>
    obtain ⟨part, parts, hsplit, hpart⟩ := ih
    by_cases hc : c = '.'
    · exact ⟨[], _, by rw [splitPoints, if_pos hc], List.not_mem_nil⟩
    · refine ⟨c :: part, parts, by rw [splitPoints, if_neg hc, hsplit], ?_⟩
      rw [List.mem_cons, not_or]
      exact ⟨Ne.symm hc, hpart⟩

theorem IsPlain.segments_eq {path : String} (h : IsPlain path) : segments path = [path] := by
  rw [segments, splitPoints_of_notMem h, List.map_singleton, String.ofList_toList]

/-- A path goes through a field first. -/
theorem exists_segments (path : String) :
    ∃ first rest, segments path = first :: rest ∧ IsPlain first := by
  obtain ⟨part, parts, hsplit, hpart⟩ := exists_splitPoints path.toList
  refine ⟨String.ofList part, parts.map String.ofList, by rw [segments, hsplit, List.map_cons], ?_⟩
  rwa [IsPlain, String.toList_ofList]

/-- Different paths, none of which leads through another one. -/
structure Free (paths : List String) : Prop where
  distinct : paths.Nodup
  apart : ∀ p ∈ paths, ∀ q ∈ paths, p ≠ q → ¬ segments p <+: segments q

/-- What is passed on the way is no path of the list. -/
theorem Free.first_notMem {paths : List String} (h : Free paths) {path first : String}
    {rest : List String} (hpath : path ∈ paths) (hsegments : segments path = first :: rest)
    (hfirst : IsPlain first) (hne : first ≠ path) : first ∉ paths := by
  intro hin
  refine h.apart first hin path hpath hne ?_
  rw [hfirst.segments_eq, hsegments]
  exact ⟨rest, rfl⟩

/-- What this path leads to stays in its place if it is kept: a field, or a part of the `_id`, which is
kept as a whole. -/
def StaysInPlace (path : String) : Prop := IsPlain path ∨ (segments path).head? = some "_id"

end Path

namespace Document

theorem get?_of_segments {path first : String} {rest : List String}
    (h : Path.segments path = first :: rest) (d : Document) :
    d.get? path = (d.field? first).bind (Value.walk? rest) := by
  have hstep : d.toValue.step? first = d.field? first := rfl
  unfold get?
  rw [h, Value.walk?, hstep]
  cases d.field? first <;> rfl

theorem get?_of_isPlain {path : String} (h : Path.IsPlain path) (d : Document) :
    d.get? path = d.field? path := by
  rw [get?_of_segments h.segments_eq]
  cases d.field? path <;> rfl

theorem id?_eq_get? (d : Document) : d.get? "_id" = d.id? := get?_of_isPlain (by decide) d

end Document

/-! ## §2 — the fields of a projection -/

namespace Projection

theorem field?_takeField (d result : Document) (field : String × ProjectAction) (name : String) :
    (takeField d result field).field? name =
      if field.1 = name then ((source? name field.2).bind d.get?).or (result.field? name)
      else result.field? name := by
  unfold takeField
  by_cases hname : field.1 = name
  · subst hname
    rw [if_pos rfl]
    cases source? field.1 field.2 with
    | none => rfl
    | some path =>
      simp only [Option.bind_some]
      cases d.get? path with
      | none => rfl
      | some v => exact Fields.find?_put_self _ _ _
  · rw [if_neg hname]
    split
    · split
      · exact Fields.find?_put_of_ne (Ne.symm hname) _ _
      · rfl
    · rfl

/-- A name takes the same from documents that have the same at its path. -/
theorem takeField_congr {d d' : Document} {field : String × ProjectAction}
    (h : ∀ path, source? field.1 field.2 = some path → d.get? path = d'.get? path)
    (result : Document) : takeField d result field = takeField d' result field := by
  unfold takeField
  cases hsource : source? field.1 field.2 with
  | none => rfl
  | some path => simp only [h path hsource]

/-- What is taken under a name, if it is there, covers what was there. Induction on the names. -/
theorem field?_foldl_takeField {fields : List (String × ProjectAction)}
    (hnames : (fields.map Prod.fst).Nodup) (d result : Document) (name : String) :
    (fields.foldl (takeField d) result).field? name =
      (((fields.lookup name).bind (source? name)).bind d.get?).or (result.field? name) := by
  induction fields generalizing result with
  | nil => rfl
  | cons field fields ih =>
    obtain ⟨n, action⟩ := field
    obtain ⟨hnew, hrest⟩ := List.nodup_cons.mp hnames
    rw [List.foldl_cons, ih hrest, field?_takeField, List.lookup_cons]
    by_cases hname : n = name
    · -- the name does not come again
      have hnone : fields.lookup name = none := lookup_eq_none_iff_notMem.mpr (hname ▸ hnew)
      rw [hnone, if_pos hname, hname, beq_self_eq_true name]
      rfl
    · rw [if_neg hname, beq_false_of_ne (Ne.symm hname)]

theorem field?_start (p : Projection) (d : Document) (name : String) :
    (p.start d).field? name =
      if name = "_id" ∧ p.action? "_id" ≠ some .leaveOut then d.id? else none := by
  unfold start
  by_cases hleft : p.action? "_id" = some .leaveOut
  · rw [if_pos hleft, if_neg fun h => h.2 hleft]
    rfl
  · rw [if_neg hleft]
    by_cases hname : name = "_id"
    · rw [if_pos ⟨hname, hleft⟩, hname]
      cases d.id? <;> rfl
    · rw [if_neg fun h => hname h.1]
      cases d.id? with
      | none => rfl
      | some id =>
        show List.lookup name [("_id", id)] = none
        rw [List.lookup_cons, beq_false_of_ne hname, List.lookup_nil]

section

variable {p : Projection} (hnames : (p.fields.map Prod.fst).Nodup)

include hnames in
/-- **What an inclusion holds under a name**: what it takes under it, and the `_id`. -/
theorem field?_apply_of_isInclusion (h : p.isInclusion = true) (d : Document) (name : String) :
    (p.apply d).field? name = (((p.action? name).bind (source? name)).bind d.get?).or
      (if name = "_id" ∧ p.action? "_id" ≠ some .leaveOut then d.id? else none) := by
  rw [apply, if_pos h, field?_foldl_takeField hnames, field?_start]
  rfl

/-- **What another projection holds under a name**: what the source has, unless it is left out. -/
theorem field?_apply_of_not_isInclusion (h : p.isInclusion = false) (d : Document) (name : String) :
    (p.apply d).field? name = if p.action? name = none then d.field? name else none := by
  rw [apply, if_neg (by simp [h])]
  refine (Fields.find?_filter (fun n => (p.action? n).isNone) d.fields name).trans ?_
  simp only [Option.isNone_iff_eq_none]
  rfl

end

end Projection

/-! ## §3 — flags -/

/-- Whether a flag is set; other values are no flags. -/
def Value.flag? : Value → Option Bool
  | .bool b => some b
  | .number n => some (n.value.units != 0)
  | _ => none

namespace Projection

/-- A path has a flag, which is set or is not. -/
def Flagged (fs : Fields Value) (path : String) (b : Bool) : Prop :=
  ∃ v, (path, v) ∈ fs ∧ v.flag? = some b

theorem Flagged.mem_names {fs : Fields Value} {path : String} {b : Bool} (h : Flagged fs path b) :
    path ∈ Fields.names fs := by
  obtain ⟨v, hv, -⟩ := h
  exact List.mem_map_of_mem hv

def IsFlags (fs : Fields Value) : Prop := ∀ e ∈ fs, e.2.flag?.isSome = true

/-- What a flag says of its path. -/
def flagAction (b : Bool) : ProjectAction := if b then .keep else .leaveOut

theorem readAction_of_flag {v : Value} {b : Bool} (h : v.flag? = some b) (name : String) :
    readAction name v = .ok (flagAction b) := by
  cases v with
  | bool b' =>
    obtain rfl := Option.some.inj h
    cases b' <;> rfl
  | number n =>
    obtain rfl := Option.some.inj h
    by_cases hzero : n.value.units = 0 <;> simp [readAction, flagAction, hzero]
  | _ => cases h

/-- A path with its flag, and with what the flag says. -/
def SaysOf (e : String × Value) (field : String × ProjectAction) : Prop :=
  field.1 = e.1 ∧ ∃ b, e.2.flag? = some b ∧ field.2 = flagAction b

/-- A projection that is read off flags. -/
structure ReadFrom (p : Projection) (fs : Fields Value) : Prop where
  fields : List.Forall₂ SaysOf fs p.fields
  /-- Where paths are kept, no other one than the `_id` can be left out. -/
  unmixed : p.isInclusion = true → ∀ path, (path, .leaveOut) ∈ p.fields → path = "_id"

theorem readFields_of_flags {fs : Fields Value} (hflags : IsFlags fs)
    {fields : List (String × ProjectAction)} (h : readFields fs = .ok fields) :
    List.Forall₂ SaysOf fs fields := by
  induction fs generalizing fields with
  | nil =>
    cases h
    exact .nil
  | cons e fs ih =>
    obtain ⟨name, v⟩ := e
    obtain ⟨b, hb⟩ := Option.isSome_iff_exists.mp (hflags (name, v) List.mem_cons_self)
    obtain ⟨action, haction, h⟩ := ok_of_bind h
    obtain ⟨actions, hactions, h⟩ := ok_of_bind h
    obtain rfl := Except.ok.inj h
    rw [readAction_of_flag hb] at haction
    obtain rfl := Except.ok.inj haction
    exact .cons ⟨rfl, b, hb, rfl⟩ (ih (fun e he => hflags e (List.mem_cons_of_mem _ he)) hactions)

theorem readFrom_of_read {fs : Fields Value} (hflags : IsFlags fs) {p : Projection}
    (h : read (.object fs) = .ok p) : p.ReadFrom fs := by
  obtain ⟨fields, hfields, h⟩ := ok_of_bind h
  dsimp only at h
  split at h
  · cases h
  · next hmixed =>
    obtain rfl := Except.ok.inj h
    refine ⟨readFields_of_flags hflags hfields, fun hinclusion path hpath => ?_⟩
    by_contra hne
    refine hmixed (Bool.and_eq_true_iff.mpr ⟨hinclusion, List.any_eq_true.mpr ⟨_, hpath, ?_⟩⟩)
    simpa using hne

theorem mem_fields_iff {fs : Fields Value} {fields : List (String × ProjectAction)}
    (h : List.Forall₂ SaysOf fs fields) {path : String} {action : ProjectAction} :
    (path, action) ∈ fields ↔ ∃ b, Flagged fs path b ∧ action = flagAction b := by
  constructor
  · intro hin
    induction h with
    | nil => cases hin
    | @cons e field fs fields hfield _ ih =>
      rcases List.mem_cons.mp hin with rfl | hin
      · obtain ⟨rfl, b, hb, haction⟩ := hfield
        exact ⟨b, ⟨e.2, List.mem_cons_self, hb⟩, haction⟩
      · obtain ⟨b, ⟨v, hv, hb⟩, haction⟩ := ih hin
        exact ⟨b, ⟨v, List.mem_cons_of_mem _ hv, hb⟩, haction⟩
  · rintro ⟨b, ⟨v, hv, hb⟩, rfl⟩
    induction h with
    | nil => cases hv
    | @cons e field fs fields hfield _ ih =>
      rcases List.mem_cons.mp hv with rfl | hv
      · obtain ⟨hname, b', hb', haction⟩ := hfield
        obtain rfl := Option.some.inj (hb.symm.trans hb')
        exact List.mem_cons.mpr (.inl (Prod.ext hname.symm haction.symm))
      · exact List.mem_cons_of_mem _ (ih hv)

section

variable {p : Projection} {fs : Fields Value} (h : p.ReadFrom fs)
  (hfree : Path.Free (Fields.names fs))

include h in
theorem ReadFrom.names_eq : p.fields.map Prod.fst = Fields.names fs := by
  rw [Fields.names, ← List.forall₂_eq_eq_eq, List.forall₂_map_left_iff, List.forall₂_map_right_iff]
  exact h.fields.flip.imp fun _ _ h => h.1

include h in
theorem ReadFrom.isInclusion_iff : p.isInclusion = true ↔ ∃ path, Flagged fs path true := by
  rw [isInclusion, List.any_eq_true]
  constructor
  · rintro ⟨⟨path, action⟩, hin, haction⟩
    obtain ⟨b, hb, rfl⟩ := (mem_fields_iff h.fields).mp hin
    cases b with
    | true => exact ⟨path, hb⟩
    | false => cases haction
  · rintro ⟨path, hpath⟩
    exact ⟨(path, .keep), (mem_fields_iff h.fields).mpr ⟨true, hpath, rfl⟩, rfl⟩

include h hfree

theorem ReadFrom.action?_eq_some_iff {path : String} {action : ProjectAction} :
    p.action? path = some action ↔ ∃ b, Flagged fs path b ∧ action = flagAction b := by
  have hnames : (p.fields.map Prod.fst).Nodup := h.names_eq ▸ hfree.distinct
  rw [← mem_fields_iff h.fields]
  exact lookup_eq_some_iff_mem hnames

theorem ReadFrom.action?_of_flagged {path : String} {b : Bool} (hpath : Flagged fs path b) :
    p.action? path = some (flagAction b) :=
  (h.action?_eq_some_iff hfree).mpr ⟨b, hpath, rfl⟩

omit hfree in
theorem ReadFrom.action?_eq_none_iff {path : String} :
    p.action? path = none ↔ path ∉ Fields.names fs := by
  rw [← h.names_eq]
  exact lookup_eq_none_iff_notMem

theorem ReadFrom.notMem_names {path : String} (hkept : ¬ Flagged fs path true)
    (hleft : ¬ Flagged fs path false) : path ∉ Fields.names fs := by
  rw [← h.action?_eq_none_iff, Option.eq_none_iff_forall_ne_some]
  intro action haction
  obtain ⟨b, hb, -⟩ := (h.action?_eq_some_iff hfree).mp haction
  cases b with
  | true => exact hkept hb
  | false => exact hleft hb

omit hfree in
/-- A flag that is not set stands alone, or it is that of the `_id`. -/
theorem ReadFrom.eq_id_of_isInclusion (hinclusion : p.isInclusion = true) {path : String}
    (hpath : Flagged fs path false) : path = "_id" :=
  h.unmixed hinclusion path ((mem_fields_iff h.fields).mpr ⟨false, hpath, rfl⟩)

/-! ## §4 — what becomes of a document -/

theorem ReadFrom.field?_of_kept {path : String} (hpath : Flagged fs path true) (d : Document) :
    (p.apply d).field? path = d.get? path := by
  have hinclusion := h.isInclusion_iff.mpr ⟨path, hpath⟩
  have hnames : (p.fields.map Prod.fst).Nodup := h.names_eq ▸ hfree.distinct
  rw [field?_apply_of_isInclusion hnames hinclusion, h.action?_of_flagged hfree hpath]
  show (d.get? path).or _ = _
  -- the `_id` is put there already, and it is the same
  split
  · next hid =>
    rw [hid.1, Document.id?_eq_get?, Option.or_self]
  · exact Option.or_none

theorem ReadFrom.field?_of_leftOut {path : String} (hpath : Flagged fs path false) (d : Document) :
    (p.apply d).field? path = none := by
  have hnames : (p.fields.map Prod.fst).Nodup := h.names_eq ▸ hfree.distinct
  have haction := h.action?_of_flagged hfree hpath
  cases hinclusion : p.isInclusion with
  | true =>
    obtain rfl := h.eq_id_of_isInclusion hinclusion hpath
    rw [field?_apply_of_isInclusion hnames hinclusion, haction, if_neg fun hid => hid.2 rfl]
    rfl
  | false => rw [field?_apply_of_not_isInclusion hinclusion, haction, if_neg (by simp)]

/-- Of names without a flag, an inclusion holds the `_id` only, and another projection all. -/
theorem ReadFrom.field?_of_notMem {name : String} (hname : name ∉ Fields.names fs) (d : Document) :
    (p.apply d).field? name =
      if p.isInclusion = true ∧ name ≠ "_id" then none else d.field? name := by
  have hnames : (p.fields.map Prod.fst).Nodup := h.names_eq ▸ hfree.distinct
  have haction := h.action?_eq_none_iff.mpr hname
  cases hinclusion : p.isInclusion with
  | true =>
    rw [field?_apply_of_isInclusion hnames hinclusion, haction]
    by_cases hid : name = "_id"
    · subst hid
      rw [haction, if_pos ⟨rfl, by simp⟩, if_neg (by simp)]
      rfl
    · rw [if_neg fun h => hid h.1, if_pos ⟨rfl, hid⟩]
      rfl
  | false => rw [field?_apply_of_not_isInclusion hinclusion, if_pos haction, if_neg (by simp)]

theorem ReadFrom.id?_apply (hid : ¬ Flagged fs "_id" false) (d : Document) :
    (p.apply d).id? = d.id? := by
  by_cases hkept : Flagged fs "_id" true
  · exact (h.field?_of_kept hfree hkept d).trans d.id?_eq_get?
  · have hname := h.notMem_names hfree hkept hid
    exact (h.field?_of_notMem hfree hname d).trans (if_neg (by simp))

theorem ReadFrom.get?_of_kept {path : String} (hpath : Flagged fs path true)
    (hplace : Path.StaysInPlace path) (d : Document) : (p.apply d).get? path = d.get? path := by
  by_cases hplain : Path.IsPlain path
  · rw [Document.get?_of_isPlain hplain, h.field?_of_kept hfree hpath]
  · obtain ⟨first, rest, hsegments, hfirst⟩ := Path.exists_segments path
    have hhead := hplace.resolve_left hplain
    rw [hsegments] at hhead
    obtain rfl := Option.some.inj hhead
    -- a part of the `_id`, which no other flag speaks of
    have hname := hfree.first_notMem hpath.mem_names hsegments hfirst fun he => hplain (he ▸ hfirst)
    have hid : (p.apply d).id? = d.id? :=
      h.id?_apply hfree (fun hleft => hname hleft.mem_names) d
    rw [Document.get?_of_segments hsegments, Document.get?_of_segments hsegments]
    exact congrArg (fun id : Option Value => id.bind (Value.walk? rest)) hid

/-- **Paths with a point are missed.** What such a path leads to is not kept in its place, unless it is a
part of the `_id`, and it is not left out. -/
theorem ReadFrom.misses {path : String} (hplain : ¬ Path.IsPlain path) (d : Document) :
    (Flagged fs path true → ¬ Path.StaysInPlace path → (p.apply d).get? path = none) ∧
      (Flagged fs path false → (p.apply d).get? path = d.get? path) := by
  obtain ⟨first, rest, hsegments, hfirst⟩ := Path.exists_segments path
  have hne : first ≠ path := fun he => hplain (he ▸ hfirst)
  rw [Document.get?_of_segments hsegments, Document.get?_of_segments hsegments]
  constructor
  · intro hpath hplace
    have hname := hfree.first_notMem hpath.mem_names hsegments hfirst hne
    have hother : first ≠ "_id" := fun he => hplace (.inr (by rw [hsegments, he]; rfl))
    have hinclusion := h.isInclusion_iff.mpr ⟨path, hpath⟩
    rw [h.field?_of_notMem hfree hname, if_pos ⟨hinclusion, hother⟩]
    rfl
  · intro hpath
    have hname := hfree.first_notMem hpath.mem_names hsegments hfirst hne
    have hexclusion : ¬ (p.isInclusion = true ∧ first ≠ "_id") := by
      rintro ⟨hinclusion, -⟩
      rw [h.eq_id_of_isInclusion hinclusion hpath] at hplain
      exact hplain (by decide)
    rw [h.field?_of_notMem hfree hname, if_neg hexclusion]

omit hfree in
theorem ReadFrom.fields_apply (hkept : ∀ path, ¬ Flagged fs path true) (d : Document) :
    (p.apply d).fields = d.fields.filter fun field => decide (field.1 ∉ Fields.names fs) := by
  have hinclusion : ¬ p.isInclusion = true := fun hinclusion =>
    (h.isInclusion_iff.mp hinclusion).elim hkept
  rw [apply, if_neg hinclusion]
  refine List.filter_congr fun field _ => ?_
  rw [Bool.eq_iff_iff, Option.isNone_iff_eq_none, h.action?_eq_none_iff, decide_eq_true_eq]

/-- **A second time nothing changes**, if what is kept is in its place after the first time. -/
theorem ReadFrom.apply_apply (hplace : ∀ path, Flagged fs path true → Path.StaysInPlace path)
    (d : Document) : p.apply (p.apply d) = p.apply d := by
  cases hinclusion : p.isInclusion with
  | true =>
    have htake : ∀ result, ∀ field ∈ p.fields,
        takeField (p.apply d) result field = takeField d result field := by
      rintro result ⟨path, action⟩ hfield
      obtain ⟨b, hb, rfl⟩ := (mem_fields_iff h.fields).mp hfield
      refine takeField_congr (fun source hsource => ?_) result
      cases b with
      | true =>
        obtain rfl := Option.some.inj hsource
        exact h.get?_of_kept hfree hb (hplace path hb) d
      | false => cases hsource
    have hstart : p.start (p.apply d) = p.start d := by
      unfold start
      split
      · rfl
      · next hkept =>
        have hid : ¬ Flagged fs "_id" false := fun hleft =>
          hkept (h.action?_of_flagged hfree hleft)
        rw [h.id?_apply hfree hid]
    have hagain : p.apply (p.apply d) =
        p.fields.foldl (takeField (p.apply d)) (p.start (p.apply d)) := if_pos hinclusion
    rw [hagain, hstart, List.foldl_ext _ _ _ htake]
    exact (if_pos hinclusion).symm
  | false =>
    have happly : ∀ d, p.apply d = ⟨d.fields.filter fun field => (p.action? field.1).isNone⟩ :=
      fun d => if_neg (by simp [hinclusion])
    rw [happly, happly, List.filter_filter]
    simp only [Bool.and_self]

end

/-- What flags mean, for a document and what a projection makes of it. -/
structure HonoursFlags (fs : Fields Value) (d out : Document) : Prop where
  included : ∀ path, Flagged fs path true → Path.StaysInPlace path → out.get? path = d.get? path
  excluded : ∀ path, Flagged fs path false → Path.IsPlain path → out.get? path = none
  id : ¬ Flagged fs "_id" false → out.id? = d.id?
  /-- Where a path is included, nothing else is kept but the `_id`. -/
  only : (∃ path, Flagged fs path true) → ∀ name, ¬ Flagged fs name true → name ≠ "_id" →
    out.field? name = none
  /-- Where no path is included, the fields that have no flag stay as they are. -/
  others : (∀ path, ¬ Flagged fs path true) →
    out.fields = d.fields.filter fun field => decide (field.1 ∉ Fields.names fs)

theorem ReadFrom.honoursFlags {p : Projection} {fs : Fields Value} (h : p.ReadFrom fs)
    (hfree : Path.Free (Fields.names fs)) (d : Document) : HonoursFlags fs d (p.apply d) where
  included _ hpath hplace := h.get?_of_kept hfree hpath hplace d
  excluded path hpath hplain := by
    rw [Document.get?_of_isPlain hplain]
    exact h.field?_of_leftOut hfree hpath d
  id hid := h.id?_apply hfree hid d
  only hsome name hname hid := by
    by_cases hleft : Flagged fs name false
    · exact h.field?_of_leftOut hfree hleft d
    · rw [h.field?_of_notMem hfree (h.notMem_names hfree hname hleft),
        if_pos ⟨h.isInclusion_iff.mpr hsome, hid⟩]
  others hkept := h.fields_apply hkept d

end Projection

/-- **Flags mean what their paths say**, for paths of one segment. An accepted `$project` of flags keeps
what included paths lead to and leaves out the excluded ones, keeps the `_id` unless it is excluded, and
where nothing is included leaves all else as it is. If all that is included stays in its place, a second
projection changes nothing. -/
theorem projection_honours_flags {fs : Fields Value} {stage : Stage}
    (hflags : Projection.IsFlags fs) (hfree : Path.Free (Fields.names fs))
    (h : Pipeline.readStage (.object [("$project", .object fs)]) = .ok stage) :
    (∀ ds, List.Forall₂ (Projection.HonoursFlags fs) ds (stage.run ds)) ∧
      ((∀ path, Projection.Flagged fs path true → Path.StaysInPlace path) →
        ∀ ds, stage.run (stage.run ds) = stage.run ds) := by
  have hread : (Projection.read (.object fs)).map Stage.project = .ok stage :=
    mapError_eq_ok_iff.mp h
  obtain ⟨p, hp, rfl⟩ := map_eq_ok_iff.mp hread
  have hfrom := Projection.readFrom_of_read hflags hp
  refine ⟨fun ds => ?_, fun hplace ds => ?_⟩
  · show List.Forall₂ _ ds (ds.map p.apply)
    rw [List.forall₂_map_right_iff, List.forall₂_same]
    exact fun d _ => hfrom.honoursFlags hfree d
  · show (ds.map p.apply).map p.apply = ds.map p.apply
    rw [List.map_map]
    exact List.map_congr_left fun d _ => hfrom.apply_apply hfree hplace d

/-- A field and the `_id`, of which a part is kept, beside a field that is not mentioned. -/
theorem projection_honours_flags_of_included :
    let fs : Fields Value := [("name", .bool true), ("_id.n", .ofNat 1)]
    let stage : Stage := .project ⟨[("name", .keep), ("_id.n", .keep)]⟩
    let d : Document := ⟨[("_id", .object [("n", .ofNat 7)]), ("name", .string "Ada"),
      ("age", .ofNat 25)]⟩
    let out : Document := ⟨[("_id", .object [("n", .ofNat 7)]), ("name", .string "Ada"),
      ("_id.n", .ofNat 7)]⟩
    Projection.IsFlags fs ∧ Path.Free (Fields.names fs) ∧
      Pipeline.readStage (.object [("$project", .object fs)]) = .ok stage ∧
      stage.run [d] = [out] ∧ Projection.HonoursFlags fs d out ∧ stage.run [out] = [out] := by
  intro fs stage d out
  have hflags : Projection.IsFlags fs := by
    show ∀ e ∈ fs, e.2.flag?.isSome = true
    decide +kernel
  have hfree : Path.Free (Fields.names fs) := ⟨by decide, by decide +kernel⟩
  have hset : Projection.readAction "_id.n" (.ofNat 1) = .ok .keep :=
    Projection.readAction_of_flag (b := true) (by decide +kernel) _
  have hread : Pipeline.readStage (.object [("$project", .object fs)]) = .ok stage := by
    simp only [Pipeline.readStage, Pipeline.readNamed, Projection.read, fs, Projection.readFields, hset]
    rfl
  have hrun : stage.run [d] = [out] := rfl
  have hplace : ∀ path, Projection.Flagged fs path true → Path.StaysInPlace path := by
    intro path hpath
    have hin : path = "name" ∨ path = "_id.n" := by simpa [fs] using hpath.mem_names
    rcases hin with rfl | rfl
    · exact .inl (by decide)
    · exact .inr (by decide)
  obtain ⟨hhonours, hagain⟩ := projection_honours_flags hflags hfree hread
  have hone := hhonours [d]
  rw [hrun] at hone
  refine ⟨hflags, hfree, hread, hrun, (List.forall₂_cons.mp hone).1, ?_⟩
  have htwo := hagain hplace [d]
  rwa [hrun] at htwo

/-- **A path with a point is missed**: what is to be left out stays, and what is to be kept is not found
where it was, and is gone when it is kept once more. -/
theorem dotted_flags_missed :
    let d : Document := ⟨[("a", .object [("b", .ofNat 1)])]⟩
    let flag (b : Bool) : Value := .object [("$project", .object [("a.b", .bool b)])]
    let leave : Stage := .project ⟨[("a.b", .leaveOut)]⟩
    let keep : Stage := .project ⟨[("a.b", .keep)]⟩
    let out : Document := ⟨[("a.b", .ofNat 1)]⟩
    Pipeline.readStage (flag false) = .ok leave ∧ Pipeline.readStage (flag true) = .ok keep ∧
      d.get? "a.b" = some (.ofNat 1) ∧ leave.run [d] = [d] ∧ keep.run [d] = [out] ∧
      out.get? "a.b" = none ∧ keep.run [out] = [.empty] := by
  intro d flag leave keep out
  exact ⟨rfl, rfl, rfl, rfl, rfl, rfl, rfl⟩

end DocStore
