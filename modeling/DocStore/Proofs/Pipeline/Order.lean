import DocStore.Pipeline.Basic
import DocStore.Proofs.Filter.Comparison
import DocStore.Proofs.Outcome

/-!
# DocStore — the sort by a specification

A sort order compares documents path by path, values of any kinds with each other and with what is
missing. That this is an order at all is seen by giving everything a place (`place`): the rank of its
kind, then its number, then its text. Comparing is comparing places, so it is total and transitive, and
so are its opposite and a list of such comparisons one after the other.

* **`compareOptional_eq`** — comparing is comparing places.
* **`compareOptional_eq_lt_iff`**, **`SortOrder.compare_eq_lt_iff`** — what comes before what.
* **`SortOrder.isPreorder`** — any two documents compare, and comparing is transitive.
* **`SortOrder.stable_sort`** — the sort rearranges the documents into that order and leaves those that
  compare equal as they were.
* **`sort_by_specification`** — the same of the stage that an accepted specification is read as.
-/

namespace DocStore

/-! ## §1 — places -/

/-- Where something stands among all values and what is missing: the rank of its kind, then its number,
then its text. Arrays and objects share one place each. -/
def place : Option Value → Nat × Int × String
  | none => (0, 0, "")
  | some .null => (1, 0, "")
  | some (.number n) => (2, n.value.units, "")
  | some (.string s) => (3, 0, s)
  | some (.object _) => (4, 0, "")
  | some (.array _) => (5, 0, "")
  | some (.bool b) => (6, if b then 1 else 0, "")

/-- The order of places, part by part. -/
def comparePlaces : Option Value → Option Value → Ordering :=
  compareLex (compareOn fun v => (place v).1)
    (compareLex (compareOn fun v => (place v).2.1) (compareOn fun v => (place v).2.2))

theorem compareOptional_eq (v w : Option Value) : compareOptional v w = comparePlaces v w := by
  cases v with
  | none =>
    cases w with
    | none => rfl
    | some w => cases w <;> rfl
  | some v =>
    cases w with
    | none => cases v <;> rfl
    | some w =>
      show v.compareAny w = _
      -- the texts of numbers and of truth values do not differ
      cases v with
      | number m =>
        cases w with
        | number n => exact Ordering.then_eq.symm
        | _ => rfl
      | bool a =>
        cases w with
        | bool b => cases a <;> cases b <;> rfl
        | _ => rfl
      | _ => cases w <;> rfl

instance : Std.TransCmp compareOptional := by
  have h : compareOptional = comparePlaces := funext fun v => funext fun w => compareOptional_eq v w
  rw [h]
  unfold comparePlaces
  infer_instance

/-! ## §2 — documents -/

theorem SortKey.compare_eq (k : SortKey) (a b : Document) :
    k.compare a b = match k.direction with
      | .ascending => compareOptional (a.get? k.path) (b.get? k.path)
      | .descending => compareOptional (b.get? k.path) (a.get? k.path) := by
  unfold SortKey.compare
  cases k.direction with
  | ascending => rfl
  | descending => exact Std.OrientedCmp.eq_swap.symm

instance (k : SortKey) : Std.TransCmp k.compare where
  eq_swap {a b} := by
    rw [k.compare_eq a b, k.compare_eq b a]
    cases k.direction with
    | ascending =>
      dsimp only
      exact Std.OrientedCmp.eq_swap
    | descending =>
      dsimp only
      exact Std.OrientedCmp.eq_swap
  isLE_trans {a b c} hab hbc := by
    rw [k.compare_eq] at hab hbc ⊢
    cases hdirection : k.direction with
    | ascending =>
      simp only [hdirection] at hab hbc ⊢
      exact Std.TransCmp.isLE_trans hab hbc
    | descending =>
      simp only [hdirection] at hab hbc ⊢
      exact Std.TransCmp.isLE_trans hbc hab

instance SortOrder.instTransCmp (order : SortOrder) : Std.TransCmp order.compare := by
  induction order with
  | nil =>
    exact { eq_swap := rfl, isLE_trans := fun _ _ => rfl }
  | cons k ks ih =>
    -- the first path decides, and the others where it does not
    have h : SortOrder.compare (k :: ks) = compareLex k.compare (SortOrder.compare ks) := rfl
    rw [h]
    infer_instance

/-! ## §3 — what comes before what -/

/-- Something comes before something else: what is missing before any value, a value before those of
later kinds and before those of its kind that it precedes. -/
inductive Lower : Option Value → Option Value → Prop
  | missing (v : Value) : Lower none (some v)
  | kinds {v w : Value} (h : v.kindRank < w.kindRank) : Lower (some v) (some w)
  | values {v w : Value} (h : v.Precedes w) : Lower (some v) (some w)

/-- One document comes before another by a path: upwards or downwards. -/
def SortKey.Puts (k : SortKey) (a b : Document) : Prop :=
  match k.direction with
  | .ascending => Lower (a.get? k.path) (b.get? k.path)
  | .descending => Lower (b.get? k.path) (a.get? k.path)

/-- One document comes before another by several paths: by the first one by which one of them comes
before the other. -/
inductive SortOrder.Puts : SortOrder → Document → Document → Prop
  | here {k : SortKey} {ks : SortOrder} {a b : Document} (h : k.Puts a b) : Puts (k :: ks) a b
  | later {k : SortKey} {ks : SortOrder} {a b : Document} (hab : ¬ k.Puts a b) (hba : ¬ k.Puts b a)
      (h : Puts ks a b) : Puts (k :: ks) a b

theorem Value.Comparable.kindRank_eq {v w : Value} (h : v.Comparable w) : v.kindRank = w.kindRank := by
  cases h <;> rfl

theorem Value.compareAny_eq_lt_iff {v w : Value} :
    v.compareAny w = .lt ↔ v.kindRank < w.kindRank ∨ v.Precedes w := by
  unfold compareAny
  split
  · next o ho =>
    -- of one kind, so the ranks say nothing
    have hrank := (comparable_iff.mp ⟨o, ho⟩).kindRank_eq
    rw [← compare?_eq_lt_iff, ho, Option.some.injEq, hrank]
    exact (or_iff_right (Nat.lt_irrefl _)).symm
  · next hnone =>
    rw [Std.compare_eq_lt, ← compare?_eq_lt_iff, hnone]
    simp

theorem compareOptional_eq_lt_iff {v w : Option Value} :
    compareOptional v w = .lt ↔ Lower v w := by
  constructor
  · intro h
    cases v with
    | none =>
      cases w with
      | none => cases h
      | some w => exact .missing w
    | some v =>
      cases w with
      | none => cases h
      | some w =>
        rcases Value.compareAny_eq_lt_iff.mp h with hrank | hvalues
        · exact .kinds hrank
        · exact .values hvalues
  · intro h
    cases h with
    | missing v => rfl
    | kinds h => exact Value.compareAny_eq_lt_iff.mpr (.inl h)
    | values h => exact Value.compareAny_eq_lt_iff.mpr (.inr h)

theorem SortKey.compare_eq_lt_iff {k : SortKey} {a b : Document} :
    k.compare a b = .lt ↔ k.Puts a b := by
  rw [k.compare_eq, Puts]
  cases k.direction <;> exact compareOptional_eq_lt_iff

theorem SortKey.compare_eq_eq_iff {k : SortKey} {a b : Document} :
    k.compare a b = .eq ↔ ¬ k.Puts a b ∧ ¬ k.Puts b a := by
  have hgt : k.compare b a = .lt ↔ k.compare a b = .gt := Std.OrientedCmp.gt_iff_lt.symm
  rw [← compare_eq_lt_iff, ← compare_eq_lt_iff, hgt]
  cases k.compare a b <;> simp

/-- **What comes before what.** Induction on the paths. -/
theorem SortOrder.compare_eq_lt_iff {order : SortOrder} {a b : Document} :
    order.compare a b = .lt ↔ order.Puts a b := by
  induction order with
  | nil =>
    constructor
    · intro h; cases h
    · intro h; cases h
  | cons k ks ih =>
    rw [SortOrder.compare, Ordering.then_eq_lt, SortKey.compare_eq_lt_iff, SortKey.compare_eq_eq_iff, ih]
    constructor
    · rintro (h | ⟨⟨hab, hba⟩, h⟩)
      · exact .here h
      · exact .later hab hba h
    · intro h
      cases h with
      | here h => exact .inl h
      | later hab hba h => exact .inr ⟨⟨hab, hba⟩, h⟩

/-! ## §4 — the sort -/

namespace SortOrder

/-- A comparison of documents in which any two compare, turning them round turns the answer round, and
what comes before what is handed on; what comes before what is as the paths say. -/
structure IsPreorder (order : SortOrder) : Prop where
  puts : ∀ a b, order.compare a b = .lt ↔ order.Puts a b
  swap : ∀ a b, order.compare b a = (order.compare a b).swap
  total : ∀ a b, order.le a b = true ∨ order.le b a = true
  trans : ∀ a b c, order.le a b = true → order.le b c = true → order.le a c = true

/-- Documents in order: the same ones, none before one that it comes after, and those that compare equal
to one of them as they stood. -/
structure StablySorted (order : SortOrder) (ds sorted : List Document) : Prop where
  perm : sorted.Perm ds
  ordered : sorted.Pairwise fun a b => order.le a b = true
  stable : ∀ d, sorted.filter (order.compare d · == .eq) = ds.filter (order.compare d · == .eq)

theorem le_iff {order : SortOrder} {a b : Document} :
    order.le a b = true ↔ (order.compare a b).isLE = true := by
  unfold le
  cases order.compare a b <;> decide

theorem isPreorder (order : SortOrder) : order.IsPreorder where
  puts _ _ := compare_eq_lt_iff
  swap _ _ := Std.OrientedCmp.eq_swap
  total a b := by
    have hswap : order.compare b a = (order.compare a b).swap := Std.OrientedCmp.eq_swap
    rw [le_iff, le_iff, hswap]
    cases order.compare a b <;> decide
  trans a b c hab hbc := by
    rw [le_iff] at hab hbc ⊢
    exact Std.TransCmp.isLE_trans hab hbc

/-- Documents that compare equal to one document are in order as they stand. -/
theorem pairwise_filter_eq (order : SortOrder) (d : Document) (ds : List Document) :
    (ds.filter (order.compare d · == .eq)).Pairwise fun a b => order.le a b = true := by
  refine List.pairwise_filter.mpr (List.pairwise_of_forall fun a b hda hdb => ?_)
  -- both compare equal to `d`, so they do to each other
  rw [le_iff, ← Std.TransCmp.congr_left (beq_iff_eq.mp hda), beq_iff_eq.mp hdb]
  rfl

theorem stable_sort (order : SortOrder) (ds : List Document) :
    order.StablySorted ds (order.sort ds) := by
  have htotal : ∀ a b, (order.le a b || order.le b a) = true := fun a b =>
    Bool.or_eq_true_iff.mpr (order.isPreorder.total a b)
  have hperm : (order.sort ds).Perm ds := List.mergeSort_perm ds order.le
  refine ⟨hperm, List.pairwise_mergeSort order.isPreorder.trans htotal ds, fun d => ?_⟩
  -- those that are equal are in order already, so merging keeps them as they stand
  have hkept : (ds.filter (order.compare d · == .eq)).Sublist (order.sort ds) :=
    List.sublist_mergeSort order.isPreorder.trans htotal (order.pairwise_filter_eq d ds)
      List.filter_sublist
  have hwithin := hkept.filter (order.compare d · == .eq)
  rw [List.filter_filter] at hwithin
  simp only [Bool.and_self] at hwithin
  exact (hwithin.eq_of_length (hperm.filter _).length_eq.symm).symm

/-- In order, the first document stands before all of them. -/
theorem le_of_mem {order : SortOrder} {a b : Document} {s : List Document}
    (hs : (a :: s).Pairwise fun a b => order.le a b = true) (hb : b ∈ a :: s) :
    order.le a b = true := by
  rcases List.mem_cons.mp hb with rfl | hin
  · exact (order.isPreorder.total b b).elim id id
  · exact (List.pairwise_cons.mp hs).1 b hin

end SortOrder

/-! ## §5 — specifications -/

/-- The operand that a direction is written as. -/
def Direction.written : Direction → Value
  | ascending => .ofInt 1
  | descending => .ofInt (-1)

/-- The operand of `$sort` that a sort order is written as. -/
def SortOrder.written (order : SortOrder) : Value :=
  .object (order.map fun k => (k.path, k.direction.written))

theorem Value.eq_ofInt_of_asInt? {v : Value} {n : Int} (h : v.asInt? = some n) : v = .ofInt n := by
  unfold asInt? at h
  split at h
  · split at h
    · rw [Option.some.inj h]
      rfl
    · cases h
  · cases h

theorem SortOrder.readDirection_eq_ok {v : Value} {direction : Direction}
    (h : readDirection v = .ok direction) : v = direction.written := by
  unfold readDirection at h
  split at h
  · next hone =>
    obtain rfl := Except.ok.inj h
    exact Value.eq_ofInt_of_asInt? hone
  · next hminus =>
    obtain rfl := Except.ok.inj h
    exact Value.eq_ofInt_of_asInt? hminus
  · cases h

/-- Paths and directions are read off an object one by one. Induction on its entries. -/
theorem SortOrder.readKeys_eq_ok {fs : Fields Value} {order : SortOrder}
    (h : readKeys fs = .ok order) : fs = order.map fun k => (k.path, k.direction.written) := by
  induction fs generalizing order with
  | nil => cases h; rfl
  | cons e rest ih =>
    obtain ⟨path, v⟩ := e
    obtain ⟨direction, hdirection, h⟩ := ok_of_bind h
    obtain ⟨keys, hkeys, h⟩ := ok_of_bind h
    obtain rfl := Except.ok.inj h
    rw [readDirection_eq_ok hdirection, ih hkeys]
    rfl

theorem SortOrder.read_eq_ok {spec : Value} {order : SortOrder} (h : read spec = .ok order) :
    order ≠ [] ∧ spec = order.written := by
  unfold read at h
  split at h
  · cases h
  · next fs hfs =>
    have hkeys := readKeys_eq_ok h
    refine ⟨?_, congrArg Value.object hkeys⟩
    rintro rfl
    exact hfs hkeys
  · cases h

/-- **The sort by a specification.** An accepted `$sort` lists some paths with a direction each. Any two
documents compare by them, and comparing is transitive; its stage puts documents into that order and
leaves those that compare equal as they were. -/
theorem sort_by_specification {spec : Value} {stage : Stage}
    (h : Pipeline.readStage (.object [("$sort", spec)]) = .ok stage) :
    ∃ order : SortOrder, order ≠ [] ∧ spec = order.written ∧ order.IsPreorder ∧
      ∀ ds, order.StablySorted ds (stage.run ds) := by
  have hread : (SortOrder.read spec).map Stage.sort = .ok stage := mapError_eq_ok_iff.mp h
  obtain ⟨order, horder, rfl⟩ := map_eq_ok_iff.mp hread
  obtain ⟨hne, hspec⟩ := SortOrder.read_eq_ok horder
  exact ⟨order, hne, hspec, order.isPreorder, order.stable_sort⟩

/-- Downwards by a path into an embedded document, then upwards by a field that may be missing. -/
theorem sort_by_specification_of_two_paths :
    let spec : Value := .object [("at.x", .ofInt (-1)), ("n", .ofInt 1)]
    let stage : Stage := .sort [⟨"at.x", .descending⟩, ⟨"n", .ascending⟩]
    Pipeline.readStage (.object [("$sort", spec)]) = .ok stage ∧
      ∃ order : SortOrder, order ≠ [] ∧ spec = order.written ∧ order.IsPreorder ∧
        ∀ ds, order.StablySorted ds (stage.run ds) := by
  intro spec stage
  have hread : Pipeline.readStage (.object [("$sort", spec)]) = .ok stage := rfl
  exact ⟨hread, sort_by_specification hread⟩

end DocStore
