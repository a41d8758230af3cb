import DocStore.Proofs.Pipeline.Groups
import DocStore.Proofs.Pipeline.Order
import Mathlib.Data.List.Basic

/-!
# DocStore — extremes and the sort

`$min` and `$max` go through the values once and keep the better one of two, while `$sort` puts all
documents in order. Both end at the same value: the first one of those that come first. Of the sort that
is said of documents (`SortOrder.head_sort`), of the accumulators of values (`Accumulator.IsFirstBest`).

* **`Accumulator.foldl_better_eq`** — keeping the better one of two finds the first of the best.
* **`SortOrder.head_sort`** — so does the sort, since it is stable.
* **`Accumulator.extreme_of_sort`** — an extreme is the first value of the sorted documents.
* **`extremes_are_first_when_sorted`** — the same of accumulators and sorts as they are written.
-/

namespace DocStore

/-! ## §1 — the first of the best -/

namespace Accumulator

/-- The first of the best values: it beats all before it, and none behind it beats it. -/
def IsFirstBest (wanted : Ordering) (v : Value) (vs : List Value) : Prop :=
  ∃ before after, vs = before ++ v :: after ∧ (∀ b ∈ before, v.compareAny b = wanted) ∧
    ∀ a ∈ after, a.compareAny v ≠ wanted

variable {wanted : Ordering}

/-- The best value so far is one of those that have been seen. -/
theorem mem_of_foldl_better {vs : List Value} {best : Option Value} {b : Value}
    (h : vs.foldl (better wanted) best = some b) : b ∈ vs ∨ best = some b := by
  induction vs generalizing best with
  | nil => exact .inr h
  | cons v vs ih =>
    rcases ih h with hin | hbest
    · exact .inl (List.mem_cons_of_mem v hin)
    · unfold better at hbest
      split at hbest
      · split at hbest
        · exact .inl (Option.some.inj hbest ▸ List.mem_cons_self)
        · exact .inr hbest
      · exact .inl (Option.some.inj hbest ▸ List.mem_cons_self)

/-- What is not beaten stays the best. -/
theorem foldl_better_of_forall {v : Value} {vs : List Value}
    (h : ∀ a ∈ vs, a.compareAny v ≠ wanted) : vs.foldl (better wanted) (some v) = some v := by
  induction vs with
  | nil => rfl
  | cons a vs ih =>
    obtain ⟨ha, hvs⟩ := List.forall_mem_cons.mp h
    have hstep : better wanted (some v) a = some v := if_neg ha
    rw [List.foldl_cons, hstep]
    exact ih hvs

/-- **Keeping the better one of two finds the first of the best.** -/
theorem foldl_better_eq {v : Value} {vs : List Value} (h : IsFirstBest wanted v vs) :
    vs.foldl (better wanted) none = some v := by
  obtain ⟨before, after, rfl, hbefore, hafter⟩ := h
  have hstep : better wanted (before.foldl (better wanted) none) v = some v := by
    cases hbest : before.foldl (better wanted) none with
    | none => rfl
    | some b =>
      -- the best before is one of them, and it is beaten
      have hb : b ∈ before := (mem_of_foldl_better hbest).resolve_right nofun
      exact if_pos (hbefore b hb)
  rw [List.foldl_append, List.foldl_cons, hstep]
  exact foldl_better_of_forall hafter

end Accumulator

/-! ## §2 — the first of the sorted documents -/

theorem SortOrder.mem_sort {order : SortOrder} {ds : List Document} {d : Document} :
    d ∈ order.sort ds ↔ d ∈ ds := (order.stable_sort ds).perm.mem_iff

theorem SortOrder.sort_eq_nil_iff {order : SortOrder} {ds : List Document} :
    order.sort ds = [] ↔ ds = [] := by
  rw [← List.length_eq_zero_iff, (order.stable_sort ds).perm.length_eq, List.length_eq_zero_iff]

/-- **The sort begins with the first of those that come first**: all before it come after it in order, and
none behind it comes before it. -/
theorem SortOrder.head_sort {order : SortOrder} {ds rest : List Document} {d : Document}
    (h : order.sort ds = d :: rest) :
    ∃ before after, ds = before ++ d :: after ∧ (∀ b ∈ before, order.compare d b = .lt) ∧
      ∀ a ∈ after, order.compare a d ≠ .lt := by
  obtain ⟨hperm, hordered, hstable⟩ := h ▸ order.stable_sort ds
  have hself : (order.compare d d == .eq) = true := beq_iff_eq.mpr Std.ReflCmp.compare_self
  have hle : ∀ e ∈ ds, (order.compare d e).isLE = true := by
    intro e he
    rw [← le_iff]
    exact le_of_mem hordered (hperm.mem_iff.mpr he)
  have hties := (hstable d).symm.trans (List.filter_cons_of_pos hself)
  obtain ⟨before, after, rfl, hbefore, -, -⟩ := List.filter_eq_cons_iff.mp hties
  refine ⟨before, after, rfl, fun b hb => ?_, fun a ha hlt => ?_⟩
  · have hble := hle b (List.mem_append_left _ hb)
    have hne : order.compare d b ≠ .eq := fun heq => hbefore b hb (beq_iff_eq.mpr heq)
    cases hcompare : order.compare d b with
    | lt => rfl
    | eq => exact absurd hcompare hne
    | gt => rw [hcompare] at hble; cases hble
  · have hale := hle a (List.mem_append_right _ (List.mem_cons_of_mem _ ha))
    rw [Std.OrientedCmp.gt_iff_lt.mpr hlt] at hale
    cases hale

/-! ## §3 — extremes -/

/-- There is a value at a path, and it is not null. -/
def Document.hasValue (path : String) (d : Document) : Bool := (d.get? path).any (!·.isNull)

/-- What comes first where documents are sorted in a direction. -/
theorem Direction.orient_eq_lt_iff {direction : Direction} {o : Ordering} :
    direction.orient o = .lt ↔ o = direction.orient .lt := by
  cases direction <;> cases o <;> decide

theorem SortOrder.compare_eq_lt_iff_of_get? {path : String} {direction : Direction} {a b : Document}
    {v w : Value} (ha : a.get? path = some v) (hb : b.get? path = some w) :
    SortOrder.compare [⟨path, direction⟩] a b = .lt ↔ v.compareAny w = direction.orient .lt := by
  rw [← Direction.orient_eq_lt_iff]
  simp only [SortOrder.compare, SortKey.compare, Ordering.then_eq, ha, hb, compareOptional]

namespace Accumulator

variable {path : String} {direction : Direction}

theorem filter_valuesAt (ds : List Document) :
    (valuesAt path ds).filter (!·.isNull) =
      (ds.filter (·.hasValue path)).filterMap (·.get? path) := by
  unfold valuesAt
  rw [List.filter_filterMap, List.filterMap_filter]
  refine List.filterMap_congr fun d _ => ?_
  unfold Document.hasValue
  cases d.get? path <;> rfl

/-- What sorted documents begin with has the first of the best values. -/
theorem isFirstBest_of_sort {ds rest : List Document} {d : Document} {v : Value}
    (hsort : SortOrder.sort [⟨path, direction⟩] ds = d :: rest) (hv : d.get? path = some v) :
    IsFirstBest (direction.orient .lt) v (ds.filterMap (·.get? path)) := by
  obtain ⟨before, after, rfl, hbefore, hafter⟩ := SortOrder.head_sort hsort
  refine ⟨before.filterMap (·.get? path), after.filterMap (·.get? path), ?_, ?_, ?_⟩
  · rw [List.filterMap_append, List.filterMap_cons, hv]
  · intro w hw
    obtain ⟨b, hb, hw⟩ := List.mem_filterMap.mp hw
    exact (SortOrder.compare_eq_lt_iff_of_get? hv hw).mp (hbefore b hb)
  · intro w hw hbeats
    obtain ⟨a, ha, hw⟩ := List.mem_filterMap.mp hw
    exact hafter a ha ((SortOrder.compare_eq_lt_iff_of_get? hw hv).mpr hbeats)

/-- **An extreme is the value that sorted documents begin with**, of those that have a value. -/
theorem extreme_of_sort {ds rest : List Document} {d : Document}
    (hsort : SortOrder.sort [⟨path, direction⟩] (ds.filter (·.hasValue path)) = d :: rest) :
    d.get? path = some (extreme (direction.orient .lt) path ds) := by
  have hd : d ∈ ds.filter (·.hasValue path) := by
    rw [← SortOrder.mem_sort, hsort]
    exact List.mem_cons_self
  obtain ⟨v, hv, -⟩ := (Option.any_eq_true _ _).mp (List.mem_filter.mp hd).2
  unfold extreme
  rw [hv, filter_valuesAt, foldl_better_eq (isFirstBest_of_sort hsort hv)]
  rfl

/-- What an accumulator makes of documents by their values at a path: the first value when those that
have one are sorted by a stage, which is the first of the best ones, or null if there is none. -/
structure IsFirstWhenSorted (path : String) (wanted : Ordering) (a pick : Accumulator) (stage : Stage)
    (ds : List Document) : Prop where
  value : a.compute ds = pick.compute (stage.run (ds.filter (·.hasValue path)))
  best : ds.filter (·.hasValue path) ≠ [] →
    IsFirstBest wanted (a.compute ds) ((ds.filter (·.hasValue path)).filterMap (·.get? path))
  null : ds.filter (·.hasValue path) = [] → a.compute ds = .null

theorem isFirstWhenSorted (direction : Direction) {a : Accumulator}
    (ha : ∀ ds, a.compute ds = extreme (direction.orient .lt) path ds) (ds : List Document) :
    IsFirstWhenSorted path (direction.orient .lt) a (first path) (.sort [⟨path, direction⟩]) ds := by
  cases hsort : SortOrder.sort [⟨path, direction⟩] (ds.filter (·.hasValue path)) with
  | nil =>
    have hnone := SortOrder.sort_eq_nil_iff.mp hsort
    have hnull : a.compute ds = .null := by
      rw [ha, extreme, filter_valuesAt, hnone]
      rfl
    refine ⟨?_, fun hsome => absurd hnone hsome, fun _ => hnull⟩
    show _ = valueOf path (SortOrder.sort _ _).head?
    rw [hsort, hnull]
    rfl
  | cons d rest =>
    have hd := extreme_of_sort hsort
    rw [← ha] at hd
    refine ⟨?_, fun _ => isFirstBest_of_sort hsort hd, fun hnone => ?_⟩
    · show _ = valueOf path (SortOrder.sort _ _).head?
      rw [hsort]
      show _ = (d.get? path).getD .null
      rw [hd]
      rfl
    · rw [SortOrder.sort_eq_nil_iff.mpr hnone] at hsort
      cases hsort

end Accumulator

/-- **Extremes are first when documents are sorted.** `$min` of a path is what `$first` is of the
documents that have a value there, sorted upwards by it, and `$max` when they are sorted downwards; of
values that compare equal both pick the earliest, and both are null if no document has a value. -/
theorem extremes_are_first_when_sorted (name path : String) :
    ∃ (least greatest pick : Accumulator) (upwards downwards : Stage),
      Grouping.readAccumulator name (.object [("$min", .string ("$" ++ path))]) = .ok least ∧
      Grouping.readAccumulator name (.object [("$max", .string ("$" ++ path))]) = .ok greatest ∧
      Grouping.readAccumulator name (.object [("$first", .string ("$" ++ path))]) = .ok pick ∧
      Pipeline.readStage (.object [("$sort", .object [(path, .ofInt 1)])]) = .ok upwards ∧
      Pipeline.readStage (.object [("$sort", .object [(path, .ofInt (-1))])]) = .ok downwards ∧
      ∀ ds, Accumulator.IsFirstWhenSorted path .lt least pick upwards ds ∧
        Accumulator.IsFirstWhenSorted path .gt greatest pick downwards ds := by
  refine ⟨.min path, .max path, .first path, .sort [⟨path, .ascending⟩], .sort [⟨path, .descending⟩],
    ?_, ?_, ?_, rfl, rfl, fun ds => ⟨?_, ?_⟩⟩
  · simp only [Grouping.readAccumulator, Grouping.readOperator, Grouping.reference?_string]
  · simp only [Grouping.readAccumulator, Grouping.readOperator, Grouping.reference?_string]
  · simp only [Grouping.readAccumulator, Grouping.readOperator, Grouping.reference?_string]
  · exact Accumulator.isFirstWhenSorted .ascending (fun _ => rfl) ds
  · exact Accumulator.isFirstWhenSorted .descending (fun _ => rfl) ds

/-- Objects compare equal, and the earliest one is both the least and the greatest. -/
example :
    let ds : List Document := [⟨[("f", .null)]⟩, ⟨[("f", .object [("a", .null)])]⟩, ⟨[]⟩,
      ⟨[("f", .object [])]⟩]
    (Accumulator.min "f").compute ds = .object [("a", .null)] ∧
      (Accumulator.max "f").compute ds = .object [("a", .null)] :=
  ⟨rfl, rfl⟩

end DocStore
