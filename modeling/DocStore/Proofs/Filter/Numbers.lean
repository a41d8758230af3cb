import DocStore.Filter.Reader
import DocStore.Proofs.Binary64.Rounding
import DocStore.Proofs.Filter.Comparison

/-!
# DocStore — numbers beside their exact values

Numbers are compared by their doubles, and the double of a great integer is not the integer. What that
does to comparing is said by exact values (`Number.exact`): no two numbers are compared the wrong way
round, but different ones may be taken for one. They are then beyond `2 ^ 53` and no farther apart than
one part in `2 ^ 53` of their sizes.

* **`Number.units_value`** — the double of a number has the rounded units of its exact value.
* **`Number.comparesAs`** — what an answer of the comparison says of the exact values.
* **`comparison_of_numbers`** — the same with the filters that ask for a number, a greater or a lesser
  one; **`integers_compared_as_equal`** shows two different integers that are taken for one.
-/

namespace DocStore

open Binary64 (Finite nearestUnits unitsPerOne)

namespace Number

/-! ## §1 — exact values -/

/-- The exact value, in units. -/
def exact : Number → Int
  | int n => n * unitsPerOne
  | double x => x.units

theorem int_eq_of_exact {m n : Int} (h : (int m).exact = (int n).exact) : m = n :=
  Int.eq_of_mul_eq_mul_right Binary64.unitsPerOne_ne_zero h

/-- An integer that 64 bits hold, signed or unsigned, or a double. -/
def Fits : Number → Prop
  | int n => -(2 ^ 63) ≤ n ∧ n < 2 ^ 64
  | double _ => True

/-- The exact value is that of a double. -/
def IsDouble (a : Number) : Prop := ∃ x : Finite, x.units = a.exact

theorem units_value {a : Number} (h : a.Fits) : a.value.units = nearestUnits a.exact := by
  cases a with
  | int n =>
    obtain ⟨hleast, hgreatest⟩ := h
    exact Finite.units_ofInt_eq (by omega)
  | double x => exact (Binary64.nearestUnits_units x).symm

theorem IsDouble.units_value {a : Number} (h : a.IsDouble) : a.value.units = a.exact := by
  obtain ⟨x, hx⟩ := h
  cases a with
  | int n => exact Finite.units_ofInt_of_eq hx
  | double x => rfl

/-- Up to `2 ^ 53`, integers are doubles. -/
theorem isDouble_of_le {a : Number} (h : a.exact.natAbs ≤ 2 ^ 53 * unitsPerOne) : a.IsDouble := by
  cases a with
  | int n =>
    refine Binary64.exists_units_eq (Nat.le_of_mul_le_mul_right ?_ Binary64.unitsPerOne_pos)
    rwa [exact, Int.natAbs_mul, Int.natAbs_natCast] at h
  | double x => exact ⟨x, rfl⟩

theorem int_eq_of_sameValue {m n : Int} (hm : (int m).IsDouble) (hn : (int n).IsDouble)
    (h : (int m).sameValue (int n) = true) : m = n := by
  have hunits : (int m).value.units = (int n).value.units := beq_iff_eq.mp h
  rw [hm.units_value, hn.units_value] at hunits
  exact int_eq_of_exact hunits

/-! ## §2 — what a comparison says -/

section

variable {a b : Number}

theorem compare_eq_lt_iff : a.compare b = .lt ↔ a.value.units < b.value.units :=
  Std.compare_eq_lt

theorem compare_eq_eq_iff : a.compare b = .eq ↔ a.value.units = b.value.units :=
  Std.compare_eq_iff_eq

theorem compare_swap : b.compare a = (a.compare b).swap := Std.OrientedOrd.eq_swap

theorem exact_lt_of_compare (ha : a.Fits) (hb : b.Fits) (h : a.compare b = .lt) :
    a.exact < b.exact := by
  rw [compare_eq_lt_iff, units_value ha, units_value hb] at h
  -- rounding would have kept them in order, had they been the other way round
  have hkeeps := @Binary64.nearestUnits_mono b.exact a.exact
  omega

theorem near_of_compare (ha : a.Fits) (hb : b.Fits) (h : a.compare b = .eq) :
    2 ^ 53 * (a.exact - b.exact).natAbs ≤ a.exact.natAbs + b.exact.natAbs := by
  rw [compare_eq_eq_iff, units_value ha, units_value hb] at h
  have hnearA := Binary64.nearestUnits_near a.exact
  have hnearB := Binary64.nearestUnits_near b.exact
  omega

theorem compare_of_isDouble (ha : a.IsDouble) (hb : b.IsDouble) :
    a.compare b = Ord.compare a.exact b.exact := by
  rw [← ha.units_value, ← hb.units_value]
  rfl

/-- A number below `2 ^ 53` is told from every other one: those beyond round to `2 ^ 53` at least. -/
theorem compare_of_lt (ha : a.exact.natAbs < 2 ^ 53 * unitsPerOne) (hb : b.Fits) :
    a.compare b = Ord.compare a.exact b.exact := by
  have hdouble : a.IsDouble := isDouble_of_le (Nat.le_of_lt ha)
  by_cases hle : b.exact.natAbs ≤ 2 ^ 53 * unitsPerOne
  · exact compare_of_isDouble hdouble (isDouble_of_le hle)
  · have hbound : ∀ n : Int, n.natAbs ≤ 2 ^ 53 →
        nearestUnits (n * unitsPerOne) = n * unitsPerOne := by
      intro n hn
      obtain ⟨x, hx⟩ := Binary64.exists_units_eq hn
      rw [← hx, Binary64.nearestUnits_units]
    have hupper := hbound (2 ^ 53) (by decide)
    have hlower := hbound (-(2 ^ 53)) (by decide)
    show Ord.compare a.value.units b.value.units = _
    rw [hdouble.units_value, units_value hb]
    -- what is beyond stays beyond, on its side
    rcases Int.le_total b.exact 0 with hneg | hpos
    · have hbeyond := @Binary64.nearestUnits_mono b.exact (-(2 ^ 53) * unitsPerOne) (by omega)
      rw [Std.compare_eq_gt.mpr (by omega), Std.compare_eq_gt.mpr (by omega)]
    · have hbeyond := @Binary64.nearestUnits_mono (2 ^ 53 * unitsPerOne) b.exact (by omega)
      rw [Std.compare_eq_lt.mpr (by omega), Std.compare_eq_lt.mpr (by omega)]

end

/-- What an order of two numbers, as an answer, says of their exact values. -/
structure ComparesAs (a b : Number) (o : Ordering) : Prop where
  lesser : o = .lt → a.exact < b.exact
  greater : o = .gt → b.exact < a.exact
  /-- Numbers that are taken for one may be different, but then they are near each other. -/
  near : o = .eq → 2 ^ 53 * (a.exact - b.exact).natAbs ≤ a.exact.natAbs + b.exact.natAbs
  /-- Doubles, and any number beside one below `2 ^ 53`, are in the order of the exact values. -/
  exact : (a.IsDouble ∧ b.IsDouble) ∨ a.exact.natAbs < 2 ^ 53 * unitsPerOne ∨
    b.exact.natAbs < 2 ^ 53 * unitsPerOne → o = Ord.compare a.exact b.exact

theorem comparesAs {a b : Number} (ha : a.Fits) (hb : b.Fits) : a.ComparesAs b (a.compare b) where
  lesser h := exact_lt_of_compare ha hb h
  greater h := by
    refine exact_lt_of_compare hb ha ?_
    rw [compare_swap, h]
    rfl
  near h := near_of_compare ha hb h
  exact h := by
    rcases h with ⟨hda, hdb⟩ | hlt | hlt
    · exact compare_of_isDouble hda hdb
    · exact compare_of_lt hlt hb
    · rw [compare_swap, compare_of_lt hlt ha]
      exact Std.OrientedOrd.eq_swap.symm

theorem sameValue_iff {a b : Number} : a.sameValue b = true ↔ a.compare b = .eq := by
  rw [compare_eq_eq_iff]
  exact beq_iff_eq

end Number

/-! ## §3 — filters on a number -/

/-- A value is a filter, which accepts a document exactly if something holds. -/
def Filter.Says (v : Value) (d : Document) (p : Prop) : Prop :=
  ∃ f, Filter.ofValue v = .ok f ∧ (f.accepts d = true ↔ p)

/-- The filters that ask for a number at a path, for a greater one and for a lesser one go by an order. -/
structure FiltersGoBy (path : String) (b : Number) (d : Document) (o : Ordering) : Prop where
  equal : Filter.Says (.object [(path, .number b)]) d (o = .eq)
  greater : Filter.Says (.object [(path, .object [("$gt", .number b)])]) d (o = .gt)
  lesser : Filter.Says (.object [(path, .object [("$lt", .number b)])]) d (o = .lt)

namespace Filter

/-- A filter on one path is accepted when its condition is, and then goes by the value there. -/
theorem says_of_condition {path : String} {condition : Value} {t : FieldTest} {d : Document} {p : Prop}
    (hpath : isOperatorName path = false) (hread : FieldTest.ofValue condition = .ok [t])
    (ht : t.holds (d.get? path) = true ↔ p) : Says (.object [(path, condition)]) d p := by
  refine ⟨.every [.field path [t]], ?_, ?_⟩
  · simp only [ofValue, read, readEntries, hpath, hread]
    rfl
  · simp only [accepts, allMatch, FieldTest.allHold, Bool.and_true]
    exact ht

end Filter

theorem filtersGoBy_compare {path : String} {a b : Number} {d : Document}
    (hpath : isOperatorName path = false) (hd : d.get? path = some (.number a)) :
    FiltersGoBy path b d (a.compare b) := by
  constructor
  · refine Filter.says_of_condition hpath (t := .eq (.number b)) rfl ?_
    rw [hd, ← Number.sameValue_iff]
    simp only [FieldTest.holds, FieldTest.holdsEq, Value.equalsOrContains, Value.same, Bool.or_false]
  · refine Filter.says_of_condition hpath (t := .gt (.number b)) rfl ?_
    rw [hd]
    simp only [FieldTest.holds, FieldTest.holdsOrder, Value.compare?, Option.any_some, beq_iff_eq]
  · refine Filter.says_of_condition hpath (t := .lt (.number b)) rfl ?_
    rw [hd]
    simp only [FieldTest.holds, FieldTest.holdsOrder, Value.compare?, Option.any_some, beq_iff_eq]

/-- **The comparison of numbers.** Any two numbers of 64 bits compare, never the wrong way round, and in
the order of their exact values where one of them is below `2 ^ 53` or both are doubles; beyond, different
numbers may be taken for one. Filters for a number, a greater and a lesser one go by this comparison. -/
theorem comparison_of_numbers {a b : Number} (ha : a.Fits) (hb : b.Fits) :
    ∃ o, Value.compare? (.number a) (.number b) = some o ∧ a.ComparesAs b o ∧
      ∀ path d, isOperatorName path = false → d.get? path = some (.number a) →
        FiltersGoBy path b d o :=
  ⟨a.compare b, rfl, Number.comparesAs ha hb, fun _ _ => filtersGoBy_compare⟩

/-- The first integer that is no double, beside the greatest one of 64 bits. -/
theorem comparison_of_numbers_of_great_integers :
    let a : Number := .int (2 ^ 53 + 1)
    let b : Number := .int (2 ^ 64 - 1)
    let d : Document := ⟨[("n", .number a)]⟩
    a.Fits ∧ b.Fits ∧ ∃ o, Value.compare? (.number a) (.number b) = some o ∧ a.ComparesAs b o ∧
      FiltersGoBy "n" b d o := by
  intro a b d
  have ha : a.Fits := ⟨by decide, by decide⟩
  have hb : b.Fits := ⟨by decide, by decide⟩
  obtain ⟨o, ho, hcompares, hfilters⟩ := comparison_of_numbers ha hb
  exact ⟨ha, hb, o, ho, hcompares, hfilters "n" d (by decide) rfl⟩

/-- **Two integers may be taken for one**: a filter for `2 ^ 53 + 1` accepts a document that holds
`2 ^ 53`, and neither of them is greater for a filter. -/
theorem integers_compared_as_equal :
    let a : Number := .int (2 ^ 53)
    let b : Number := .int (2 ^ 53 + 1)
    let d : Document := ⟨[("f", .number a)]⟩
    let f : Filter := .every [.field "f" [.eq (.number b)]]
    let less : Filter := .every [.field "f" [.lt (.number b)]]
    a.Fits ∧ b.Fits ∧ a.exact < b.exact ∧ Value.compare? (.number a) (.number b) = some .eq ∧
      Filter.ofValue (.object [("f", .number b)]) = .ok f ∧ f.accepts d = true ∧
      Filter.ofValue (.object [("f", .object [("$lt", .number b)])]) = .ok less ∧
      less.accepts d = false := by
  intro a b d f less
  have hexact : a.exact < b.exact := by decide +kernel
  have hequal : Value.compare? (.number a) (.number b) = some .eq := by decide +kernel
  have haccepts : f.accepts d = true := by decide +kernel
  have hless : less.accepts d = false := by decide +kernel
  exact ⟨⟨by decide, by decide⟩, ⟨by decide, by decide⟩, hexact, hequal, rfl, haccepts, rfl, hless⟩

end DocStore
