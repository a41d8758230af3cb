import DocStore.Proofs.Binary64.Arithmetic
import DocStore.Proofs.Filter.Numbers
import DocStore.Proofs.Pipeline.Groups
import Mathlib.Algebra.BigOperators.Ring.List
import Mathlib.Algebra.Order.BigOperators.Group.List
import Mathlib.Algebra.Order.Group.Nat

/-!
# DocStore — sums of integers

`$sum` adds doubles and makes an integer of a whole result below `2 ^ 63`. A sum of integers is therefore
exact as long as they are doubles and the running total stays one (`SumsExactly`), which it does while the
sizes of the integers come to `2 ^ 53` at most, and may do far beyond. A constant is multiplied by the
number of documents once, and so is exact under the same condition. Elsewhere both are near what they
should be.

* **`Value.IsTotal`**, **`Value.IsNear`** — a value beside the integer that it should be.
* **`Value.IsRoundedSum`**, **`Value.IsRoundedMultiple`** — all that is said of a sum and of a product.
* **`sums_of_integers`** — the main statement; **`sums_are_rounded`** shows totals of 64 bits that the
  doubles miss, and one that they do not miss but that is no integer in the end.
-/

namespace DocStore

open Binary64 (Finite unitsPerOne)

/-! ## §1 — the value of a sum -/

/-- The integer of a double is the one of the same value. -/
theorem Binary64.Finite.toInt?_eq_some_iff {x : Finite} {n : Int} :
    x.toInt? = some n ↔ x.units = n * unitsPerOne := by
  unfold toInt?
  constructor
  · intro h
    split at h
    · next hwhole =>
      have hmagnitude : ((x.magnitude / unitsPerOne : Nat) * unitsPerOne : Int) = x.magnitude := by
        exact_mod_cast Nat.div_mul_cancel (Nat.dvd_of_mod_eq_zero hwhole)
      obtain rfl := Option.some.inj h
      unfold units
      split
      · rw [Int.neg_mul, hmagnitude]
      · exact hmagnitude.symm
    · cases h
  · intro h
    have hmagnitude : x.magnitude = n.natAbs * unitsPerOne := by
      rw [← x.natAbs_units, h, Int.natAbs_mul, Int.natAbs_natCast]
    have hsign : (if x.negative then -(n.natAbs : Int) else n.natAbs) = n := by
      refine Int.eq_of_mul_eq_mul_right Binary64.unitsPerOne_ne_zero (Eq.trans ?_ h)
      unfold units
      rw [hmagnitude]
      generalize unitsPerOne = one
      cases x.negative <;> simp
    rw [hmagnitude, Nat.mul_mod_left, if_pos rfl, Nat.mul_div_cancel _ Binary64.unitsPerOne_pos]
    exact congrArg some hsign

/-- A value is this total: as an integer below `2 ^ 63` in size, and beyond as a double. -/
structure Value.IsTotal (v : Value) (n : Int) : Prop where
  integer : n.natAbs < 2 ^ 63 → v = .ofInt n
  double : 2 ^ 63 ≤ n.natAbs → ∃ x : Finite, v = .number (.double x) ∧ x.units = n * unitsPerOne

/-- A value is a number that misses this total by a `2 ^ 51`th of a size at most. -/
def Value.IsNear (v : Value) (n : Int) (size : Nat) : Prop :=
  ∃ r : Number, v = .number r ∧
    2 ^ 51 * (r.exact - n * unitsPerOne).natAbs ≤ size * unitsPerOne

theorem Value.isTotal_ofSum {x : Finite} {n : Int} (h : x.units = n * unitsPerOne) :
    (Value.ofSum (.finite x)).IsTotal n := by
  have hsum : Value.ofSum (.finite x) =
      if n.natAbs < 2 ^ 63 then .number (.int n) else .number (.double x) := by
    rw [ofSum, Binary64.Finite.toInt?_eq_some_iff.mpr h]
  refine ⟨fun hlt => ?_, fun hge => ⟨x, ?_, h⟩⟩
  · rw [hsum, if_pos hlt]
    rfl
  · rw [hsum, if_neg (Nat.not_lt.mpr hge)]

/-- A sum that is finite keeps its exact value. -/
theorem Value.ofSum_finite (x : Finite) :
    ∃ r : Number, Value.ofSum (.finite x) = .number r ∧ r.exact = x.units := by
  cases hint : x.toInt? with
  | none => exact ⟨.double x, by rw [ofSum, hint], rfl⟩
  | some n =>
    by_cases hlt : n.natAbs < 2 ^ 63
    · have hexact : x.units = n * unitsPerOne := Binary64.Finite.toInt?_eq_some_iff.mp hint
      exact ⟨.int n, (isTotal_ofSum hexact).integer hlt, hexact.symm⟩
    · exact ⟨.double x, by rw [ofSum, hint]; exact if_neg hlt, rfl⟩

/-! ## §2 — sums -/

/-- Integers that are doubles, and so is the total after each of them. -/
def SumsExactly (total : Int) : List Int → Prop
  | [] => True
  | n :: ns => (Number.int n).IsDouble ∧ (Number.int (total + n)).IsDouble ∧ SumsExactly (total + n) ns

theorem isDouble_int_of_le {n : Int} (h : n.natAbs ≤ 2 ^ 53) : (Number.int n).IsDouble :=
  Binary64.exists_units_eq h

/-- Integers whose sizes come to `2 ^ 53` at most, with what has been added up before. -/
theorem sumsExactly_of_le {ns : List Int} {total : Int}
    (h : total.natAbs + (ns.map Int.natAbs).sum ≤ 2 ^ 53) : SumsExactly total ns := by
  induction ns generalizing total with
  | nil => trivial
  | cons n ns ih =>
    rw [List.map_cons, List.sum_cons] at h
    have htotal : (total + n).natAbs ≤ total.natAbs + n.natAbs := Int.natAbs_add_le total n
    exact ⟨isDouble_int_of_le (by omega), isDouble_int_of_le (by omega), ih (by omega)⟩

theorem SumsExactly.runsExactly {ns : List Int} {total : Int} (h : SumsExactly total ns) :
    Binary64.RunsExactly (total * unitsPerOne) ((ns.map Finite.ofInt).map Finite.units) := by
  induction ns generalizing total with
  | nil => trivial
  | cons n ns ih =>
    obtain ⟨hn, htotal, hrest⟩ := h
    have hunits : (Finite.ofInt n).units = n * unitsPerOne := hn.units_value
    have hadd : total * unitsPerOne + (Finite.ofInt n).units = (total + n) * unitsPerOne := by
      rw [hunits, Int.add_mul]
    refine ⟨?_, ?_⟩
    · rw [hadd]
      exact htotal
    · rw [hadd]
      exact ih hrest

theorem SumsExactly.sum_units {ns : List Int} {total : Int} (h : SumsExactly total ns) :
    ((ns.map Finite.ofInt).map Finite.units).sum = ns.sum * unitsPerOne := by
  induction ns generalizing total with
  | nil => exact (Int.zero_mul _).symm
  | cons n ns ih =>
    obtain ⟨hn, -, hrest⟩ := h
    have hunits : (Finite.ofInt n).units = n * unitsPerOne := hn.units_value
    rw [List.map_cons, List.map_cons, List.sum_cons, List.sum_cons, hunits, ih hrest, Int.add_mul]

/-- The sum of integers is the exact one where running totals are doubles. -/
theorem isTotal_sum {ns : List Int} (h : SumsExactly 0 ns) :
    (Value.ofSum (Binary64.sum (ns.map Finite.ofInt))).IsTotal ns.sum := by
  have hruns := h.runsExactly
  rw [Int.zero_mul] at hruns
  obtain ⟨s, hs, hunits⟩ := Binary64.sum_exact hruns
  rw [hs]
  exact Value.isTotal_ofSum (hunits.trans h.sum_units)

/-- Integers of 64 bits beside the doubles that they become. -/
theorem forall₂_units_ofInt {ns : List Int} (h : ∀ n ∈ ns, (Number.int n).Fits) :
    List.Forall₂ (fun x u => Binary64.Rounded u x.units) (ns.map Finite.ofInt)
      (ns.map (· * (unitsPerOne : Int))) := by
  rw [List.forall₂_map_left_iff, List.forall₂_map_right_iff, List.forall₂_same]
  intro n hn
  have hunits : (Finite.ofInt n).units = Binary64.nearestUnits (n * unitsPerOne) :=
    Number.units_value (h n hn)
  rw [hunits]
  exact Binary64.rounded_nearestUnits _

/-- Twice what so many integers of 64 bits come to is far below the greatest double. -/
theorem size_lt : 2 * (2 ^ 115 * unitsPerOne) < 2 ^ (53 + 1138) := by
  decide +kernel

/-- So many integers of 64 bits come to so much at most. -/
theorem sum_natAbs_le {ns : List Int} (h : ∀ n ∈ ns, (Number.int n).Fits)
    (hlength : ns.length ≤ 2 ^ 51) : (ns.map Int.natAbs).sum ≤ 2 ^ 115 := by
  have hsizes : ∀ size ∈ ns.map Int.natAbs, size ≤ 2 ^ 64 := by
    intro size hsize
    obtain ⟨n, hn, rfl⟩ := List.mem_map.mp hsize
    obtain ⟨hleast, hgreatest⟩ := h n hn
    omega
  have hsum := List.sum_le_card_nsmul _ _ hsizes
  rw [List.length_map, Nat.nsmul_eq_mul] at hsum
  calc (ns.map Int.natAbs).sum ≤ ns.length * 2 ^ 64 := hsum
    _ ≤ 2 ^ 51 * 2 ^ 64 := Nat.mul_le_mul_right _ hlength
    _ = 2 ^ 115 := by decide

/-- The sum of integers of 64 bits is near the exact one. -/
theorem isNear_sum {ns : List Int} (h : ∀ n ∈ ns, (Number.int n).Fits) (hlength : ns.length ≤ 2 ^ 51) :
    (Value.ofSum (Binary64.sum (ns.map Finite.ofInt))).IsNear ns.sum
      (ns.length * (ns.map Int.natAbs).sum) := by
  have htotal : (ns.map (· * (unitsPerOne : Int))).sum = ns.sum * unitsPerOne := by
    rw [List.sum_map_mul_right, List.map_id']
  have hsizes : ((ns.map (· * (unitsPerOne : Int))).map Int.natAbs).sum =
      (ns.map Int.natAbs).sum * unitsPerOne := by
    rw [List.map_map, ← List.sum_map_mul_right]
    refine congrArg List.sum (List.map_congr_left fun n _ => ?_)
    rw [Function.comp_apply, Int.natAbs_mul, Int.natAbs_natCast]
  have hroom : 2 * ((ns.map (· * (unitsPerOne : Int))).map Int.natAbs).sum < 2 ^ (53 + 1138) := by
    rw [hsizes]
    exact Nat.lt_of_le_of_lt
      (Nat.mul_le_mul_left _ (Nat.mul_le_mul_right _ (sum_natAbs_le h hlength))) size_lt
  obtain ⟨s, hs, hnear, -⟩ := Binary64.sum_near (by decide) (forall₂_units_ofInt h)
    (by rwa [List.length_map]) hroom
  obtain ⟨r, hr, hexact⟩ := Value.ofSum_finite s
  refine ⟨r, by rw [hs, hr], ?_⟩
  rw [htotal, hsizes, List.length_map, ← Nat.mul_assoc] at hnear
  rwa [hexact]

/-! ## §3 — products -/

/-- A product of doubles is the exact one where it is a double. -/
theorem isTotal_mul {c : Int} {count : Nat} (hc : (Number.int c).IsDouble)
    (hcount : (Number.int count).IsDouble) (h : (Number.int (c * count)).IsDouble) :
    (Value.ofSum ((Finite.ofInt c).mul (.ofInt count))).IsTotal (c * count) := by
  obtain ⟨z, hz⟩ := h
  have hx : (Finite.ofInt c).units = c * unitsPerOne := hc.units_value
  have hy : (Finite.ofInt count).units = count * unitsPerOne := hcount.units_value
  have hproduct : z.units = (Finite.ofInt c).units * count := by
    rw [hx, hz, Number.exact, Int.mul_right_comm]
  obtain ⟨p, hp, hunits⟩ := Finite.mul_exact hy hproduct
  rw [hp]
  exact Value.isTotal_ofSum (by rw [hunits, hx, Int.mul_right_comm])

theorem rounded_ofInt_mul {c : Int} (hc : (Number.int c).Fits) (count : Nat) :
    Binary64.Rounded (c * unitsPerOne * count) ((Finite.ofInt c).units * count) := by
  have hx : (Finite.ofInt c).units = Binary64.nearestUnits (c * unitsPerOne) :=
    Number.units_value hc
  unfold Binary64.Rounded
  rw [← Int.sub_mul, Int.natAbs_mul, Int.natAbs_mul, ← Nat.mul_assoc, hx]
  exact Nat.mul_le_mul_right _ (Binary64.nearestUnits_near _)

/-- The product of an integer of 64 bits is near the exact one: the integer is rounded, and so is the
product. -/
theorem isNear_mul {c : Int} {count : Nat} (hc : (Number.int c).Fits) (hle : count ≤ 2 ^ 51) :
    (Value.ofSum ((Finite.ofInt c).mul (.ofInt count))).IsNear (c * count) (c * count).natAbs := by
  have hy : (Finite.ofInt count).units = count * unitsPerOne := Finite.units_ofInt (by omega)
  have hrounded := rounded_ofInt_mul hc count
  have hsize : (c * unitsPerOne * count).natAbs ≤ 2 ^ 115 * unitsPerOne := by
    obtain ⟨hleast, hgreatest⟩ := hc
    have hc : c.natAbs ≤ 2 ^ 64 := by omega
    rw [Int.mul_right_comm, Int.natAbs_mul, Int.natAbs_mul, Int.natAbs_natCast, Int.natAbs_natCast,
      show 2 ^ 115 = 2 ^ 64 * 2 ^ 51 from rfl]
    exact Nat.mul_le_mul_right _ (Nat.mul_le_mul hc hle)
  have hlarge : ((Finite.ofInt c).units * count).natAbs ≤ 2 * (2 ^ 115 * unitsPerOne) := by
    unfold Binary64.Rounded at hrounded
    omega
  have hscale : Binary64.scale ((Finite.ofInt c).units * count).natAbs ≤ 2044 :=
    Nat.le_trans (Binary64.scale_le_of_lt (Nat.lt_of_le_of_lt hlarge size_lt)) (by decide)
  obtain ⟨p, hp, hnearest⟩ := Finite.mul_eq hy hscale
  obtain ⟨r, hr, hexact⟩ := Value.ofSum_finite p
  refine ⟨r, by rw [hp, hr], ?_⟩
  have hunits : (c * count).natAbs * unitsPerOne = (c * unitsPerOne * count).natAbs := by
    rw [Int.mul_right_comm, Int.natAbs_mul _ (unitsPerOne : Int), Int.natAbs_natCast]
  rw [hexact, hunits, Int.mul_right_comm]
  exact hrounded.twice (hnearest ▸ Binary64.rounded_nearestUnits _)

/-! ## §4 — accumulators -/

/-- The integer that a value is. -/
def Value.integer? : Value → Option Int
  | .number (.int n) => some n
  | _ => none

namespace Accumulator

/-- The integers at a path; documents without a number there have none. -/
def integersAt (path : String) (ds : List Document) : List Int :=
  (valuesAt path ds).filterMap Value.integer?

/-- The numbers at a path are integers of 64 bits. -/
def OnlyIntegers (path : String) (ds : List Document) : Prop :=
  ∀ d ∈ ds, ∀ r, d.get? path = some (.number r) → ∃ n, r = .int n ∧ r.Fits

variable {path : String} {ds : List Document}

theorem numbersAt_eq (h : OnlyIntegers path ds) :
    numbersAt path ds = (integersAt path ds).map Finite.ofInt := by
  unfold numbersAt integersAt
  rw [List.map_filterMap]
  refine List.filterMap_congr fun v hv => ?_
  obtain ⟨d, hd, hget⟩ := List.mem_filterMap.mp hv
  cases v with
  | number r =>
    obtain ⟨n, rfl, -⟩ := h d hd r hget
    rfl
  | _ => rfl

theorem fits_of_mem_integersAt (h : OnlyIntegers path ds) :
    ∀ n ∈ integersAt path ds, (Number.int n).Fits := by
  intro n hn
  obtain ⟨v, hv, hinteger⟩ := List.mem_filterMap.mp hn
  obtain ⟨d, hd, hget⟩ := List.mem_filterMap.mp hv
  cases v with
  | number r =>
    obtain ⟨m, rfl, hfits⟩ := h d hd r hget
    obtain rfl : m = n := Option.some.inj hinteger
    exact hfits
  | _ => cases hinteger

end Accumulator

/-- A value is the sum of integers: without an error where they and their running totals are doubles, so
where their sizes come to `2 ^ 53` at most, and with a small one for up to `2 ^ 51` of them. -/
structure Value.IsRoundedSum (v : Value) (ns : List Int) : Prop where
  exact : SumsExactly 0 ns → v.IsTotal ns.sum
  small : (ns.map Int.natAbs).sum ≤ 2 ^ 53 → v = .ofInt ns.sum
  near : ns.length ≤ 2 ^ 51 → v.IsNear ns.sum (ns.length * (ns.map Int.natAbs).sum)

/-- A value is an integer taken so many times: without an error where both and the product are doubles, and
with a small one for up to `2 ^ 51` times. -/
structure Value.IsRoundedMultiple (v : Value) (c : Int) (count : Nat) : Prop where
  exact : (Number.int c).IsDouble → (Number.int count).IsDouble → (Number.int (c * count)).IsDouble →
    v.IsTotal (c * count)
  near : count ≤ 2 ^ 51 → v.IsNear (c * count) (c * count).natAbs

namespace Accumulator

variable {path : String} {ds : List Document}

theorem isRoundedSum_sum (hints : OnlyIntegers path ds) :
    ((sum path).compute ds).IsRoundedSum (integersAt path ds) := by
  show (Value.ofSum (Binary64.sum (numbersAt path ds))).IsRoundedSum _
  rw [numbersAt_eq hints]
  refine ⟨isTotal_sum, fun hsmall => ?_, isNear_sum (fits_of_mem_integersAt hints)⟩
  have hsize : (integersAt path ds).sum.natAbs ≤ ((integersAt path ds).map Int.natAbs).sum :=
    List.le_sum_of_subadditive _ (Nat.le_refl _) Int.natAbs_add_le _
  refine (isTotal_sum (sumsExactly_of_le ?_)).integer (by omega)
  rwa [Int.natAbs_zero, Nat.zero_add]

theorem isRoundedMultiple_sumConstant {c : Int} (hc : (Number.int c).Fits) :
    ((sumConstant (.ofInt c)).compute ds).IsRoundedMultiple c ds.length := by
  show (Value.ofSum ((Finite.ofInt c).mul (.ofInt ds.length))).IsRoundedMultiple _ _
  exact ⟨isTotal_mul, isNear_mul hc⟩

end Accumulator

/-- **Sums of integers.** Where the numbers at a path are integers of 64 bits, `$sum` of the path is their
sum, and `$sum` of an integer is its product with the number of documents, both with the errors of doubles:
none where values and totals are doubles, and an integer again below `2 ^ 63`; else a small one. -/
theorem sums_of_integers (name path : String) {c : Int} (hc : (Number.int c).Fits) :
    ∃ summed counted : Accumulator,
      Grouping.readAccumulator name (.object [("$sum", .string ("$" ++ path))]) = .ok summed ∧
      Grouping.readAccumulator name (.object [("$sum", .ofInt c)]) = .ok counted ∧
      ∀ ds,
        (Accumulator.OnlyIntegers path ds →
          (summed.compute ds).IsRoundedSum (Accumulator.integersAt path ds)) ∧
        (counted.compute ds).IsRoundedMultiple c ds.length := by
  refine ⟨.sum path, .sumConstant (.ofInt c), ?_, rfl, fun ds => ⟨?_, ?_⟩⟩
  · simp only [Grouping.readAccumulator, Grouping.readOperator, Grouping.reference?_string]
  · exact Accumulator.isRoundedSum_sum
  · exact Accumulator.isRoundedMultiple_sumConstant hc

/-- A running total that goes beyond `2 ^ 53` and comes back, beside a text and a missing value. -/
theorem sums_of_integers_of_cancelled :
    let ds : List Document := [⟨[("n", .ofInt (2 ^ 60))]⟩, ⟨[("n", .string "5")]⟩,
      ⟨[("n", .ofInt (-(2 ^ 60)))]⟩, ⟨[]⟩, ⟨[("n", .ofInt 5)]⟩]
    (Number.int 3).Fits ∧ Accumulator.OnlyIntegers "n" ds ∧
      Accumulator.integersAt "n" ds = [2 ^ 60, -(2 ^ 60), 5] ∧ SumsExactly 0 [2 ^ 60, -(2 ^ 60), 5] ∧
      ∃ summed counted : Accumulator,
        Grouping.readAccumulator "total" (.object [("$sum", .string ("$" ++ "n"))]) = .ok summed ∧
        Grouping.readAccumulator "total" (.object [("$sum", .ofInt 3)]) = .ok counted ∧
        (summed.compute ds).IsRoundedSum [2 ^ 60, -(2 ^ 60), 5] ∧ summed.compute ds = .ofInt 5 ∧
        (counted.compute ds).IsRoundedMultiple 3 5 ∧ counted.compute ds = .ofInt 15 := by
  intro ds
  have hfits : (Number.int 3).Fits := ⟨by decide, by decide⟩
  have hints : Accumulator.OnlyIntegers "n" ds := by
    intro d hd r hget
    simp only [ds, List.mem_cons, List.not_mem_nil, or_false] at hd
    rcases hd with rfl | rfl | rfl | rfl | rfl <;> cases hget <;> exact ⟨_, rfl, by decide, by decide⟩
  have hgreat : (Number.int (2 ^ 60)).IsDouble := ⟨Finite.ofInt (2 ^ 60), by decide +kernel⟩
  have hleast : (Number.int (-(2 ^ 60))).IsDouble := ⟨Finite.ofInt (-(2 ^ 60)), by decide +kernel⟩
  have hsmall : ∀ n : Int, n.natAbs ≤ 15 → (Number.int n).IsDouble := fun n hn =>
    isDouble_int_of_le (Nat.le_trans hn (by decide))
  have hexact : SumsExactly 0 [2 ^ 60, -(2 ^ 60), 5] :=
    ⟨hgreat, hgreat, hleast, hsmall _ (by decide), hsmall _ (by decide), hsmall _ (by decide), trivial⟩
  obtain ⟨summed, counted, hsummed, hcounted, htotals⟩ := sums_of_integers "total" "n" hfits
  obtain ⟨hsum, hcount⟩ := htotals ds
  have hfive := ((hsum hints).exact hexact).integer (by decide)
  have hfifteen := (hcount.exact (hsmall _ (by decide)) (hsmall _ (by decide))
    (hsmall _ (by decide))).integer (by decide)
  exact ⟨hfits, hints, rfl, hexact, summed, counted, hsummed, hcounted, hsum hints, hfive, hcount,
    hfifteen⟩

/-- **Totals of 64 bits are rounded**: the first integer that is no double, as a sum and as a constant,
and the least integer of 64 bits, which is a double but no integer as a sum. -/
theorem sums_are_rounded :
    let first : Int := 2 ^ 53 + 1
    let least : Int := -(2 ^ 63)
    let ds : List Document := [⟨[("a", .ofInt first), ("b", .ofInt least)]⟩]
    Accumulator.integersAt "a" ds = [first] ∧ Accumulator.integersAt "b" ds = [least] ∧
      (Accumulator.sum "a").compute ds = .ofInt (first - 1) ∧
      (Accumulator.sumConstant (.ofInt first)).compute ds = .ofInt (first - 1) ∧
      (Accumulator.sum "b").compute ds = .number (.double (.ofInt least)) := by
  intro first least ds
  have hfirst : Binary64.sum [Finite.ofInt first] = .finite (.ofInt (first - 1)) := by decide +kernel
  have hproduct : (Finite.ofInt first).mul (.ofInt 1) = .finite (.ofInt (first - 1)) := by
    decide +kernel
  have hleast : Binary64.sum [Finite.ofInt least] = .finite (.ofInt least) := by decide +kernel
  have hbelow : Value.ofSum (.finite (.ofInt (first - 1))) = .ofInt (first - 1) :=
    (Value.isTotal_ofSum (Finite.units_ofInt (by decide))).integer (by decide)
  refine ⟨rfl, rfl, ?_, ?_, ?_⟩
  · show Value.ofSum (Binary64.sum [Finite.ofInt first]) = _
    rw [hfirst, hbelow]
  · show Value.ofSum ((Finite.ofInt first).mul (.ofInt 1)) = _
    rw [hproduct, hbelow]
  · show Value.ofSum (Binary64.sum [Finite.ofInt least]) = _
    rw [hleast]
    have hwhole : (Finite.ofInt least).toInt? = some least := by decide +kernel
    rw [Value.ofSum, hwhole]
    exact if_neg (by decide)

end DocStore
