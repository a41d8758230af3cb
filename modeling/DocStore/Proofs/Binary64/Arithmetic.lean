import DocStore.Proofs.Binary64.Rounding
import Mathlib.Algebra.Ring.Int.Defs
import Mathlib.Algebra.Ring.Nat
import Mathlib.Data.List.Forall2

/-!
# DocStore — sums and products of doubles

An operation on doubles is one exact computation and one rounding, and the rounding does nothing where the
exact result is a double. So does a sum of many doubles, taken from the left, as long as every running
total is one. Where it is rounded, each step adds an error of one part in `2 ^ 53`, to the errors of the
values themselves and to those of the steps before.

* **`Binary64.Finite.add_exact`**, **`Binary64.Finite.mul_exact`** — one operation, without an error.
* **`Binary64.Finite.add_eq`**, **`Binary64.Finite.mul_eq`** — one operation, rounded.
* **`Binary64.sum_exact`** — a sum whose running totals are doubles (`Binary64.RunsExactly`).
* **`Binary64.sum_near`** — any sum of up to `2 ^ 51` values (`Binary64.Near`).
-/

namespace DocStore

namespace Binary64

/-! ## §1 — one operation -/

namespace Finite

theorem units_zero (negative : Bool) : (zero negative).units = 0 := by
  cases negative <;> decide

/-- **A sum that is a double is not rounded.** -/
theorem add_exact {x y z : Finite} (h : z.units = x.units + y.units) :
    ∃ s, x.add y = finite s ∧ s.units = x.units + y.units := by
  unfold add
  dsimp only
  split
  · next hzero => exact ⟨_, rfl, by rw [units_zero, hzero]⟩
  · rw [← h]
    exact ofUnits_units z

end Finite

theorem roundToEven_mul_mul (num den : Nat) {k : Nat} (hk : 0 < k) :
    roundToEven (num * k) (den * k) = roundToEven num den := by
  have hbelow : 2 * (num % den * k) < den * k ↔ 2 * (num % den) < den := by
    rw [← Nat.mul_assoc]
    exact Nat.mul_lt_mul_right hk
  have habove : den * k < 2 * (num % den * k) ↔ den < 2 * (num % den) := by
    rw [← Nat.mul_assoc]
    exact Nat.mul_lt_mul_right hk
  unfold roundToEven
  simp only [Nat.mul_div_mul_right _ _ hk, Nat.mul_mod_mul_right, hbelow, habove]

/-- What is divided out again is not there for rounding. -/
theorem roundQuotient_mul (negative : Bool) (num : Nat) {den : Nat} (hden : 0 < den) :
    roundQuotient negative (num * den) den = roundQuotient negative num 1 := by
  have hmant : ∀ e, roundToEven (num * den) (den * 2 ^ e) = roundToEven num (1 * 2 ^ e) := by
    intro e
    rw [Nat.mul_comm den, roundToEven_mul_mul _ _ hden, Nat.one_mul]
  unfold roundQuotient
  simp only [Nat.mul_div_cancel _ hden, Nat.div_one, hmant]

namespace Finite

/-- The double with the sign that is asked for. -/
theorem roundQuotient_magnitude_of_sign (z : Finite) (negative : Bool) :
    roundQuotient negative z.magnitude 1 = finite { z with negative } :=
  roundQuotient_magnitude { z with negative }

/-- A product is what its factors make of it when one of them is a whole number. -/
theorem magnitude_mul_magnitude {x y : Finite} {m : Int} (hy : y.units = m * unitsPerOne) :
    x.magnitude * y.magnitude = (x.units * m).natAbs * unitsPerOne := by
  rw [← x.natAbs_units, ← y.natAbs_units, hy, Int.natAbs_mul, Int.natAbs_natCast, Int.natAbs_mul,
    Nat.mul_assoc]

/-- The sign of a product is that of its factors multiplied. -/
theorem units_mul_eq {x y : Finite} {m : Int} (hy : y.units = m * unitsPerOne) :
    x.units * m = if x.negative != y.negative then -((x.units * m).natAbs : Int)
      else (x.units * m).natAbs := by
  have hmagnitude : ((x.units * m).natAbs * unitsPerOne : Int) = x.magnitude * y.magnitude := by
    exact_mod_cast (magnitude_mul_magnitude hy).symm
  refine Int.eq_of_mul_eq_mul_right unitsPerOne_ne_zero ?_
  rw [Int.mul_assoc, ← hy]
  generalize ((x.units * m).natAbs : Int) = w, (unitsPerOne : Int) = one at hmagnitude ⊢
  unfold units
  cases x.negative <;> cases y.negative <;> simp [hmagnitude]

/-- **A product that is a double is not rounded.** -/
theorem mul_exact {x y z : Finite} {m : Int} (hy : y.units = m * unitsPerOne)
    (h : z.units = x.units * m) : ∃ p, x.mul y = finite p ∧ p.units = x.units * m := by
  have hsize : (x.units * m).natAbs = z.magnitude := by rw [← h, natAbs_units]
  refine ⟨{ z with negative := x.negative != y.negative }, ?_, ?_⟩
  · unfold mul
    rw [magnitude_mul_magnitude hy, hsize, roundQuotient_mul _ _ unitsPerOne_pos]
    exact roundQuotient_magnitude_of_sign z _
  · rw [units_mul_eq hy, hsize]
    rfl

/-- A product with a whole number becomes the nearest double. -/
theorem mul_eq {x y : Finite} {m : Int} (hy : y.units = m * unitsPerOne)
    (h : scale (x.units * m).natAbs ≤ 2044) :
    ∃ p, x.mul y = finite p ∧ p.units = nearestUnits (x.units * m) := by
  obtain ⟨p, hp, hsign, hsize⟩ := roundQuotient_eq (x.negative != y.negative) h
  refine ⟨p, ?_, ?_⟩
  · unfold mul
    rw [magnitude_mul_magnitude hy, roundQuotient_mul _ _ unitsPerOne_pos]
    exact hp
  · have hproduct := units_mul_eq (x := x) hy
    -- a product with zero may have either sign, and rounds to zero
    have hnear := nearest_near (x.units * m).natAbs
    generalize x.units * m = u at hproduct hsize hnear ⊢
    unfold units nearestUnits
    rw [hsign, hsize]
    by_cases hopposite : (x.negative != y.negative) = true
    · rw [if_pos hopposite] at hproduct ⊢
      split <;> omega
    · rw [if_neg hopposite] at hproduct ⊢
      split <;> omega

end Finite

/-! ## §2 — sums of many -/

/-- Added to a total one by one, values keep it a double. -/
def RunsExactly (total : Int) : List Int → Prop
  | [] => True
  | u :: us => (∃ z : Finite, z.units = total + u) ∧ RunsExactly (total + u) us

/-- **Sums are exact while the total stays a double.** Induction on what is still to be added. -/
theorem foldl_add_exact {xs : List Finite} {a : Finite}
    (h : RunsExactly a.units (xs.map Finite.units)) :
    ∃ s, xs.foldl (fun acc x => acc.add (finite x)) (finite a) = finite s ∧
      s.units = a.units + (xs.map Finite.units).sum := by
  induction xs generalizing a with
  | nil => exact ⟨a, rfl, (Int.add_zero _).symm⟩
  | cons x xs ih =>
    obtain ⟨⟨z, hz⟩, hrest⟩ := h
    obtain ⟨b, hadd, hb⟩ := Finite.add_exact hz
    rw [← hb] at hrest
    obtain ⟨s, hs, hunits⟩ := ih hrest
    refine ⟨s, ?_, ?_⟩
    · show xs.foldl _ (a.add x) = _
      rw [hadd]
      exact hs
    · rw [hunits, hb, List.map_cons, List.sum_cons, Int.add_assoc]

theorem sum_exact {xs : List Finite} (h : RunsExactly 0 (xs.map Finite.units)) :
    ∃ s, sum xs = finite s ∧ s.units = (xs.map Finite.units).sum := by
  rw [← Finite.units_zero true] at h
  obtain ⟨s, hs, hunits⟩ := foldl_add_exact h
  exact ⟨s, hs, by rw [hunits, Finite.units_zero, Int.zero_add]⟩

/-! ## §3 — sums that are rounded -/

/-- A sum that is no double becomes the nearest one. -/
theorem Finite.add_eq {x y : Finite} (h : scale (x.units + y.units).natAbs ≤ 2044) :
    ∃ s, x.add y = finite s ∧ s.units = nearestUnits (x.units + y.units) := by
  unfold add
  dsimp only
  split
  · next hzero =>
    have hnearest := nearestUnits_units (zero false)
    rw [units_zero] at hnearest
    exact ⟨_, rfl, by rw [hzero, hnearest, units_zero]⟩
  · exact ofUnits_eq h

/-- A value of these units is off by one part in `2 ^ 53` at most. -/
def Rounded (units off : Int) : Prop := 2 ^ 53 * (off - units).natAbs ≤ units.natAbs

theorem rounded_nearestUnits (u : Int) : Rounded u (nearestUnits u) := nearestUnits_near u

/-- What is rounded twice is near to what it was. -/
theorem Rounded.twice {u v w : Int} (hv : Rounded u v) (hw : Rounded v w) :
    2 ^ 51 * (w - u).natAbs ≤ u.natAbs := by
  unfold Rounded at hv hw
  omega

/-- A running total beside the exact one: so many values of these sizes have been added, and each has
moved the running total by a part of their sizes. -/
structure Near (count size : Nat) (total running : Int) : Prop where
  moved : 2 ^ 51 * (running - total).natAbs ≤ count * size
  bounded : total.natAbs ≤ size

section

variable {count size : Nat} {total running n x next : Int}

/-- Up to so many values, the running total is at most twice as large as they are together. -/
theorem Near.natAbs_le (h : Near count size total running) (hcount : count ≤ 2 ^ 51)
    (hx : Rounded n x) : (running + x).natAbs ≤ 2 * (size + n.natAbs) := by
  obtain ⟨hnear, hbounded⟩ := h
  unfold Rounded at hx
  have hsize : count * size ≤ 2 ^ 51 * size := Nat.mul_le_mul_right _ hcount
  have hmoved : (running - total).natAbs ≤ size := by omega
  omega

/-- **One value more**: it is rounded itself, and so is what comes of it. -/
theorem Near.step (h : Near count size total running) (hcount : count ≤ 2 ^ 51) (hx : Rounded n x)
    (hnext : Rounded (running + x) next) :
    Near (count + 1) (size + n.natAbs) (total + n) next := by
  have hlarge := h.natAbs_le hcount hx
  obtain ⟨hnear, hbounded⟩ := h
  unfold Rounded at hx hnext
  refine ⟨?_, by omega⟩
  have hparts : (next - (total + n)).natAbs ≤
      (next - (running + x)).natAbs + (running - total).natAbs + (x - n).natAbs := by omega
  rw [Nat.add_mul, Nat.mul_add, Nat.one_mul]
  omega

end

/-- **Sums are near the exact ones.** Induction on what is still to be added. -/
theorem foldl_add_near {xs : List Finite} {ns : List Int} {k : Nat} (hk : k ≤ 2044)
    (hxs : List.Forall₂ (fun x n => Rounded n x.units) xs ns)
    {a : Finite} {count size : Nat} {total : Int} (ha : Near count size total a.units)
    (hcount : count + ns.length ≤ 2 ^ 51)
    (hsize : 2 * (size + (ns.map Int.natAbs).sum) < 2 ^ (53 + k)) :
    ∃ s, xs.foldl (fun acc x => acc.add (finite x)) (finite a) = finite s ∧
      Near (count + ns.length) (size + (ns.map Int.natAbs).sum) (total + ns.sum) s.units := by
  induction hxs generalizing a count size total with
  | nil => exact ⟨a, rfl, by simpa using ha⟩
  | @cons x n xs ns hx _ ih =>
    rw [List.length_cons] at hcount
    rw [List.map_cons, List.sum_cons] at hsize
    have hlarge := ha.natAbs_le (by omega) hx
    have hscale : scale (a.units + x.units).natAbs ≤ 2044 :=
      Nat.le_trans (scale_le_of_lt (by omega)) hk
    obtain ⟨b, hadd, hb⟩ := Finite.add_eq hscale
    have hrounded : Rounded (a.units + x.units) b.units := hb ▸ rounded_nearestUnits _
    have hstep := ha.step (by omega) hx hrounded
    obtain ⟨s, hs, hnear⟩ := ih hstep (by omega) (by omega)
    refine ⟨s, ?_, ?_⟩
    · show xs.foldl _ (a.add x) = _
      rw [hadd]
      exact hs
    · rw [List.length_cons, List.map_cons, List.sum_cons, List.sum_cons, ← Nat.add_assoc size,
        ← Int.add_assoc, Nat.add_comm ns.length, ← Nat.add_assoc]
      exact hnear

theorem sum_near {xs : List Finite} {ns : List Int} {k : Nat} (hk : k ≤ 2044)
    (hxs : List.Forall₂ (fun x n => Rounded n x.units) xs ns) (hcount : ns.length ≤ 2 ^ 51)
    (hsize : 2 * (ns.map Int.natAbs).sum < 2 ^ (53 + k)) :
    ∃ s, sum xs = finite s ∧ Near ns.length (ns.map Int.natAbs).sum ns.sum s.units := by
  have hstart : Near 0 0 0 (Finite.zero true).units := by
    rw [Finite.units_zero]
    exact ⟨Nat.le_refl _, Nat.le_refl _⟩
  obtain ⟨s, hs, hnear⟩ := foldl_add_near hk hxs hstart (by rwa [Nat.zero_add]) (by rwa [Nat.zero_add])
  rw [Nat.zero_add, Nat.zero_add, Int.zero_add] at hnear
  exact ⟨s, hs, hnear⟩

end Binary64

end DocStore
