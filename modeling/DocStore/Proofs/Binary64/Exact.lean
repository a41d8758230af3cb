import DocStore.Binary64.Basic

/-!
# DocStore — numbers that are doubles already

Rounding is exact where there is nothing to round: a double is its own rounding, and so is every
integer of which 53 bits say all.

* **`Binary64.roundQuotient_magnitude`** — rounding gives a double back, sign and all.
* **`Binary64.Finite.units_ofInt`** — an integer up to `2 ^ 53` is the double that it becomes.
-/

namespace DocStore

namespace Binary64

/-! ## §1 — rounding a double -/

theorem roundToEven_mul (k : Nat) {den : Nat} (hden : 0 < den) : roundToEven (k * den) den = k := by
  unfold roundToEven
  rw [Nat.mul_div_cancel k hden, Nat.mul_mod_left]
  simp only [Nat.mul_zero, if_pos hden]

theorem Finite.ofParts?_eq (x : Finite) : Finite.ofParts? x.negative x.mant x.exp = some x := by
  unfold Finite.ofParts?
  rw [dif_pos ⟨x.mant_lt, x.exp_le, x.canonical⟩]

/-- The exponent that rounding chooses for a double is the one that it has. -/
theorem Finite.exp_eq (x : Finite) :
    (if x.magnitude < 2 ^ 53 then 0 else x.magnitude.log2 - 52) = x.exp := by
  unfold magnitude
  rcases Nat.eq_zero_or_pos x.exp with hzero | hpos
  · rw [hzero, Nat.pow_zero, Nat.mul_one, if_pos x.mant_lt]
  · have hleast : 2 ^ 52 ≤ x.mant := x.canonical.resolve_left (Nat.ne_of_gt hpos)
    have hlower : 2 ^ (52 + x.exp) ≤ x.mant * 2 ^ x.exp := by
      rw [Nat.pow_add]
      exact Nat.mul_le_mul_right _ hleast
    have hupper : x.mant * 2 ^ x.exp < 2 ^ (53 + x.exp) := by
      rw [Nat.pow_add]
      exact Nat.mul_lt_mul_of_pos_right x.mant_lt (Nat.two_pow_pos _)
    have hlog : (x.mant * 2 ^ x.exp).log2 = 52 + x.exp := by
      have hne : x.mant * 2 ^ x.exp ≠ 0 := Nat.ne_of_gt (Nat.lt_of_lt_of_le (Nat.two_pow_pos _) hlower)
      rw [Nat.log2_eq_iff hne]
      exact ⟨hlower, by rwa [show 52 + x.exp + 1 = 53 + x.exp by omega]⟩
    have hgreat : ¬ x.mant * 2 ^ x.exp < 2 ^ 53 := by
      have hstep : 2 ^ 53 ≤ 2 ^ (52 + x.exp) := Nat.pow_le_pow_right (by decide) (by omega)
      exact Nat.not_lt.mpr (Nat.le_trans hstep hlower)
    rw [if_neg hgreat, hlog, Nat.add_sub_cancel_left]

/-- **A double is its own rounding**, sign and all. -/
theorem roundQuotient_magnitude (x : Finite) :
    roundQuotient x.negative x.magnitude 1 = finite x := by
  have hmant : roundToEven x.magnitude (1 * 2 ^ x.exp) = x.mant := by
    rw [Nat.one_mul]
    exact roundToEven_mul x.mant (Nat.two_pow_pos _)
  have hlt : ¬ x.mant = 2 ^ 53 := Nat.ne_of_lt x.mant_lt
  unfold roundQuotient
  simp only [Nat.div_one, x.exp_eq, hmant, if_neg hlt, x.ofParts?_eq]

/-! ## §2 — whole numbers of units -/

namespace Finite

theorem natAbs_units (x : Finite) : x.units.natAbs = x.magnitude := by
  unfold units
  split
  · rw [Int.natAbs_neg, Int.natAbs_natCast]
  · rw [Int.natAbs_natCast]

/-- The sign of a double is that of its units, unless it is zero. -/
theorem units_neg_iff (x : Finite) (h : x.magnitude ≠ 0) : x.units < 0 ↔ x.negative = true := by
  unfold units
  split
  · next hneg => simp only [hneg, iff_true]; omega
  · next hpos => simp only [hpos, Bool.false_eq_true, iff_false]; omega

/-- Units tell two doubles of one sign apart, the zeros among them. -/
theorem eq_of_units {x y : Finite} (hsign : x.negative = y.negative) (h : x.units = y.units) :
    x = y := by
  have hmagnitude : x.magnitude = y.magnitude := by
    rw [← x.natAbs_units, ← y.natAbs_units, h]
  have hround := roundQuotient_magnitude x
  rw [hsign, hmagnitude, roundQuotient_magnitude y] at hround
  exact (Binary64.finite.inj hround).symm

end Finite

/-- The units of a double are rounded to a double with these units. -/
theorem ofUnits_units (x : Finite) : ∃ y : Finite, ofUnits x.units = finite y ∧ y.units = x.units := by
  by_cases hzero : x.magnitude = 0
  · have hunits : x.units = 0 := by
      rw [← Int.natAbs_eq_zero, x.natAbs_units, hzero]
    rw [hunits]
    exact ⟨Finite.zero false, by decide, by decide⟩
  · refine ⟨x, ?_, rfl⟩
    have hsign : decide (x.units < 0) = x.negative := by
      rw [Bool.eq_iff_iff, decide_eq_true_eq, x.units_neg_iff hzero]
    unfold ofUnits
    rw [hsign, x.natAbs_units]
    exact roundQuotient_magnitude x

/-! ## §3 — integers -/

theorem unitsPerOne_pos : 0 < unitsPerOne := by
  rw [unitsPerOne]
  exact Nat.two_pow_pos 1074

theorem unitsPerOne_ne_zero : (unitsPerOne : Int) ≠ 0 :=
  Int.natCast_ne_zero.mpr (Nat.ne_of_gt unitsPerOne_pos)

/-- What 53 bits say is a double, at whatever place it stands that a double reaches. -/
theorem exists_magnitude_eq {m e : Nat} (hpos : 0 < m) (hlt : m < 2 ^ 53) (hle : 52 ≤ e)
    (hge : e ≤ 2045) (negative : Bool) :
    ∃ x : Finite, x.negative = negative ∧ x.magnitude = m * 2 ^ e := by
  have hne : m ≠ 0 := Nat.ne_of_gt hpos
  obtain ⟨hlower, hupper⟩ := (Nat.log2_eq_iff hne).mp rfl
  have hlog : m.log2 ≤ 52 := Nat.le_of_lt_succ ((Nat.log2_lt hne).mpr hlt)
  -- the mantissa is moved up until it has 53 bits
  have hleast : 2 ^ 52 ≤ m * 2 ^ (52 - m.log2) :=
    calc 2 ^ 52 = 2 ^ m.log2 * 2 ^ (52 - m.log2) := by rw [← Nat.pow_add, Nat.add_sub_cancel' hlog]
      _ ≤ m * 2 ^ (52 - m.log2) := Nat.mul_le_mul_right _ hlower
  have hmost : m * 2 ^ (52 - m.log2) < 2 ^ 53 :=
    calc m * 2 ^ (52 - m.log2) < 2 ^ (m.log2 + 1) * 2 ^ (52 - m.log2) :=
          Nat.mul_lt_mul_of_pos_right hupper (Nat.two_pow_pos _)
      _ = 2 ^ 53 := by rw [← Nat.pow_add]; congr 1; omega
  refine ⟨⟨negative, m * 2 ^ (52 - m.log2), e - (52 - m.log2), hmost, by omega, Or.inr hleast⟩, rfl, ?_⟩
  show m * 2 ^ (52 - m.log2) * 2 ^ (e - (52 - m.log2)) = m * 2 ^ e
  rw [Nat.mul_assoc, ← Nat.pow_add]
  congr 2
  omega

/-- An integer up to `2 ^ 53` is a double. -/
theorem exists_units_eq {n : Int} (h : n.natAbs ≤ 2 ^ 53) :
    ∃ x : Finite, x.units = n * unitsPerOne := by
  obtain ⟨x, hsign, hmagnitude⟩ : ∃ x : Finite,
      x.negative = decide (n < 0) ∧ x.magnitude = n.natAbs * unitsPerOne := by
    rcases Nat.eq_zero_or_pos n.natAbs with hzero | hpos
    · have hn : n = 0 := Int.natAbs_eq_zero.mp hzero
      exact ⟨Finite.zero false, by simp [hn, Finite.zero], by simp [hn, Finite.zero, Finite.magnitude]⟩
    · -- the greatest one has 54 bits, but one of them says all
      obtain ⟨m, k, hm, hlt, hk, hsplit⟩ :
          ∃ m k, 0 < m ∧ m < 2 ^ 53 ∧ k ≤ 53 ∧ n.natAbs = m * 2 ^ k := by
        rcases Nat.lt_or_eq_of_le h with hlt | hgreatest
        · exact ⟨n.natAbs, 0, hpos, hlt, by decide, by rw [Nat.pow_zero, Nat.mul_one]⟩
        · exact ⟨1, 53, by decide, by decide, by decide, by rw [hgreatest, Nat.one_mul]⟩
      rw [hsplit, unitsPerOne, Nat.mul_assoc, ← Nat.pow_add 2 k 1074]
      exact exists_magnitude_eq hm hlt (by omega) (by omega) _
  refine ⟨x, ?_⟩
  unfold Finite.units
  generalize unitsPerOne = one at hmagnitude ⊢
  rw [hsign, hmagnitude, Int.natCast_mul]
  by_cases hneg : n < 0
  · rw [if_pos (by simp [hneg]), Int.ofNat_natAbs_of_nonpos (Int.le_of_lt hneg), Int.neg_mul,
      Int.neg_neg]
  · rw [if_neg (by simp [hneg]), Int.natAbs_of_nonneg (Int.not_lt.mp hneg)]

/-- An integer that is a double is the double that it becomes. -/
theorem Finite.units_ofInt_of_eq {n : Int} {x : Finite} (h : x.units = n * unitsPerOne) :
    (Finite.ofInt n).units = n * unitsPerOne := by
  obtain ⟨y, hrounded, hy⟩ := ofUnits_units x
  unfold Finite.ofInt
  rw [← h, hrounded]
  exact hy

/-- **An integer up to `2 ^ 53`** is the double that it becomes. -/
theorem Finite.units_ofInt {n : Int} (h : n.natAbs ≤ 2 ^ 53) :
    (Finite.ofInt n).units = n * unitsPerOne := by
  obtain ⟨x, hx⟩ := exists_units_eq h
  exact Finite.units_ofInt_of_eq hx

end Binary64

end DocStore
