import DocStore.Proofs.Binary64.Exact

/-!
# DocStore — the double nearest to an integer

An integer beyond `2 ^ 53` may have to be rounded. How far, and in which order, is said of whole numbers
of units: `Binary64.nearestUnits` is what becomes of an exact value, and the double of an integer has just
these units.

* **`Binary64.nearestUnits_mono`** — rounding turns no two values round, though it may make them one.
* **`Binary64.nearestUnits_near`** — the error is at most one part in `2 ^ 53`.
* **`Binary64.Finite.units_ofInt_eq`** — an integer of 64 bits becomes the double of its rounded units,
  and `Binary64.nearestUnits_units`: a double is rounded already.
-/

namespace DocStore

namespace Binary64

/-! ## §1 — a rounded quotient -/

/-- Down to the whole part, or up by one, and never farther than half the denominator. -/
theorem roundToEven_cases (num den : Nat) :
    (roundToEven num den = num / den ∧ 2 * (num % den) ≤ den) ∨
      (roundToEven num den = num / den + 1 ∧ den ≤ 2 * (num % den)) := by
  unfold roundToEven
  dsimp only
  split
  · next hbelow => exact .inl ⟨rfl, by omega⟩
  · split
    · next habove => exact .inr ⟨rfl, by omega⟩
    · -- halfway, so the parity of the whole part decides
      rcases Nat.mod_two_eq_zero_or_one (num / den) with heven | hodd
      · exact .inl ⟨by omega, by omega⟩
      · exact .inr ⟨by omega, by omega⟩

theorem roundToEven_mono {a b : Nat} (den : Nat) (h : a ≤ b) :
    roundToEven a den ≤ roundToEven b den := by
  have hwhole : a / den ≤ b / den := Nat.div_le_div_right h
  rcases Nat.lt_or_eq_of_le hwhole with hlt | heq
  · rcases roundToEven_cases a den with ⟨ha, -⟩ | ⟨ha, -⟩ <;>
      rcases roundToEven_cases b den with ⟨hb, -⟩ | ⟨hb, -⟩ <;> omega
  · -- of one whole part, so the remainders are in order
    have hsplit := Nat.div_add_mod a den
    have hsplit' := Nat.div_add_mod b den
    rw [heq] at hsplit
    rcases roundToEven_cases a den with ⟨ha, -⟩ | ⟨ha, hup⟩ <;>
      rcases roundToEven_cases b den with ⟨hb, hdown⟩ | ⟨hb, -⟩
    · omega
    · omega
    · -- both are halfway, so they are one number
      obtain rfl : a = b := by omega
      exact Nat.le_refl _
    · omega

/-! ## §2 — magnitudes -/

/-- The exponent that rounding chooses for a magnitude. -/
def scale (num : Nat) : Nat := if num < 2 ^ 53 then 0 else num.log2 - 52

/-- The magnitude of the double nearest to a magnitude. -/
def nearest (num : Nat) : Nat := roundToEven num (2 ^ scale num) * 2 ^ scale num

theorem lt_scale (num : Nat) : num < 2 ^ 53 * 2 ^ scale num := by
  unfold scale
  split
  · next hsmall => rwa [Nat.pow_zero, Nat.mul_one]
  · next hlarge =>
    have hlog : 53 ≤ num.log2 := (Nat.le_log2 (by omega)).mpr (Nat.not_lt.mp hlarge)
    rw [← Nat.pow_add, show 53 + (num.log2 - 52) = num.log2 + 1 by omega]
    exact Nat.lt_log2_self

theorem scale_le {num : Nat} (h : scale num ≠ 0) : 2 ^ 52 * 2 ^ scale num ≤ num := by
  have hlarge : ¬ num < 2 ^ 53 := fun hsmall => h (if_pos hsmall)
  have hlog : 53 ≤ num.log2 := (Nat.le_log2 (by omega)).mpr (Nat.not_lt.mp hlarge)
  unfold scale
  rw [if_neg hlarge, ← Nat.pow_add, show 52 + (num.log2 - 52) = num.log2 by omega]
  exact Nat.log2_self_le (by omega)

theorem scale_le_of_lt {num k : Nat} (h : num < 2 ^ (53 + k)) : scale num ≤ k := by
  rcases Nat.eq_zero_or_pos (scale num) with hzero | hpos
  · omega
  · have hle := scale_le (Nat.ne_of_gt hpos)
    rw [← Nat.pow_add] at hle
    have hexp := (Nat.pow_lt_pow_iff_right (by decide : 1 < 2)).mp (Nat.lt_of_le_of_lt hle h)
    omega

/-- A shift adds to the exponent what it shifts by. -/
theorem scale_mul_pow {num : Nat} (h : num ≤ 2 ^ 64) (k : Nat) : scale (num * 2 ^ k) ≤ 12 + k := by
  refine scale_le_of_lt ?_
  calc num * 2 ^ k ≤ 2 ^ 64 * 2 ^ k := Nat.mul_le_mul_right _ h
    _ = 2 ^ (64 + k) := (Nat.pow_add 2 64 k).symm
    _ < 2 ^ (53 + (12 + k)) := Nat.pow_lt_pow_right (by decide) (by omega)

theorem scale_mono {a b : Nat} (h : a ≤ b) : scale a ≤ scale b := by
  refine scale_le_of_lt ?_
  rw [Nat.pow_add]
  exact Nat.lt_of_le_of_lt h (lt_scale b)

/-- The significand has at most 53 bits, or is the power that moves to the next exponent. -/
theorem significand_le (num : Nat) : roundToEven num (2 ^ scale num) ≤ 2 ^ 53 := by
  have hwhole : num / 2 ^ scale num < 2 ^ 53 :=
    (Nat.div_lt_iff_lt_mul (Nat.two_pow_pos _)).mpr (lt_scale num)
  rcases roundToEven_cases num (2 ^ scale num) with ⟨h, -⟩ | ⟨h, -⟩ <;> omega

theorem le_significand {num : Nat} (h : scale num ≠ 0) :
    2 ^ 52 ≤ roundToEven num (2 ^ scale num) := by
  have hwhole : 2 ^ 52 ≤ num / 2 ^ scale num :=
    (Nat.le_div_iff_mul_le (Nat.two_pow_pos _)).mpr (scale_le h)
  rcases roundToEven_cases num (2 ^ scale num) with ⟨h, -⟩ | ⟨h, -⟩ <;> omega

theorem nearest_mono {a b : Nat} (h : a ≤ b) : nearest a ≤ nearest b := by
  unfold nearest
  rcases Nat.lt_or_eq_of_le (scale_mono h) with hlt | heq
  · -- the lesser one rounds to a power at most, the greater one to no less than that power
    have hpower : 2 ^ 53 * 2 ^ scale a ≤ 2 ^ 52 * 2 ^ scale b := by
      rw [← Nat.pow_add, ← Nat.pow_add]
      exact Nat.pow_le_pow_right (by decide) (by omega)
    calc roundToEven a (2 ^ scale a) * 2 ^ scale a
        ≤ 2 ^ 53 * 2 ^ scale a := Nat.mul_le_mul_right _ (significand_le a)
      _ ≤ 2 ^ 52 * 2 ^ scale b := hpower
      _ ≤ roundToEven b (2 ^ scale b) * 2 ^ scale b :=
          Nat.mul_le_mul_right _ (le_significand (by omega))
  · rw [heq]
    exact Nat.mul_le_mul_right _ (roundToEven_mono _ h)

/-- A magnitude moves by one part in `2 ^ 53` at most. -/
theorem nearest_near (num : Nat) : 2 ^ 53 * ((nearest num : Int) - num).natAbs ≤ num := by
  have hsplit := Nat.div_add_mod' num (2 ^ scale num)
  have hmoved : 2 * ((nearest num : Int) - num).natAbs ≤ 2 ^ scale num := by
    have hpart : num % 2 ^ scale num < 2 ^ scale num := Nat.mod_lt _ (Nat.two_pow_pos _)
    unfold nearest
    rcases roundToEven_cases num (2 ^ scale num) with ⟨h, hhalf⟩ | ⟨h, hhalf⟩
    · rw [h]
      omega
    · rw [h, Nat.add_mul, Nat.one_mul]
      omega
  rcases Nat.eq_zero_or_pos (scale num) with hzero | hpos
  · -- whole units are not rounded at all
    rw [hzero, Nat.pow_zero] at hmoved
    omega
  · have hlarge := scale_le (Nat.ne_of_gt hpos)
    omega

theorem scale_magnitude (x : Finite) : scale x.magnitude = x.exp := x.exp_eq

theorem nearest_magnitude (x : Finite) : nearest x.magnitude = x.magnitude := by
  unfold nearest
  rw [scale_magnitude]
  unfold Finite.magnitude
  rw [roundToEven_mul _ (Nat.two_pow_pos _)]

/-- Rounding makes a double of the nearest magnitude, unless that is too large for one. -/
theorem roundQuotient_eq (negative : Bool) {num : Nat} (h : scale num ≤ 2044) :
    ∃ x : Finite, roundQuotient negative num 1 = finite x ∧ x.negative = negative ∧
      x.magnitude = nearest num := by
  have hle := significand_le num
  have hcanonical : scale num = 0 ∨ 2 ^ 52 ≤ roundToEven num (2 ^ scale num) := by
    by_cases hzero : scale num = 0
    · exact .inl hzero
    · exact .inr (le_significand hzero)
  unfold roundQuotient nearest
  simp only [Nat.div_one, Nat.one_mul]
  rw [show (if num < 2 ^ 53 then 0 else num.log2 - 52) = scale num from rfl]
  generalize roundToEven num (2 ^ scale num) = mant at hle hcanonical ⊢
  by_cases hpower : mant = 2 ^ 53
  · -- the significand is one bit too long, so the next exponent takes it
    have hparts : 2 ^ 52 < 2 ^ 53 ∧ scale num + 1 ≤ 2045 ∧ (scale num + 1 = 0 ∨ 2 ^ 52 ≤ 2 ^ 52) :=
      ⟨by decide, by omega, .inr (Nat.le_refl _)⟩
    rw [if_pos hpower, Finite.ofParts?, dif_pos hparts]
    refine ⟨_, rfl, rfl, ?_⟩
    show 2 ^ 52 * 2 ^ (scale num + 1) = mant * 2 ^ scale num
    rw [hpower, ← Nat.pow_add, ← Nat.pow_add]
    congr 1
    omega
  · have hparts : mant < 2 ^ 53 ∧ scale num ≤ 2045 ∧ (scale num = 0 ∨ 2 ^ 52 ≤ mant) :=
      ⟨by omega, by omega, hcanonical⟩
    rw [if_neg hpower, Finite.ofParts?, dif_pos hparts]
    exact ⟨_, rfl, rfl, rfl⟩

/-! ## §3 — whole numbers of units -/

/-- The units of the double nearest to a whole number of units. -/
def nearestUnits (u : Int) : Int := if u < 0 then -(nearest u.natAbs : Int) else nearest u.natAbs

theorem nearestUnits_mono {u v : Int} (h : u ≤ v) : nearestUnits u ≤ nearestUnits v := by
  unfold nearestUnits
  split
  · split
    · have := nearest_mono (show v.natAbs ≤ u.natAbs by omega)
      omega
    · omega
  · split
    · omega
    · have := nearest_mono (show u.natAbs ≤ v.natAbs by omega)
      omega

theorem nearestUnits_near (u : Int) : 2 ^ 53 * (nearestUnits u - u).natAbs ≤ u.natAbs := by
  have hnear := nearest_near u.natAbs
  unfold nearestUnits
  split <;> omega

/-- A double is rounded already. -/
theorem nearestUnits_units (x : Finite) : nearestUnits x.units = x.units := by
  unfold nearestUnits
  rw [x.natAbs_units, nearest_magnitude]
  have hsize := x.natAbs_units
  split <;> omega

theorem ofUnits_eq {u : Int} (h : scale u.natAbs ≤ 2044) :
    ∃ x : Finite, ofUnits u = finite x ∧ x.units = nearestUnits u := by
  obtain ⟨x, hx, hsign, hsize⟩ := roundQuotient_eq (decide (u < 0)) h
  refine ⟨x, hx, ?_⟩
  unfold Finite.units nearestUnits
  rw [hsign, hsize]
  simp only [decide_eq_true_eq]

/-- **An integer of 64 bits** becomes the double of its rounded units. -/
theorem Finite.units_ofInt_eq {n : Int} (h : n.natAbs ≤ 2 ^ 64) :
    (Finite.ofInt n).units = nearestUnits (n * unitsPerOne) := by
  have hscale : scale (n * unitsPerOne).natAbs ≤ 2044 := by
    rw [Int.natAbs_mul, Int.natAbs_natCast, unitsPerOne]
    exact Nat.le_trans (scale_mul_pow h 1074) (by decide)
  obtain ⟨x, hx, hunits⟩ := ofUnits_eq hscale
  unfold Finite.ofInt
  rw [hx]
  exact hunits

end Binary64

end DocStore
