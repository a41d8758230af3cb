import DocStore.Binary64.Decimal
import DocStore.Proofs.Binary64.Arithmetic

/-!
# DocStore — the digits of a double give it back

The digits that a double is written with are searched for, and each that is tried has to read back as the
double. So whatever the search ends with reads back; and when it ends without any, the digits are all that
the exact value has, and these read back as well, for the power of five in them is divided out again.

* **`Binary64.Finite.ofDecimal_exactDigits`** — the exact value reads back.
* **`Binary64.Finite.ofDecimal_shortest`** — so do the digits that are written.
* **`Binary64.ofDecimal_mul_pow`** — a whole number may as well be read with a zero behind the point.
-/

namespace DocStore

namespace Binary64

/-! ## §1 — decimals that are neither too large nor too small -/

/-- The place of the first digit, as far as the bits of the digits say it. -/
def topPlace (digits : Nat) (exp10 : Int) : Int :=
  exp10 + (digits.log2 * 30103 / 100000 + 1 : Nat)

section

variable {digits : Nat} {exp10 : Int}

theorem ofDecimal_of_nonneg (negative : Bool) (hne : digits ≠ 0) (hexp : 0 ≤ exp10)
    (htop : topPlace digits exp10 ≤ 400) :
    ofDecimal negative digits exp10 =
      roundQuotient negative (digits * 10 ^ exp10.toNat * unitsPerOne) 1 := by
  unfold topPlace at htop
  unfold ofDecimal
  rw [if_neg hne]
  dsimp only
  rw [if_neg (by omega), if_neg (by omega), if_pos hexp]

theorem ofDecimal_of_neg (negative : Bool) (hne : digits ≠ 0) (hexp : exp10 < 0)
    (hlow : -400 ≤ topPlace digits exp10) (htop : topPlace digits exp10 ≤ 400) :
    ofDecimal negative digits exp10 =
      roundQuotient negative (digits * unitsPerOne) (10 ^ exp10.natAbs) := by
  unfold topPlace at hlow htop
  unfold ofDecimal
  rw [if_neg hne]
  dsimp only
  rw [if_neg (by omega), if_neg (by omega), if_neg (by omega)]

end

/-- **A whole number may be read with a zero behind the point**, as long as it has few digits. -/
theorem ofDecimal_mul_pow (negative : Bool) {digits e : Nat} (hne : digits ≠ 0)
    (hsmall : digits < 10 ^ 16) (he : e ≤ 16) :
    ofDecimal negative (digits * 10 ^ (e + 1)) (-1) = ofDecimal negative digits e := by
  have hpos : 0 < 10 ^ (e + 1) := Nat.pow_pos (by decide)
  have hne' : digits * 10 ^ (e + 1) ≠ 0 := Nat.mul_ne_zero hne (Nat.ne_of_gt hpos)
  have hlog : digits.log2 < 54 :=
    (Nat.log2_lt hne).mpr (Nat.lt_of_lt_of_le hsmall (by decide))
  have hlog' : (digits * 10 ^ (e + 1)).log2 < 111 := by
    rw [Nat.log2_lt hne']
    calc digits * 10 ^ (e + 1) < 10 ^ 16 * 10 ^ (e + 1) := Nat.mul_lt_mul_of_pos_right hsmall hpos
      _ = 10 ^ (16 + (e + 1)) := (Nat.pow_add 10 16 (e + 1)).symm
      _ ≤ 10 ^ 33 := Nat.pow_le_pow_right (by decide) (by omega)
      _ ≤ 2 ^ 111 := by decide
  have htop : topPlace digits e ≤ 400 := by unfold topPlace; omega
  have htop' : topPlace (digits * 10 ^ (e + 1)) (-1) ≤ 400 := by unfold topPlace; omega
  have hlow : -400 ≤ topPlace (digits * 10 ^ (e + 1)) (-1) := by unfold topPlace; omega
  rw [ofDecimal_of_nonneg negative hne (Int.natCast_nonneg e) htop,
    ofDecimal_of_neg negative hne' (by decide) hlow htop']
  -- the last factor of ten is divided out again
  have hfactor : digits * 10 ^ (e + 1) * unitsPerOne = digits * 10 ^ e * unitsPerOne * 10 := by
    rw [Nat.pow_succ, ← Nat.mul_assoc, Nat.mul_right_comm]
  rw [hfactor, Int.toNat_natCast, show (10 : Nat) ^ (-1 : Int).natAbs = 10 from rfl]
  exact roundQuotient_mul negative _ (by decide)

/-! ## §2 — the exact value -/

theorem two_pow_le_five_pow : 2 ^ 2493 ≤ 5 ^ 1074 := by decide +kernel

theorem five_pow_le_two_pow : 5 ^ 1074 ≤ 2 ^ 2494 := by decide +kernel

/-- Units are divided out of a number of units, two by two and five by five. -/
theorem roundQuotient_five_pow (negative : Bool) (num k : Nat) :
    roundQuotient negative (num * 5 ^ k * 2 ^ k) (10 ^ k) = roundQuotient negative num 1 := by
  rw [Nat.mul_assoc, ← Nat.mul_pow]
  exact roundQuotient_mul negative num (Nat.pow_pos (by decide))

namespace Finite

theorem magnitude_lt (x : Finite) : x.magnitude < 2 ^ 2098 := by
  have hexp := x.exp_le
  unfold magnitude
  calc x.mant * 2 ^ x.exp < 2 ^ 53 * 2 ^ x.exp :=
        Nat.mul_lt_mul_of_pos_right x.mant_lt (Nat.two_pow_pos _)
    _ = 2 ^ (53 + x.exp) := (Nat.pow_add 2 53 x.exp).symm
    _ ≤ 2 ^ 2098 := Nat.pow_le_pow_right (by decide) (by omega)

section

variable {x : Finite}

theorem exactDigits_ne_zero (h : x.magnitude ≠ 0) : x.exactDigits ≠ 0 := by
  unfold exactDigits
  generalize 1074 = k
  exact Nat.mul_ne_zero h (Nat.ne_of_gt (Nat.pow_pos (by decide)))

theorem log2_exactDigits (h : x.magnitude ≠ 0) :
    2493 ≤ x.exactDigits.log2 ∧ x.exactDigits.log2 < 4592 := by
  have hne := exactDigits_ne_zero h
  have hsize := x.magnitude_lt
  have hleast := two_pow_le_five_pow
  have hmost := five_pow_le_two_pow
  have hsum : 4592 = 2098 + 2494 := rfl
  rw [Nat.le_log2 hne, Nat.log2_lt hne, hsum]
  unfold exactDigits
  generalize 2098 = j, 2494 = k, 5 ^ 1074 = five at *
  constructor
  · exact Nat.le_trans hleast (Nat.le_mul_of_pos_left _ (Nat.pos_of_ne_zero h))
  · calc x.magnitude * five ≤ x.magnitude * 2 ^ k := Nat.mul_le_mul_left _ hmost
      _ < 2 ^ j * 2 ^ k := Nat.mul_lt_mul_of_pos_right hsize (Nat.two_pow_pos _)
      _ = 2 ^ (j + k) := (Nat.pow_add 2 j k).symm

/-- **The exact value of a double reads back as the double.** -/
theorem ofDecimal_exactDigits (h : x.magnitude ≠ 0) :
    ofDecimal x.negative x.exactDigits (-1074) = finite x := by
  obtain ⟨hleast, hmost⟩ := log2_exactDigits h
  have hlow : -400 ≤ topPlace x.exactDigits (-1074) := by unfold topPlace; omega
  have htop : topPlace x.exactDigits (-1074) ≤ 400 := by unfold topPlace; omega
  rw [ofDecimal_of_neg _ (exactDigits_ne_zero h) (by decide) hlow htop,
    show (-1074 : Int).natAbs = 1074 from rfl]
  unfold exactDigits unitsPerOne
  exact (roundQuotient_five_pow x.negative x.magnitude 1074).trans (roundQuotient_magnitude x)

/-! ## §3 — the digits that are written

The search is opened as a function of its arguments, and what it is put together of is given a name
before it is looked at. Otherwise comparing it with its parts means to carry it out.
-/

/-- What is found on a grid has been read back. -/
theorem readsBack_of_onGrid? {place : Nat} {d : Decimal} (h : x.onGrid? place = some d) :
    x.readsBack d = true := by
  have hopen : @onGrid? = @onGrid? := rfl
  conv at hopen => rhs; delta onGrid?
  obtain ⟨n, hn⟩ : ∃ n, x.exactDigits = n := ⟨_, rfl⟩
  obtain ⟨test, htest⟩ : ∃ test, x.readsBack = test := ⟨_, rfl⟩
  obtain ⟨strip, hstrip⟩ : ∃ strip, Decimal.stripZeros 17 = strip := ⟨_, rfl⟩
  rw [hopen] at h
  beta_reduce at h
  rw [hn, htest, hstrip] at h
  rw [htest]
  dsimp only at h
  split at h
  · next hbelow habove =>
    obtain rfl := Option.some.inj h
    split
    · exact hbelow
    · exact habove
  · next hbelow _ =>
    obtain rfl := Option.some.inj h
    exact hbelow
  · next _ habove =>
    obtain rfl := Option.some.inj h
    exact habove
  · cases h

/-- The digits are found on a grid, or they are all that there are. -/
theorem shortest_cases (x : Finite) :
    (∃ place, x.onGrid? place = some x.shortest) ∨ x.shortest = ⟨x.exactDigits, -1074⟩ := by
  have hopen : @shortest = @shortest := rfl
  conv at hopen => rhs; delta shortest
  obtain ⟨n, hn⟩ : ∃ n, x.exactDigits = n := ⟨_, rfl⟩
  obtain ⟨grid, hgrid⟩ : ∃ grid, x.onGrid? = grid := ⟨_, rfl⟩
  rw [hopen]
  beta_reduce
  rw [hn, hgrid]
  dsimp only
  split
  · next d hfound =>
    obtain ⟨i, -, hsome⟩ := List.exists_of_findSome?_eq_some hfound
    exact .inl ⟨_, hsome⟩
  · exact .inr rfl

/-- **The digits that a double is written with read back as the double.** -/
theorem ofDecimal_shortest (h : x.magnitude ≠ 0) :
    ofDecimal x.negative x.shortest.digits x.shortest.exp10 = finite x := by
  rcases x.shortest_cases with ⟨place, hfound⟩ | hall
  · exact of_decide_eq_true (readsBack_of_onGrid? hfound)
  · rw [hall]
    exact ofDecimal_exactDigits h

theorem digits_shortest_ne_zero (h : x.magnitude ≠ 0) : x.shortest.digits ≠ 0 := by
  intro hzero
  have hread := ofDecimal_shortest h
  rw [ofDecimal, if_pos hzero] at hread
  have hmagnitude : (zero x.negative).magnitude = x.magnitude :=
    congrArg magnitude (Binary64.finite.inj hread)
  exact h (hmagnitude.symm.trans (Nat.zero_mul _))

/-- There is one zero of each sign. -/
theorem eq_zero_of_magnitude (h : x.magnitude = 0) : x = zero x.negative :=
  eq_of_units rfl (by rw [units_zero, ← Int.natAbs_eq_zero, natAbs_units, h])

end

end Finite

end Binary64

end DocStore
