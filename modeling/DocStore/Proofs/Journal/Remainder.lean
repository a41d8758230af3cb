import Mathlib
import DocStore.Journal.Basic

/-!
# DocStore — the checksum is a remainder

Bits are read as a polynomial over the field of two elements, the first bit as the highest
coefficient. Bytes and the register give their lowest bits first. The register then holds a remainder
modulo `Checksum.generator`: a bit that leaves it is a multiplication by `X`, and a byte that enters it
is an addition.

* **`Checksum.residue_foldl_enter`** — what a message makes of the register, whatever was in it.
* **`Checksum.remainder_checksum`** — the checksum is the remainder of a message with 32 zeros behind
  it, of which the first 32 bits are complemented before and the remainder's are afterwards.
* **`Checksum.checksum_ne_of_byte_ne`** — bytes that differ in one place have different checksums: `X`
  has an inverse modulo the generator, and a byte is shorter than the generator.
-/

namespace DocStore

namespace Checksum

open Polynomial

/-! ## §1 — bits as polynomials -/

/-- The lowest `n` bits of a number, the lowest first. -/
def bits (n x : Nat) : List Bool := (List.range n).map x.testBit

/-- The bits of bytes, in the order in which they enter the register. -/
def message (bytes : List UInt8) : List Bool := bytes.flatMap fun byte => bits 8 byte.toNat

/-- The polynomial whose coefficients are these bits, the highest first. -/
noncomputable def polynomial : List Bool → (ZMod 2)[X]
  | [] => 0
  | b :: bs => (if b then X ^ bs.length else 0) + polynomial bs

@[simp] theorem length_bits (n x : Nat) : (bits n x).length = n := by
  rw [bits, List.length_map, List.length_range]

theorem bits_succ (n x : Nat) : bits (n + 1) x = x.testBit 0 :: bits n (x / 2) := by
  unfold bits
  rw [List.range_succ_eq_map, List.map_cons, List.map_map]
  congr 2
  funext i
  exact Nat.testBit_succ x i

theorem bits_inj {n x y : Nat} (hx : x < 2 ^ n) (hy : y < 2 ^ n) (h : bits n x = bits n y) :
    x = y := by
  apply Nat.eq_of_testBit_eq
  intro i
  rcases Nat.lt_or_ge i n with hlow | hhigh
  · exact List.map_inj_left.mp h i (List.mem_range.mpr hlow)
  · have hpow := Nat.pow_le_pow_right (by decide : 0 < 2) hhigh
    rw [Nat.testBit_lt_two_pow (hx.trans_le hpow), Nat.testBit_lt_two_pow (hy.trans_le hpow)]

@[simp] theorem length_message (bytes : List UInt8) :
    (message bytes).length = 8 * bytes.length := by
  induction bytes with
  | nil => rfl
  | cons byte bytes ih =>
    rw [message, List.flatMap_cons, List.length_append, length_bits, ← message, ih,
      List.length_cons]
    omega

theorem polynomial_append (bs cs : List Bool) :
    polynomial (bs ++ cs) = X ^ cs.length * polynomial bs + polynomial cs := by
  induction bs with
  | nil => simp [polynomial]
  | cons b bs ih =>
    rw [List.cons_append, polynomial, polynomial, ih, List.length_append]
    cases b
    · simp
    · simp
      ring

theorem polynomial_replicate_false (n : Nat) : polynomial (List.replicate n false) = 0 := by
  induction n with
  | zero => rfl
  | succ n ih => simp [List.replicate_succ, polynomial, ih]

theorem degree_polynomial_lt (bs : List Bool) : (polynomial bs).degree < bs.length := by
  induction bs with
  | nil => exact WithBot.bot_lt_coe 0
  | cons b bs ih =>
    have hlt : ((bs.length : Nat) : WithBot Nat) < (b :: bs).length := by
      exact_mod_cast Nat.lt_succ_self bs.length
    refine lt_of_le_of_lt (degree_add_le _ _) (max_lt ?_ (ih.trans hlt))
    split
    · exact lt_of_le_of_lt (degree_X_pow_le _) hlt
    · exact WithBot.bot_lt_coe _

/-- Bits of one number are determined by their polynomial. -/
theorem polynomial_inj {bs cs : List Bool} (hlen : bs.length = cs.length)
    (h : polynomial bs = polynomial cs) : bs = cs := by
  induction bs generalizing cs with
  | nil => exact (List.length_eq_zero_iff.mp hlen.symm).symm
  | cons b bs ih =>
    cases cs with
    | nil => cases hlen
    | cons c cs =>
      have htail : bs.length = cs.length := Nat.succ.inj hlen
      have hbs := coeff_eq_zero_of_degree_lt (degree_polynomial_lt bs)
      have hcs := coeff_eq_zero_of_degree_lt (degree_polynomial_lt cs)
      -- the first bit is the coefficient that the others do not reach
      have hhead : b = c := by
        have hcoeff := congrArg (coeff · bs.length) h
        simp only [polynomial, coeff_add] at hcoeff
        rw [hbs, htail, hcs] at hcoeff
        cases b <;> cases c <;> simp at hcoeff ⊢
      rw [polynomial, polynomial, hhead, htail, add_right_inj] at h
      rw [hhead, ih htail h]

/-- Adding bits without a carry is adding their polynomials. -/
theorem polynomial_bits_xor (n x y : Nat) :
    polynomial (bits n (x ^^^ y)) = polynomial (bits n x) + polynomial (bits n y) := by
  induction n generalizing x y with
  | zero => simp [bits, polynomial]
  | succ n ih =>
    have htwo : (X ^ n : (ZMod 2)[X]) + X ^ n = 0 := CharTwo.add_self_eq_zero _
    rw [bits_succ, bits_succ, bits_succ, polynomial, polynomial, polynomial, Nat.testBit_xor,
      Nat.xor_div_two, ih, length_bits, length_bits, length_bits]
    cases x.testBit 0 <;> cases y.testBit 0
    · simp
    · simp
      ring
    · simp
      ring
    · simp
      linear_combination -htwo

/-- **The lowest bit moves out** at the top. -/
theorem X_mul_polynomial_bits {n x : Nat} (hx : x < 2 ^ n) :
    X * polynomial (bits n x) =
      (if x.testBit 0 then X ^ n else 0) + polynomial (bits n (x / 2)) := by
  induction n generalizing x with
  | zero =>
    obtain rfl : x = 0 := by omega
    simp [bits, polynomial]
  | succ n ih =>
    have hhalf : x / 2 < 2 ^ n := by
      rw [Nat.pow_succ] at hx
      omega
    rw [bits_succ n x, bits_succ n (x / 2), polynomial, polynomial, mul_add, ih hhalf,
      length_bits, length_bits]
    split <;> ring

/-! ## §2 — the generator -/

/-- The generator of CRC-32. -/
noncomputable def generator : (ZMod 2)[X] :=
  X ^ 32 + X ^ 26 + X ^ 23 + X ^ 22 + X ^ 16 + X ^ 12 + X ^ 11 + X ^ 10 + X ^ 8 + X ^ 7 + X ^ 5 +
    X ^ 4 + X ^ 2 + X + 1

theorem monic_generator : generator.Monic := by
  unfold generator
  monicity!

theorem degree_generator : generator.degree = 32 := by
  unfold generator
  compute_degree!

/-- The register's word for the generator lacks the highest coefficient alone. -/
theorem X_pow_add_polynomial_bits :
    X ^ 32 + polynomial (bits 32 0xEDB88320) = generator := by
  have hbits : bits 32 0xEDB88320 =
      [false, false, false, false, false, true, false, false, true, true, false, false, false,
        false, false, true, false, false, false, true, true, true, false, true, true, false, true,
        true, false, true, true, true] := by
    decide
  rw [hbits]
  simp [polynomial, generator]
  ring

/-- The generator's constant coefficient is one, so it has no factor in common with `X`. -/
theorem isCoprime_generator_X : IsCoprime generator X := by
  refine ⟨1, -(X ^ 31 + X ^ 25 + X ^ 22 + X ^ 21 + X ^ 15 + X ^ 11 + X ^ 10 + X ^ 9 + X ^ 7 +
    X ^ 6 + X ^ 4 + X ^ 3 + X + 1), ?_⟩
  unfold generator
  ring

/-! ## §3 — the register -/

/-- The register as a polynomial modulo the generator. -/
noncomputable def residue (register : UInt32) : AdjoinRoot generator :=
  AdjoinRoot.mk generator (polynomial (bits 32 register.toNat))

theorem residue_xor (r s : UInt32) : residue (r ^^^ s) = residue r + residue s := by
  unfold residue
  rw [UInt32.toNat_xor, polynomial_bits_xor, map_add]

theorem toNat_shift (r : UInt32) :
    (shift r).toNat =
      if r.toNat.testBit 0 then r.toNat / 2 ^^^ 0xEDB88320 else r.toNat / 2 := by
  have hhalf : (r >>> 1).toNat = r.toNat / 2 := by
    rw [UInt32.toNat_shiftRight]
    exact Nat.shiftRight_one r.toNat
  have hlow : (r &&& 1 = 1) = (r.toNat.testBit 0 = true) := by
    rw [← UInt32.toNat_inj, UInt32.toNat_and, Nat.testBit_zero]
    simp [Nat.and_one_is_mod]
  unfold shift
  rw [apply_ite UInt32.toNat, UInt32.toNat_xor, hhalf]
  simp only [hlow]
  rfl

/-- **A bit that leaves the register** multiplies it by `X`. -/
theorem residue_shift (r : UInt32) : residue (shift r) = AdjoinRoot.root generator * residue r := by
  have hmove := congrArg (AdjoinRoot.mk generator) (X_mul_polynomial_bits r.toNat_lt)
  rw [map_mul, AdjoinRoot.mk_X] at hmove
  unfold residue
  rw [hmove, toNat_shift]
  split
  · -- the bit that moved out is the highest coefficient of the generator, which is nothing
    have hgenerator : AdjoinRoot.mk generator (X ^ 32 + polynomial (bits 32 0xEDB88320)) = 0 := by
      rw [X_pow_add_polynomial_bits, AdjoinRoot.mk_self]
    have htwo : AdjoinRoot.mk generator (X ^ 32 + X ^ 32) = 0 := by
      rw [CharTwo.add_self_eq_zero, map_zero]
    rw [map_add] at hgenerator htwo ⊢
    rw [polynomial_bits_xor, map_add]
    linear_combination hgenerator - htwo
  · rw [zero_add]

theorem residue_shifts (n : Nat) (r : UInt32) :
    residue (shifts n r) = AdjoinRoot.root generator ^ n * residue r := by
  induction n generalizing r with
  | zero => rw [shifts, pow_zero, one_mul]
  | succ n ih => rw [shifts, ih, residue_shift, pow_succ, mul_assoc]

/-- The bits of a byte are the first ones of its word, and the others are zeros. -/
theorem polynomial_bits_toUInt32 (byte : UInt8) :
    polynomial (bits 32 byte.toUInt32.toNat) = X ^ 24 * polynomial (bits 8 byte.toNat) := by
  have hbits : bits 32 byte.toUInt32.toNat = bits 8 byte.toNat ++ List.replicate 24 false := by
    unfold bits
    rw [UInt8.toNat_toUInt32, show 32 = 8 + 24 from rfl, List.range_add, List.map_append,
      List.map_map]
    congr 1
    refine List.eq_replicate_iff.mpr ⟨by simp, fun b hb => ?_⟩
    obtain ⟨i, -, rfl⟩ := List.mem_map.mp hb
    have hpow : 2 ^ 8 ≤ 2 ^ (8 + i) := Nat.pow_le_pow_right (by decide) (Nat.le_add_right 8 i)
    exact Nat.testBit_lt_two_pow (byte.toNat_lt.trans_le hpow)
  rw [hbits, polynomial_append, polynomial_replicate_false, List.length_replicate, add_zero]

/-- **A byte that enters the register** is added in front, 32 places above its end. -/
theorem residue_enter (r : UInt32) (byte : UInt8) :
    residue (enter r byte) = AdjoinRoot.root generator ^ 8 * residue r +
      AdjoinRoot.mk generator (X ^ 32 * polynomial (bits 8 byte.toNat)) := by
  have hbyte : residue byte.toUInt32 =
      AdjoinRoot.root generator ^ 24 * AdjoinRoot.mk generator (polynomial (bits 8 byte.toNat)) := by
    rw [residue, polynomial_bits_toUInt32, map_mul, map_pow, AdjoinRoot.mk_X]
  rw [enter, residue_shifts, residue_xor, hbyte, map_mul, map_pow, AdjoinRoot.mk_X]
  ring

/-- **A message that enters the register.** Induction on the bytes. -/
theorem residue_foldl_enter (r : UInt32) (bytes : List UInt8) :
    residue (bytes.foldl enter r) = AdjoinRoot.root generator ^ (8 * bytes.length) * residue r +
      AdjoinRoot.mk generator (X ^ 32 * polynomial (message bytes)) := by
  induction bytes generalizing r with
  | nil => simp [message, polynomial]
  | cons byte bytes ih =>
    have hmessage : message (byte :: bytes) = bits 8 byte.toNat ++ message bytes := rfl
    rw [List.foldl_cons, ih, residue_enter, hmessage, polynomial_append, length_message,
      List.length_cons]
    simp only [map_mul, map_add, map_pow, AdjoinRoot.mk_X]
    ring

/-! ## §4 — the checksum -/

/-- **The checksum is a remainder.** Put 32 zeros behind the message, complement its first 32 bits,
divide by the generator, and complement the remainder. -/
theorem remainder_checksum (bytes : List UInt8) :
    polynomial (bits 32 (checksum bytes ^^^ 0xFFFFFFFF).toNat) =
      (X ^ 32 * polynomial (message bytes) +
        X ^ (8 * bytes.length) * polynomial (List.replicate 32 true)) %ₘ generator := by
  have hregister : checksum bytes ^^^ 0xFFFFFFFF = bytes.foldl enter 0xFFFFFFFF := by
    rw [checksum, UInt32.xor_assoc, UInt32.xor_self, UInt32.xor_zero]
  have hones : bits 32 (0xFFFFFFFF : UInt32).toNat = List.replicate 32 true := by decide
  have hmessage := residue_foldl_enter 0xFFFFFFFF bytes
  rw [residue, residue, hones, ← AdjoinRoot.mk_X, ← map_pow, ← map_mul, ← map_add, add_comm,
    AdjoinRoot.mk_eq_mk] at hmessage
  -- the register is congruent to the message, and too short to be divided
  have hshort : (polynomial (bits 32 (bytes.foldl enter 0xFFFFFFFF).toNat)).degree <
      generator.degree := by
    rw [degree_generator]
    exact_mod_cast degree_polynomial_lt (bits 32 (bytes.foldl enter 0xFFFFFFFF).toNat)
  rw [hregister, ← (modByMonic_eq_self_iff monic_generator).mpr hshort]
  exact modByMonic_eq_of_dvd_sub monic_generator hmessage

-- the digits from 1 to 9
example : checksum [0x31, 0x32, 0x33, 0x34, 0x35, 0x36, 0x37, 0x38, 0x39] = 0xCBF43926 := by cbv

/-- Messages of one length that have the same checksum differ by a multiple of the generator. -/
theorem generator_dvd_of_checksum_eq {bytes bytes' : List UInt8}
    (hlen : bytes.length = bytes'.length) (h : checksum bytes = checksum bytes') :
    generator ∣ polynomial (message bytes) - polynomial (message bytes') := by
  have hregister : bytes.foldl enter 0xFFFFFFFF = bytes'.foldl enter 0xFFFFFFFF :=
    (UInt32.xor_left_inj _).mp h
  have hresidue := congrArg residue hregister
  rw [residue_foldl_enter, residue_foldl_enter, hlen, add_right_inj, AdjoinRoot.mk_eq_mk,
    ← mul_sub] at hresidue
  exact isCoprime_generator_X.pow_right.dvd_of_dvd_mul_left hresidue

/-- **A byte that is another one** makes the checksum another one, wherever it stands. -/
theorem checksum_ne_of_byte_ne (front back : List UInt8) {byte byte' : UInt8}
    (h : byte ≠ byte') :
    checksum (front ++ byte :: back) ≠ checksum (front ++ byte' :: back) := by
  intro hsame
  have hdvd := generator_dvd_of_checksum_eq (by simp) hsame
  -- what is in front of the byte and behind it is the same in both messages
  have hdiff : polynomial (message (front ++ byte :: back)) -
      polynomial (message (front ++ byte' :: back)) =
      X ^ (8 * back.length) *
        (polynomial (bits 8 byte.toNat) - polynomial (bits 8 byte'.toNat)) := by
    simp only [message, List.flatMap_append, List.flatMap_cons, polynomial_append,
      List.length_append, length_bits]
    rw [← message, length_message]
    ring
  rw [hdiff] at hdvd
  have hbyte := isCoprime_generator_X.pow_right.dvd_of_dvd_mul_left hdvd
  -- the difference is shorter than the generator, so it is nothing
  have hdegree : (polynomial (bits 8 byte.toNat) - polynomial (bits 8 byte'.toNat)).degree <
      generator.degree := by
    have hbits := degree_polynomial_lt (bits 8 byte.toNat)
    have hbits' := degree_polynomial_lt (bits 8 byte'.toNat)
    rw [length_bits] at hbits hbits'
    rw [degree_generator]
    exact (lt_of_le_of_lt (degree_sub_le _ _) (max_lt hbits hbits')).trans (by decide)
  have hzero : polynomial (bits 8 byte.toNat) - polynomial (bits 8 byte'.toNat) = 0 := by
    by_contra hne
    exact monic_generator.not_dvd_of_degree_lt hne hdegree hbyte
  have heq := polynomial_inj (by simp) (sub_eq_zero.mp hzero)
  exact h (UInt8.toNat_inj.mp (bits_inj byte.toNat_lt byte'.toNat_lt heq))

theorem xor_mask_ne {byte mask : UInt8} (hmask : mask ≠ 0) : byte ^^^ mask ≠ byte :=
  fun h => hmask ((UInt8.xor_right_inj byte).mp (h.trans UInt8.xor_zero.symm))

theorem checksum_modify_ne {bytes : List UInt8} {i : Nat} (hi : i < bytes.length) {mask : UInt8}
    (hmask : mask ≠ 0) : checksum (bytes.modify i (· ^^^ mask)) ≠ checksum bytes := by
  have hother : bytes[i] ^^^ mask ≠ bytes[i] := xor_mask_ne hmask
  have hbytes : bytes.take i ++ bytes[i] :: bytes.drop (i + 1) = bytes := by
    rw [← List.drop_eq_getElem_cons hi, List.take_append_drop]
  have hne := checksum_ne_of_byte_ne (bytes.take i) (bytes.drop (i + 1)) hother
  rwa [hbytes, ← List.modify_eq_take_cons_drop hi (f := (· ^^^ mask))] at hne

end Checksum

end DocStore
