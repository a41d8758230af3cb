/-!
# DocStore — binary64 numbers, exactly

The doubles of a document are kept as what they are: a sign and a whole number of
*units*, the unit being the least positive double, `2 ^ -1074`. Every finite double is a
whole multiple of it, so comparing two of them is comparing two integers, and each
arithmetic operation is one exact integer computation followed by one rounding to the
nearest double, ties to the even significand (`Binary64.roundQuotient`).

Nothing here uses the run-time `Float`, so all of it can be unfolded in a proof.
-/

namespace DocStore

-- a power of numbers is the one of the core library, whatever a module imports besides
attribute [instance (high), default_instance (high + 1)] instPowNat

/-- A finite double: `mant · 2 ^ exp` units, with a sign that zero keeps too. -/
structure Binary64.Finite where
  negative : Bool
  mant : Nat
  exp : Nat
  mant_lt : mant < 2 ^ 53
  exp_le : exp ≤ 2045
  /-- Only the least exponent holds significands of fewer than 53 bits. -/
  canonical : exp = 0 ∨ 2 ^ 52 ≤ mant
deriving DecidableEq, Repr

/-- A double: finite, one of the two infinities, or not a number. -/
inductive Binary64 where
  | finite (x : Binary64.Finite)
  | infinite (negative : Bool)
  | nan
deriving DecidableEq, Repr

namespace Binary64

/-- How many units make one: `2 ^ 1074`. -/
def unitsPerOne : Nat := 2 ^ 1074

/-! ## Finite doubles as whole numbers of units -/

namespace Finite

/-- Zero of either sign. -/
def zero (negative : Bool) : Finite where
  negative := negative
  mant := 0
  exp := 0
  mant_lt := by decide
  exp_le := by decide
  canonical := Or.inl rfl

instance : Inhabited Finite := ⟨zero false⟩

/-- The greatest finite double of either sign. -/
def greatest (negative : Bool) : Finite where
  negative := negative
  mant := 2 ^ 53 - 1
  exp := 2045
  mant_lt := by decide
  exp_le := by decide
  canonical := Or.inr (by decide)

/-- The double with these parts, when they are the parts of one. -/
def ofParts? (negative : Bool) (mant exp : Nat) : Option Finite :=
  if h : mant < 2 ^ 53 ∧ exp ≤ 2045 ∧ (exp = 0 ∨ 2 ^ 52 ≤ mant) then
    some { negative, mant, exp, mant_lt := h.1, exp_le := h.2.1, canonical := h.2.2 }
  else none

/-- The distance from zero, in units. -/
def magnitude (x : Finite) : Nat := x.mant * 2 ^ x.exp

/-- The value, in units. Both zeros are `0`. -/
def units (x : Finite) : Int :=
  if x.negative then -(x.magnitude : Int) else x.magnitude

/-- The order of the values. -/
def compare (x y : Finite) : Ordering := Ord.compare x.units y.units

/-- Equality of the values, which does not tell the two zeros apart. -/
def equal (x y : Finite) : Bool := x.units == y.units

/-- The integer a double is equal to, when it is a whole number. -/
def toInt? (x : Finite) : Option Int :=
  if x.magnitude % unitsPerOne = 0 then
    let n : Int := (x.magnitude / unitsPerOne : Nat)
    some (if x.negative then -n else n)
  else none

end Finite

/-! ## Rounding -/

/-- The quotient rounded to the nearest whole number, a tie going to the even one. -/
def roundToEven (num den : Nat) : Nat :=
  let floor := num / den
  let twice := 2 * (num % den)
  if twice < den then floor
  else if den < twice then floor + 1
  else floor + floor % 2

/--
The double nearest to `num / den` units. The exponent is chosen so that the significand has
53 bits where the quotient is that large; a significand that rounds up to `2 ^ 53` moves to the
next exponent, and what lies past the greatest exponent is infinite.
-/
def roundQuotient (negative : Bool) (num den : Nat) : Binary64 :=
  let whole := num / den
  let exp := if whole < 2 ^ 53 then 0 else whole.log2 - 52
  let mant := roundToEven num (den * 2 ^ exp)
  let parts := if mant = 2 ^ 53 then Finite.ofParts? negative (2 ^ 52) (exp + 1)
    else Finite.ofParts? negative mant exp
  match parts with
  | some x => finite x
  | none => infinite negative

/-- The double nearest to a whole number of units. -/
def ofUnits (u : Int) : Binary64 := roundQuotient (decide (u < 0)) u.natAbs 1

/-- The double nearest to an integer, clamped to the finite range, which no integer of 64 bits
leaves. -/
def Finite.ofInt (n : Int) : Finite :=
  match ofUnits (n * unitsPerOne) with
  | finite x => x
  | _ => greatest (decide (n < 0))

/-! ## Arithmetic

Each result is the exact one rounded once. A sum that is exactly zero is negative only when both
terms are negative zeros; the sign of a product or a quotient is that of its operands multiplied.
-/

namespace Finite

/-- The sum of two finite doubles, rounded once. -/
def add (x y : Finite) : Binary64 :=
  let sum := x.units + y.units
  if sum = 0 then finite (zero (x.negative && y.negative)) else ofUnits sum

/-- The product of two finite doubles, rounded once. -/
def mul (x y : Finite) : Binary64 :=
  roundQuotient (x.negative != y.negative) (x.magnitude * y.magnitude) unitsPerOne

/-- The quotient of two finite doubles, rounded once; by zero it is infinite, or not a number
when the dividend is zero too. -/
def div (x y : Finite) : Binary64 :=
  if y.magnitude = 0 then
    if x.magnitude = 0 then nan else infinite (x.negative != y.negative)
  else roundQuotient (x.negative != y.negative) (x.magnitude * unitsPerOne) y.magnitude

end Finite

/-- Addition: opposite infinities have no sum. -/
def add : Binary64 → Binary64 → Binary64
  | nan, _ | _, nan => nan
  | finite x, finite y => x.add y
  | infinite a, infinite b => if a = b then infinite a else nan
  | infinite a, finite _ => infinite a
  | finite _, infinite b => infinite b

/-- Division by a finite double; an infinite dividend keeps its size. -/
def divFinite : Binary64 → Finite → Binary64
  | nan, _ => nan
  | infinite a, y => infinite (a != y.negative)
  | finite x, y => x.div y

/-- The sum of a list, taken from the left. It starts at the negative zero, the one number that
changes no term it is added to. -/
def sum (xs : List Finite) : Binary64 :=
  xs.foldl (fun acc x => acc.add (finite x)) (finite (Finite.zero true))

/-! ## Decimals -/

/--
The double nearest to `digits · 10 ^ exp10`. A decimal with no digit before the 400th place, or
with its first digit beyond the 400th place behind the point, is decided without the power.
-/
def ofDecimal (negative : Bool) (digits : Nat) (exp10 : Int) : Binary64 :=
  if digits = 0 then finite (Finite.zero negative)
  else
    -- the decimal lies between 10 ^ (top - 1) and 10 ^ top, give or take one place
    let top : Int := exp10 + (digits.log2 * 30103 / 100000 + 1 : Nat)
    if 400 < top then infinite negative
    else if top < -400 then finite (Finite.zero negative)
    else if 0 ≤ exp10 then roundQuotient negative (digits * 10 ^ exp10.toNat * unitsPerOne) 1
    else roundQuotient negative (digits * unitsPerOne) (10 ^ exp10.natAbs)

end Binary64

end DocStore
