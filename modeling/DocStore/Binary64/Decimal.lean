import DocStore.Binary64.Basic

/-!
# DocStore — the decimal text of a double

A double is written with the fewest digits that read back as the same double, and of those with
the ones nearest to its exact value (`Finite.shortest`). Reading back is `Binary64.ofDecimal`, so
the digits are right by their own test. How digits and exponent are laid out as text is one
record, `Layout`, and `Layout.json` is the one that documents use.
-/

namespace DocStore

namespace Binary64

/-- A positive decimal: `digits · 10 ^ exp10`. -/
structure Decimal where
  digits : Nat
  exp10 : Int
deriving DecidableEq, Repr

/-- The same decimal without zeros at the end of its digits; `fuel` bounds how many are taken. -/
def Decimal.stripZeros : Nat → Decimal → Decimal
  | 0, d => d
  | fuel + 1, d =>
    if d.digits % 10 = 0 then stripZeros fuel ⟨d.digits / 10, d.exp10 + 1⟩ else d

/-! ## The shortest digits -/

namespace Finite

/-- The exact value of a double is `exactDigits · 10 ^ -1074`, since a unit is
`5 ^ 1074 · 10 ^ -1074`. -/
def exactDigits (x : Finite) : Nat := x.magnitude * 5 ^ 1074

/-- Whether a decimal, with the sign of `x`, reads back as `x`. -/
def readsBack (x : Finite) (d : Decimal) : Bool :=
  ofDecimal x.negative d.digits d.exp10 = finite x

/--
The decimal on the grid `10 ^ (place - 1074)` that reads back as `x`: one of the two grid points
around the exact value, the nearer one if both do, the even one on a tie. Only the upper point can
end in a zero on the coarsest grid that has a hit, when it is a power of ten.
-/
def onGrid? (x : Finite) (place : Nat) : Option Decimal :=
  let step := 10 ^ place
  let below : Decimal := ⟨x.exactDigits / step, (place : Int) - 1074⟩
  let above := Decimal.stripZeros 17 ⟨below.digits + 1, below.exp10⟩
  match x.readsBack below, x.readsBack above with
  | true, true => some (if roundToEven x.exactDigits step = below.digits then below else above)
  | true, false => some below
  | false, true => some above
  | false, false => none

/-- How many decimal digits a number has. -/
def digitCount (n : Nat) : Nat := (Nat.toDigits 10 n).length

/-- The fewest digits that read back as `x`: grids of one, two, … seventeen digits are tried in
turn, and seventeen always suffice. -/
def shortest (x : Finite) : Decimal :=
  let count := digitCount x.exactDigits
  match (List.range 17).findSome? fun i => x.onGrid? (count - (i + 1)) with
  | some d => d
  | none => ⟨x.exactDigits, -1074⟩

end Finite

/-! ## Layout -/

/-- How a decimal is laid out. -/
structure Layout where
  /-- The least and the greatest place of the point, counted from the first digit, at which the
  number is written without an exponent. -/
  leastPoint : Int
  greatestPoint : Int
  /-- What a whole number written without an exponent ends in. -/
  wholeTail : List Char
  /-- What stands before the exponent, and before one that is not negative. -/
  exponentMark : List Char
  exponentPlus : List Char

/-- Documents write a double without an exponent from `0.00001` up to below `10 ^ 16`, with `.0`
at the end of a whole number, and with a signed exponent otherwise. -/
def Layout.json : Layout where
  leastPoint := -4
  greatestPoint := 16
  wholeTail := ['.', '0']
  exponentMark := ['e']
  exponentPlus := ['+']

/-- The decimal digits of a number. -/
def digitChars (n : Nat) : List Char := Nat.toDigits 10 n

/-- The text of a positive decimal. -/
def Layout.chars (l : Layout) (d : Decimal) : List Char :=
  let ds := digitChars d.digits
  let point : Int := ds.length + d.exp10
  if l.leastPoint ≤ point ∧ point ≤ l.greatestPoint then
    if 0 ≤ d.exp10 then ds ++ List.replicate d.exp10.toNat '0' ++ l.wholeTail
    else if 0 < point then ds.take point.toNat ++ '.' :: ds.drop point.toNat
    else '0' :: '.' :: List.replicate (-point).toNat '0' ++ ds
  else
    let exponent := point - 1
    let head := match ds with
      | first :: second :: rest => first :: '.' :: second :: rest
      | short => short
    let sign := if exponent < 0 then ['-'] else l.exponentPlus
    head ++ l.exponentMark ++ sign ++ digitChars exponent.natAbs

/-- The text of a finite double. Zero is written as the whole number it is. -/
def Finite.chars (l : Layout) (x : Finite) : List Char :=
  let sign := if x.negative then ['-'] else []
  sign ++ if x.magnitude = 0 then '0' :: l.wholeTail else l.chars x.shortest

end Binary64

end DocStore
