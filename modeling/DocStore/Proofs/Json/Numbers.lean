import DocStore.Proofs.Binary64.Shortest
import DocStore.Proofs.Json.Digits

/-!
# DocStore — the texts of numbers

The text of a number has parts: a sign, the digits of the whole part, digits behind a point, and an
exponent. A `Numeral` is such parts, with what makes them the parts of one text, and every number is
written as one. A reader takes the parts apart again, so that the text says what they are, and where the
number ends.

What the parts denote is the double nearest to the decimal, and it is the number that was written. What the
reader makes of them is another matter, since it rounds more than once.

* **`Json.Numeral.numberAt_chars`** — a numeral is read as what the reader makes of its parts.
* **`Json.Numeral.chars_append_inj`** — no two numerals have one text.
* **`Json.exists_numeral`** — every number is written as a numeral that denotes it.
* **`Number.chars_append_inj`** — no two numbers have one text, whatever their kinds.
-/

namespace DocStore

namespace Json

open Binary64 (digitChars Decimal Layout)

/-! ## §1 — the parts of a text -/

/-- What a digit, a point or an exponent does not follow. -/
def Stops (rest : List Char) : Prop :=
  ∀ c ∈ rest.head?, c.isDigit = false ∧ c ≠ '.' ∧ c ≠ 'e' ∧ c ≠ 'E'

@[simp] theorem stops_nil : Stops [] := by
  intro c hc
  cases hc

theorem stops_cons {c : Char} (rest : List Char)
    (h : c.isDigit = false ∧ c ≠ '.' ∧ c ≠ 'e' ∧ c ≠ 'E') : Stops (c :: rest) := by
  intro c' hc'
  obtain rfl := Option.some.inj hc'
  exact h

def fractionText : Option (List Char) → List Char
  | none => []
  | some ds => '.' :: ds

def exponentText : Option Int → List Char
  | none => []
  | some e => 'e' :: (if e < 0 then '-' else '+') :: digitChars e.natAbs

section

variable {ds rest : List Char}

theorem takeWhile_digits (hds : AreDigits ds) (hrest : ∀ c ∈ rest.head?, c.isDigit = false) :
    (ds ++ rest).takeWhile Char.isDigit = ds := by
  rw [List.takeWhile_append_of_pos hds.all]
  cases rest with
  | nil => exact List.append_nil ds
  | cons c rest =>
    have hc : ¬ c.isDigit = true := by
      rw [hrest c rfl]
      exact Bool.false_ne_true
    rw [List.takeWhile_cons_of_neg hc, List.append_nil]

theorem integerDigits_append (hds : AreDigits ds) (hplain : IsPlain ds)
    (hrest : ∀ c ∈ rest.head?, c.isDigit = false) :
    integerDigits (ds ++ rest) = some (ds, rest) := by
  unfold integerDigits
  dsimp only
  rw [takeWhile_digits hds hrest, List.drop_left]
  split
  · next hnil => exact absurd rfl hds.nonempty
  · rcases hplain with hzero | hhead
    · cases hzero
    · exact absurd rfl hhead
  · rfl

theorem fractionDigits_append {fraction : Option (List Char)} (hds : ∀ ds ∈ fraction, AreDigits ds)
    (hrest : ∀ c ∈ rest.head?, c.isDigit = false ∧ c ≠ '.') :
    fractionDigits (fractionText fraction ++ rest) = some (fraction, rest) := by
  cases fraction with
  | none =>
    show fractionDigits rest = some (none, rest)
    unfold fractionDigits
    split
    · next hcons => exact absurd rfl (hrest '.' rfl).2
    · rfl
  | some ds =>
    have hdigits := hds ds rfl
    have hempty : ds.isEmpty = false := List.isEmpty_eq_false_iff.mpr hdigits.nonempty
    have hread := takeWhile_digits hdigits fun c hc => (hrest c hc).1
    show fractionDigits ('.' :: (ds ++ rest)) = some (some ds, rest)
    simp only [fractionDigits, hread, hempty, List.drop_left]
    rfl

theorem exponent_append (e : Option Int) (hrest : Stops rest) :
    exponent (exponentText e ++ rest) = some (e, rest) := by
  cases e with
  | none =>
    show exponent rest = some (none, rest)
    cases rest with
    | nil => rfl
    | cons c rest =>
      obtain ⟨-, -, hlower, hupper⟩ := hrest c rfl
      simp [exponent, hlower, hupper]
  | some e =>
    have hdigits := areDigits_digitChars e.natAbs
    have hempty : (digitChars e.natAbs).isEmpty = false :=
      List.isEmpty_eq_false_iff.mpr hdigits.nonempty
    have hread := takeWhile_digits hdigits fun c hc => (hrest c hc).1
    have hvalue := natOfDigits_digitChars e.natAbs
    unfold exponentText exponent
    by_cases hneg : e < 0
    · have hminus : -(natOfDigits (digitChars e.natAbs) : Int) = e := by omega
      simp [-natOfDigits_digitChars, hneg, hread, hempty, hminus]
    · have hplain : (natOfDigits (digitChars e.natAbs) : Int) = e := by omega
      simp [-natOfDigits_digitChars, hneg, hread, hempty, hplain]

end

/-! ## §2 — numerals -/

/-- The parts of a number's text. -/
@[ext] structure Numeral where
  negative : Bool
  whole : List Char
  fraction : Option (List Char)
  exponent : Option Int
  whole_digits : AreDigits whole
  whole_plain : IsPlain whole
  fraction_digits : ∀ ds ∈ fraction, AreDigits ds

/-- What is written in front of a number. -/
def signText (negative : Bool) : List Char := if negative then ['-'] else []

namespace Numeral

def chars (m : Numeral) : List Char :=
  signText m.negative ++ (m.whole ++ (fractionText m.fraction ++ exponentText m.exponent))

/-- The text is that of a double. -/
def IsDouble (m : Numeral) : Prop := m.fraction ≠ none ∨ m.exponent ≠ none

/-- The double nearest to the decimal with these parts. -/
def nearest (m : Numeral) : Binary64 :=
  Binary64.ofDecimal m.negative (natOfDigits (m.whole ++ m.fraction.getD []))
    (m.exponent.getD 0 - (m.fraction.getD []).length)

section

variable (m : Numeral) {rest : List Char}

/-- The exponent is not taken for digits, and neither is what follows the text. -/
theorem exponent_stops (hrest : Stops rest) :
    ∀ c ∈ (exponentText m.exponent ++ rest).head?, c.isDigit = false ∧ c ≠ '.' := by
  cases m.exponent with
  | none =>
    intro c hc
    obtain ⟨hdigit, hpoint, -⟩ := hrest c hc
    exact ⟨hdigit, hpoint⟩
  | some e =>
    intro c hc
    obtain rfl := Option.some.inj hc
    decide

theorem fraction_stops (hrest : Stops rest) :
    ∀ c ∈ (fractionText m.fraction ++ (exponentText m.exponent ++ rest)).head?,
      c.isDigit = false := by
  cases m.fraction with
  | none => exact fun c hc => (m.exponent_stops hrest c hc).1
  | some ds =>
    intro c hc
    obtain rfl := Option.some.inj hc
    rfl

/-- The first character behind the sign is a digit. -/
theorem exists_whole_eq : ∃ c cs, m.whole = c :: cs ∧ c.isDigit = true := by
  obtain ⟨c, cs, hwhole⟩ := List.exists_cons_of_ne_nil m.whole_digits.nonempty
  exact ⟨c, cs, hwhole, m.whole_digits.all c (by rw [hwhole]; exact List.mem_cons_self)⟩

theorem chars_append : m.chars ++ rest =
    signText m.negative ++ (m.whole ++ (fractionText m.fraction ++ (exponentText m.exponent ++ rest))) := by
  simp only [chars, List.append_assoc]

/-- A text that starts with a digit has no sign. -/
theorem whole_append_ne (rest rest' : List Char) : m.whole ++ rest ≠ '-' :: rest' := by
  obtain ⟨c, cs, hwhole, hdigit⟩ := m.exists_whole_eq
  rw [hwhole]
  intro h
  obtain ⟨rfl, -⟩ := List.cons.inj h
  exact absurd hdigit (by decide)

/-- **A numeral is read as what the reader makes of its parts**, in front of whatever stops it. -/
theorem numberAt_chars (hrest : Stops rest) :
    numberAt (m.chars ++ rest)
      = (numberOf m.negative m.whole m.fraction m.exponent).map fun n => (n, rest) := by
  have hwhole := integerDigits_append m.whole_digits m.whole_plain (m.fraction_stops hrest)
  have hfraction := fractionDigits_append m.fraction_digits (m.exponent_stops hrest)
  have hexponent := exponent_append m.exponent hrest
  have hsign := m.whole_append_ne (fractionText m.fraction ++ (exponentText m.exponent ++ rest))
  rw [chars_append]
  unfold numberAt
  -- the sign is taken off first, and what is left starts with a digit
  generalize m.whole ++ _ = body at hwhole hsign ⊢
  split
  next negative cs hsigned =>
  have hparts : (m.negative, body) = (negative, cs) := by
    rw [← hsigned]
    cases m.negative with
    | true => rfl
    | false =>
      split
      · next rest' heq => exact absurd heq (hsign rest')
      · rfl
  obtain ⟨rfl, rfl⟩ := Prod.mk.inj hparts
  simp only [hwhole, hfraction, hexponent, Option.bind_eq_bind, Option.bind_some]
  exact Option.map_eq_bind.symm

/-- A sign is told from a digit. -/
theorem sign_append_inj {m m' : Numeral} {rest rest' : List Char}
    (h : signText m.negative ++ (m.whole ++ rest) = signText m'.negative ++ (m'.whole ++ rest')) :
    m.negative = m'.negative ∧ m.whole ++ rest = m'.whole ++ rest' := by
  cases hsign : m.negative <;> cases hsign' : m'.negative <;> rw [hsign, hsign'] at h
  · exact ⟨rfl, h⟩
  · exact absurd h (m.whole_append_ne rest _)
  · exact absurd h.symm (m'.whole_append_ne rest' _)
  · exact ⟨rfl, (List.cons.inj h).2⟩

/-- **No two numerals have one text**, and the text says where the numeral ends. Its parts are taken off
one by one, as they are read. -/
theorem chars_append_inj {m m' : Numeral} {rest rest' : List Char} (hrest : Stops rest)
    (hrest' : Stops rest') (h : m.chars ++ rest = m'.chars ++ rest') : m = m' ∧ rest = rest' := by
  rw [chars_append, chars_append] at h
  obtain ⟨hnegative, hbody⟩ := sign_append_inj h
  have hwhole := integerDigits_append m.whole_digits m.whole_plain (m.fraction_stops hrest)
  rw [hbody, integerDigits_append m'.whole_digits m'.whole_plain (m'.fraction_stops hrest')] at hwhole
  obtain ⟨hwhole, hbehind⟩ := Prod.mk.inj (Option.some.inj hwhole)
  have hfraction := fractionDigits_append m.fraction_digits (m.exponent_stops hrest)
  rw [← hbehind, fractionDigits_append m'.fraction_digits (m'.exponent_stops hrest')] at hfraction
  obtain ⟨hfraction, hend⟩ := Prod.mk.inj (Option.some.inj hfraction)
  have hexponent := exponent_append m.exponent hrest
  rw [← hend, exponent_append m'.exponent hrest'] at hexponent
  obtain ⟨hexponent, hrests⟩ := Prod.mk.inj (Option.some.inj hexponent)
  exact ⟨Numeral.ext hnegative hwhole.symm hfraction.symm hexponent.symm, hrests.symm⟩

end

end Numeral

/-! ## §3 — decimals -/

/-- A numeral with this text, which denotes the double nearest to a decimal. -/
structure Numeral.Writes (m : Numeral) (negative : Bool) (d : Decimal) (cs : List Char) : Prop where
  chars : m.chars = signText negative ++ cs
  isDouble : m.IsDouble
  nearest : m.nearest = Binary64.ofDecimal negative d.digits d.exp10

theorem Numeral.writes_of {m : Numeral} {d : Decimal} {cs : List Char} (hdouble : m.IsDouble)
    (hchars : m.whole ++ (fractionText m.fraction ++ exponentText m.exponent) = cs)
    (hdigits : natOfDigits (m.whole ++ m.fraction.getD []) = d.digits)
    (hexp : m.exponent.getD 0 - (m.fraction.getD []).length = d.exp10) :
    m.Writes m.negative d cs where
  chars := congrArg (signText m.negative ++ ·) hchars
  isDouble := hdouble
  nearest := by rw [Numeral.nearest, hdigits, hexp]

theorem areDigits_singleton {c : Char} (h : c.isDigit = true) : AreDigits [c] :=
  ⟨List.cons_ne_nil _ _, fun _ hc => List.mem_singleton.mp hc ▸ h⟩

theorem areDigits_some {ds : List Char} (h : AreDigits ds) : ∀ ds' ∈ some ds, AreDigits ds' :=
  fun _ hds => Option.some.inj hds ▸ h

section

variable (negative : Bool) {d : Decimal}

/-- A whole number with a zero behind the point. -/
theorem exists_writes_whole {n e : Nat} (hne : n ≠ 0) (hsmall : n < 10 ^ 16) (he : e ≤ 16) :
    ∃ m : Numeral, m.Writes negative ⟨n, e⟩ (digitChars n ++ List.replicate e '0' ++ ['.', '0']) := by
  have hdigits : AreDigits (digitChars n ++ List.replicate e '0') :=
    (areDigits_digitChars n).append fun _ => isDigit_of_mem_zeros
  have hplain : IsPlain (digitChars n ++ List.replicate e '0') := by
    right
    rw [List.head?_append_of_ne_nil _ (areDigits_digitChars n).nonempty]
    exact head?_digitChars hne
  have hvalue : natOfDigits (digitChars n ++ List.replicate e '0' ++ ['0']) = n * 10 ^ (e + 1) := by
    rw [List.append_assoc, ← List.replicate_succ', natOfDigits_append_zeros, natOfDigits_digitChars]
  let m : Numeral := ⟨negative, _, some ['0'], none, hdigits, hplain,
    areDigits_some (areDigits_singleton rfl)⟩
  obtain ⟨hchars, hdouble, hnearest⟩ : m.Writes negative ⟨n * 10 ^ (e + 1), -1⟩ _ :=
    Numeral.writes_of (.inl (Option.some_ne_none _)) rfl hvalue rfl
  exact ⟨m, hchars, hdouble, hnearest.trans (Binary64.ofDecimal_mul_pow negative hne hsmall he)⟩

/-- A point among the digits. -/
theorem exists_writes_point (hne : d.digits ≠ 0) {p : Nat} (hpos : 0 < p)
    (hp : p = (digitChars d.digits).length + d.exp10) (hexp : d.exp10 < 0) :
    ∃ m : Numeral, m.Writes negative d
      ((digitChars d.digits).take p ++ '.' :: (digitChars d.digits).drop p) := by
  have hall := (areDigits_digitChars d.digits).all
  have hhead := head?_digitChars hne
  have hvalue := natOfDigits_digitChars d.digits
  generalize digitChars d.digits = ds at hp hall hhead hvalue ⊢
  have hlength : p < ds.length := by omega
  have hwhole : AreDigits (ds.take p) :=
    ⟨List.ne_nil_of_length_pos (by rw [List.length_take]; omega),
      fun c hc => hall c (List.mem_of_mem_take hc)⟩
  have hfraction : AreDigits (ds.drop p) :=
    ⟨List.ne_nil_of_length_pos (by rw [List.length_drop]; omega),
      fun c hc => hall c (List.mem_of_mem_drop hc)⟩
  have hplain : IsPlain (ds.take p) := by
    right
    rwa [List.head?_take, if_neg (by omega)]
  let m : Numeral := ⟨negative, _, some (ds.drop p), none, hwhole, hplain, areDigits_some hfraction⟩
  refine ⟨m, Numeral.writes_of (.inl (Option.some_ne_none _)) ?_ ?_ ?_⟩
  · show ds.take p ++ ('.' :: ds.drop p ++ []) = _
    rw [List.append_nil]
  · show natOfDigits (ds.take p ++ ds.drop p) = _
    rw [List.take_append_drop, hvalue]
  · show 0 - ((ds.drop p).length : Int) = _
    rw [List.length_drop]
    omega

/-- All digits behind the point, perhaps after zeros. -/
theorem exists_writes_below {z : Nat} (hz : -(z : Int) = (digitChars d.digits).length + d.exp10) :
    ∃ m : Numeral, m.Writes negative d
      ('0' :: '.' :: List.replicate z '0' ++ digitChars d.digits) := by
  have hdigits := areDigits_digitChars d.digits
  have hfraction : AreDigits (List.replicate z '0' ++ digitChars d.digits) :=
    ⟨List.append_ne_nil_of_right_ne_nil _ hdigits.nonempty,
      fun c hc => (List.mem_append.mp hc).elim isDigit_of_mem_zeros (hdigits.all c)⟩
  let m : Numeral := ⟨negative, ['0'], some (List.replicate z '0' ++ digitChars d.digits), none,
    areDigits_singleton rfl, .inl rfl, areDigits_some hfraction⟩
  refine ⟨m, Numeral.writes_of (.inl (Option.some_ne_none _)) ?_ ?_ ?_⟩
  · show ['0'] ++ ('.' :: (List.replicate z '0' ++ digitChars d.digits) ++ []) = _
    rw [List.append_nil]
    rfl
  · show natOfDigits (List.replicate (z + 1) '0' ++ digitChars d.digits) = _
    rw [natOfDigits_zeros_append, natOfDigits_digitChars]
  · show 0 - ((List.replicate z '0' ++ digitChars d.digits).length : Int) = _
    rw [List.length_append, List.length_replicate]
    omega

/-- One digit, a point when there are more, and an exponent. -/
theorem exists_writes_exponent (hne : d.digits ≠ 0) {e : Int}
    (he : e = (digitChars d.digits).length + d.exp10 - 1) :
    ∃ m : Numeral, m.Writes negative d
      ((match digitChars d.digits with
        | first :: second :: rest => first :: '.' :: second :: rest
        | short => short) ++ exponentText e) := by
  obtain ⟨hnonempty, hall⟩ := areDigits_digitChars d.digits
  have hhead := head?_digitChars hne
  have hvalue := natOfDigits_digitChars d.digits
  generalize digitChars d.digits = ds at he hnonempty hall hhead hvalue ⊢
  match ds with
  | [] => exact absurd rfl hnonempty
  | [first] =>
    let m : Numeral := ⟨negative, [first], none, some e, ⟨hnonempty, hall⟩, .inr hhead, nofun⟩
    refine ⟨m, Numeral.writes_of (.inr (Option.some_ne_none _)) rfl hvalue ?_⟩
    show e - (0 : Nat) = _
    rw [List.length_singleton] at he
    omega
  | first :: second :: rest =>
    have hwhole : AreDigits [first] := areDigits_singleton (hall first List.mem_cons_self)
    have hfraction : AreDigits (second :: rest) :=
      ⟨List.cons_ne_nil _ _, fun c hc => hall c (List.mem_cons_of_mem _ hc)⟩
    let m : Numeral := ⟨negative, [first], some (second :: rest), some e, hwhole, .inr hhead,
      areDigits_some hfraction⟩
    refine ⟨m, Numeral.writes_of (.inl (Option.some_ne_none _)) rfl hvalue ?_⟩
    show e - ((second :: rest).length : Int) = _
    rw [List.length_cons] at he
    omega

theorem exponentText_append (cs : List Char) (e : Int) :
    cs ++ Layout.json.exponentMark ++ (if e < 0 then ['-'] else Layout.json.exponentPlus) ++
      digitChars e.natAbs = cs ++ exponentText e := by
  unfold exponentText
  by_cases hneg : e < 0 <;> simp [Layout.json, hneg]

/-- **A positive decimal is written as a numeral**, in whichever of the layouts. -/
theorem exists_writes (hne : d.digits ≠ 0) :
    ∃ m : Numeral, m.Writes negative d (Layout.json.chars d) := by
  have hlength := List.length_pos_of_ne_nil (areDigits_digitChars d.digits).nonempty
  unfold Layout.chars
  dsimp only
  -- one case for each layout: no exponent, with the point behind, among or before the digits, or one
  by_cases hrange : Layout.json.leastPoint ≤ ((digitChars d.digits).length : Int) + d.exp10 ∧
      ((digitChars d.digits).length : Int) + d.exp10 ≤ Layout.json.greatestPoint
  · rw [if_pos hrange]
    have hmost : ((digitChars d.digits).length : Int) + d.exp10 ≤ 16 := hrange.2
    by_cases hnonneg : 0 ≤ d.exp10
    · rw [if_pos hnonneg]
      obtain ⟨digits, exp10⟩ := d
      obtain ⟨e, rfl⟩ := Int.eq_ofNat_of_zero_le hnonneg
      dsimp only at hne hmost hlength ⊢
      -- the places that are left up to the greatest one bound the digits as well as the zeros
      have hsmall : digits < 10 ^ 16 :=
        (Nat.length_toDigits_le_iff (by decide) (by decide)).mp
          (show (digitChars digits).length ≤ 16 by omega)
      exact exists_writes_whole negative hne hsmall (by omega)
    · rw [if_neg hnonneg]
      by_cases hpoint : 0 < ((digitChars d.digits).length : Int) + d.exp10
      · rw [if_pos hpoint]
        exact exists_writes_point negative hne (by omega) (by omega) (by omega)
      · rw [if_neg hpoint]
        exact exists_writes_below negative (by omega)
  · rw [if_neg hrange, exponentText_append]
    exact exists_writes_exponent negative hne rfl

end

/-! ## §4 — numbers -/

/-- The parts denote a number of this kind. -/
def Numeral.Denotes (m : Numeral) : Number → Prop
  | .int n => ¬ m.IsDouble ∧ m.negative = decide (n < 0) ∧ natOfDigits m.whole = n.natAbs
  | .double x => m.IsDouble ∧ m.nearest = .finite x

theorem Numeral.Denotes.unique {m : Numeral} {a b : Number} (ha : m.Denotes a) (hb : m.Denotes b) :
    a = b := by
  cases a with
  | int k =>
    obtain ⟨hint, hsign, hsize⟩ := ha
    cases b with
    | int n =>
      obtain ⟨-, hsign', hsize'⟩ := hb
      rw [hsign, decide_eq_decide] at hsign'
      congr 1
      omega
    | double y => exact absurd hb.1 hint
  | double x =>
    obtain ⟨hdouble, hnearest⟩ := ha
    cases b with
    | int n => exact absurd hdouble hb.1
    | double y => exact congrArg Number.double (Binary64.finite.inj (hnearest.symm.trans hb.2))

theorem exists_numeral_int (n : Int) :
    ∃ m : Numeral, m.chars = Number.chars (.int n) ∧ m.Denotes (.int n) := by
  let m : Numeral := ⟨decide (n < 0), digitChars n.natAbs, none, none, areDigits_digitChars _,
    isPlain_digitChars _, nofun⟩
  refine ⟨m, ?_, ?_, rfl, natOfDigits_digitChars _⟩
  · show signText (decide (n < 0)) ++ (digitChars n.natAbs ++ []) = _
    unfold Number.chars signText
    by_cases hneg : n < 0 <;> simp [hneg]
  · rintro (h | h) <;> exact h rfl

/-- Zero is written as the whole number that it is, with its sign. -/
theorem exists_numeral_zero (negative : Bool) :
    ∃ m : Numeral, m.chars = signText negative ++ ['0', '.', '0'] ∧
      m.Denotes (.double (.zero negative)) := by
  let m : Numeral := ⟨negative, ['0'], some ['0'], none, areDigits_singleton rfl, .inl rfl,
    areDigits_some (areDigits_singleton rfl)⟩
  refine ⟨m, rfl, .inl (Option.some_ne_none _), ?_⟩
  have hvalue : natOfDigits (['0'] ++ ['0']) = 0 := by decide
  show Binary64.ofDecimal negative (natOfDigits (['0'] ++ ['0'])) _ = _
  rw [hvalue, Binary64.ofDecimal, if_pos rfl]

theorem exists_numeral_double (x : Binary64.Finite) :
    ∃ m : Numeral, m.chars = x.chars .json ∧ m.Denotes (.double x) := by
  unfold Binary64.Finite.chars
  dsimp only
  by_cases hzero : x.magnitude = 0
  · obtain ⟨m, hchars, hdenotes⟩ := exists_numeral_zero x.negative
    rw [← x.eq_zero_of_magnitude hzero] at hdenotes
    refine ⟨m, ?_, hdenotes⟩
    rw [if_pos hzero]
    exact hchars
  · obtain ⟨m, hchars, hdouble, hnearest⟩ :=
      exists_writes x.negative (x.digits_shortest_ne_zero hzero)
    refine ⟨m, ?_, hdouble, ?_⟩
    · rw [if_neg hzero]
      exact hchars
    · rw [hnearest, Binary64.Finite.ofDecimal_shortest hzero]

/-- **Every number is written as a numeral that denotes it.** -/
theorem exists_numeral (a : Number) : ∃ m : Numeral, m.chars = a.chars ∧ m.Denotes a :=
  match a with
  | .int n => exists_numeral_int n
  | .double x => exists_numeral_double x

end Json

/-- **No two numbers have one text**, and the text says where the number ends. -/
theorem Number.chars_append_inj {a b : Number} {rest rest' : List Char} (hrest : Json.Stops rest)
    (hrest' : Json.Stops rest') (h : a.chars ++ rest = b.chars ++ rest') : a = b ∧ rest = rest' := by
  obtain ⟨m, hchars, ha⟩ := Json.exists_numeral a
  obtain ⟨m', hchars', hb⟩ := Json.exists_numeral b
  rw [← hchars, ← hchars'] at h
  obtain ⟨rfl, hrests⟩ := Json.Numeral.chars_append_inj hrest hrest' h
  exact ⟨ha.unique hb, hrests⟩

/-- The text of a number starts with a sign or a digit. -/
theorem Number.exists_chars_eq (a : Number) :
    ∃ c cs, a.chars = c :: cs ∧ (c = '-' ∨ c.isDigit = true) := by
  obtain ⟨m, hchars, -⟩ := Json.exists_numeral a
  obtain ⟨c, cs, hwhole, hdigit⟩ := m.exists_whole_eq
  rw [← hchars]
  unfold Json.Numeral.chars
  cases m.negative with
  | true => exact ⟨'-', _, rfl, .inl rfl⟩
  | false =>
    rw [hwhole]
    exact ⟨c, _, rfl, .inr hdigit⟩

end DocStore
