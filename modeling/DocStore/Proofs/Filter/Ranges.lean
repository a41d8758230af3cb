import DocStore.Proofs.Filter.Meaning
import DocStore.Proofs.Filter.Numbers

/-!
# DocStore — ranges beside equality

A range goes by the order of values and `$eq` by their sameness, and each has its own way with arrays and
with fields that are missing. For a target of a kind that ranges are asked about the two ways are one: to be
the same is to compare as equal, and an array is only looked into. Every other answer of a range is then
put together of the three ways in which two values can compare.

* **`Value.IsOrdered.compare?_eq_eq_iff`** — to compare as equal is to be the same.
* **`FieldTest.holdsEq_eq_holdsOrder`** — equality is one more test on the order.
* **`Filter.wants_iff`** — what a filter with one such operator wants.
* **`ranges_agree_with_equality`** — the main statement.
-/

namespace DocStore

/-! ## §1 — values that compare as equal -/

/-- The values that ranges are asked about: numbers, strings and truth values. -/
inductive Value.IsOrdered : Value → Prop
  | number (n : Number) : IsOrdered (.number n)
  | string (s : String) : IsOrdered (.string s)
  | bool (b : Bool) : IsOrdered (.bool b)

namespace Value

variable {t : Value}

/-- **To compare as equal is to be the same.** A value of another kind is neither. -/
theorem IsOrdered.compare?_eq_eq_iff (ht : t.IsOrdered) {v : Value} :
    v.compare? t = some .eq ↔ v.Same t := by
  rw [← same_iff]
  cases ht with
  | number n =>
    cases v with
    | number m => exact Option.some_inj.trans Number.sameValue_iff.symm
    | _ => exact iff_of_false nofun nofun
  | string s =>
    cases v with
    | string s' => exact Option.some_inj.trans (Std.compare_eq_iff_eq.trans beq_iff_eq.symm)
    | _ => exact iff_of_false nofun nofun
  | bool b =>
    cases v with
    | bool b' => exact Option.some_inj.trans (Std.compare_eq_iff_eq.trans beq_iff_eq.symm)
    | _ => exact iff_of_false nofun nofun

theorem Comparable.ne_array {v : Value} (h : v.Comparable t) (vs : List Value) : v ≠ .array vs := by
  rintro rfl
  cases h

end Value

/-! ## §2 — tests on the order -/

namespace FieldTest

variable {t : Value}

/-- A target of such a kind is met by what is offered and is the same. -/
theorem meets_iff_offers (ht : t.IsOrdered) {v : Option Value} :
    Meets v t ↔ ∃ x, Offers v x ∧ x.Same t := by
  constructor
  · intro h
    cases h with
    | missing => cases ht
    | whole h => exact ⟨_, .whole _, h⟩
    | item _ hx h => exact ⟨_, .item hx, h⟩
  · rintro ⟨x, hoffers, hsame⟩
    cases hoffers with
    | whole => exact .whole hsame
    | item hx =>
      refine .item (fun vs heq => ?_) hx hsame
      rw [heq] at ht
      cases ht

/-- **Equality is a test on the order.** -/
theorem holdsEq_eq_holdsOrder (ht : t.IsOrdered) (v : Option Value) :
    holdsEq v t = holdsOrder (· == .eq) v t := by
  rw [Bool.eq_iff_iff, holdsEq_iff, holdsOrder_iff, meets_iff_offers ht]
  simp only [any_beq_iff, ht.compare?_eq_eq_iff]

/-- A test that admits what either of two others admits. -/
theorem holdsOrder_or {p q r : Ordering → Bool} (h : ∀ o, r o = (p o || q o)) (v : Option Value) :
    holdsOrder r v t = true ↔ holdsOrder p v t = true ∨ holdsOrder q v t = true := by
  have hsplit : ∀ x : Value, (x.compare? t).any r = true ↔
      (x.compare? t).any p = true ∨ (x.compare? t).any q = true := by
    intro x
    cases x.compare? t with
    | none => simp
    | some o => simp [h]
  simp only [holdsOrder_iff, hsplit, and_or_left, exists_or]

/-- A value that is no array is asked itself. -/
theorem holdsOrder_some {accept : Ordering → Bool} {v : Value} {o : Ordering}
    (harray : ∀ vs, v ≠ .array vs) (h : v.compare? t = some o) :
    holdsOrder accept (some v) t = accept o := by
  unfold holdsOrder
  split
  · next items heq => exact absurd (Option.some.inj heq) (harray items)
  · next w _ heq =>
    obtain rfl := Option.some.inj heq
    show (v.compare? t).any accept = accept o
    rw [h, Option.any_some]
  · next heq => cases heq

end FieldTest

/-! ## §3 — operators on the order -/

/-- The operators that ask how the value at a path compares with a target. -/
inductive RangeOperator where
  | lt
  | lte
  | eq
  | gte
  | gt
deriving DecidableEq, Repr

namespace RangeOperator

def text : RangeOperator → String
  | lt => "$lt"
  | lte => "$lte"
  | eq => "$eq"
  | gte => "$gte"
  | gt => "$gt"

/-- The ways to compare that an operator admits. -/
def admits : RangeOperator → Ordering → Bool
  | lt => (· == .lt)
  | lte => (· != .gt)
  | eq => (· == .eq)
  | gte => (· != .lt)
  | gt => (· == .gt)

/-- The filter that asks this of the value at a path. -/
def asks (operator : RangeOperator) (path : String) (t : Value) : Value :=
  .object [(path, .object [(operator.text, t)])]

end RangeOperator

namespace Filter

/-- A value is a filter, and it wants a document. -/
def Wants (v : Value) (d : Document) : Prop := ∃ f, Filter.ofValue v = .ok f ∧ f.accepts d = true

variable {t : Value} {path : String} {d : Document}

theorem says_asks (ht : t.IsOrdered) (hpath : isOperatorName path = false) (operator : RangeOperator)
    (d : Document) :
    Says (operator.asks path t) d (FieldTest.holdsOrder operator.admits (d.get? path) t = true) := by
  cases operator with
  | eq =>
    refine says_of_condition hpath (t := .eq t) rfl ?_
    rw [FieldTest.holds, FieldTest.holdsEq_eq_holdsOrder ht]
    exact Iff.rfl
  | lt => exact says_of_condition hpath (t := .lt t) rfl Iff.rfl
  | lte => exact says_of_condition hpath (t := .lte t) rfl Iff.rfl
  | gte => exact says_of_condition hpath (t := .gte t) rfl Iff.rfl
  | gt => exact says_of_condition hpath (t := .gt t) rfl Iff.rfl

/-- A name that begins with a dollar sign is no path, and its operand would have to be an array. -/
theorem not_wants_of_isOperatorName (hpath : isOperatorName path = true) (operator : RangeOperator) :
    ¬ Wants (operator.asks path t) d := by
  rintro ⟨f, hf, -⟩
  simp only [RangeOperator.asks, ofValue, read, readEntries, hpath] at hf
  cases hf

/-- **What a filter with one operator on the order wants.** -/
theorem wants_iff (ht : t.IsOrdered) (operator : RangeOperator) :
    Wants (operator.asks path t) d ↔ isOperatorName path = false ∧
      FieldTest.holdsOrder operator.admits (d.get? path) t = true := by
  cases hpath : isOperatorName path with
  | true =>
    exact iff_of_false (not_wants_of_isOperatorName hpath operator) nofun
  | false =>
    obtain ⟨f, hf, haccepts⟩ := says_asks ht hpath operator d
    constructor
    · rintro ⟨f', hf', hwanted⟩
      obtain rfl := Except.ok.inj (hf.symm.trans hf')
      exact ⟨rfl, haccepts.mp hwanted⟩
    · rintro ⟨-, hholds⟩
      exact ⟨f, hf, haccepts.mpr hholds⟩

/-- An operator that admits what either of two others admits wants what either of them wants. -/
theorem wants_or (ht : t.IsOrdered) {a b c : RangeOperator}
    (h : ∀ o, c.admits o = (a.admits o || b.admits o)) :
    Wants (c.asks path t) d ↔ Wants (a.asks path t) d ∨ Wants (b.asks path t) d := by
  rw [wants_iff ht, wants_iff ht, wants_iff ht, FieldTest.holdsOrder_or h, and_or_left]

end Filter

/-- **Ranges agree with equality.** Take any path and a target that is a number, a string or a truth value.
All of the operators below make a filter of it, unless the path is an operator's name itself. Whatever a
document has at the path, it is wanted for being greater or equal if, and only if, it is wanted for being
greater or for being equal, and likewise for less or equal. A value of the target's kind is wanted for
exactly one of being less, equal and greater. -/
theorem ranges_agree_with_equality {t : Value} (ht : t.IsOrdered) (path : String) (d : Document) :
    let wants (operator : RangeOperator) : Prop := Filter.Wants (operator.asks path t) d
    (isOperatorName path = false → ∀ operator : RangeOperator,
        ∃ f, Filter.ofValue (operator.asks path t) = .ok f) ∧
      (wants .gte ↔ wants .gt ∨ wants .eq) ∧ (wants .lte ↔ wants .lt ∨ wants .eq) ∧
      (isOperatorName path = false → ∀ v, d.get? path = some v → v.Comparable t →
        ∃ operator ∈ [RangeOperator.lt, .eq, .gt],
          ∀ other ∈ [RangeOperator.lt, .eq, .gt], wants other ↔ other = operator) := by
  intro wants
  refine ⟨fun hpath operator => ?_, Filter.wants_or ht (by decide), Filter.wants_or ht (by decide),
    fun hpath v hv hcomparable => ?_⟩
  · obtain ⟨f, hf, -⟩ := Filter.says_asks ht hpath operator d
    exact ⟨f, hf⟩
  · obtain ⟨o, ho⟩ := Value.comparable_iff.mpr hcomparable
    have hwants : ∀ operator, wants operator ↔ operator.admits o = true := by
      intro operator
      show Filter.Wants (operator.asks path t) d ↔ _
      rw [Filter.wants_iff ht, hv, FieldTest.holdsOrder_some hcomparable.ne_array ho, hpath]
      simp
    -- each of the three admits one way to compare, and no other one does
    simp only [hwants]
    cases o with
    | lt => exact ⟨.lt, by decide, by decide⟩
    | eq => exact ⟨.eq, by decide, by decide⟩
    | gt => exact ⟨.gt, by decide, by decide⟩

/-- An array of mixed items is wanted for two of the three at once, a number for one of them. -/
theorem ranges_agree_with_equality_of_mixed_items :
    let t : Value := .ofNat 1
    let d : Document := ⟨[("list", .array [.null, .string "1", .array [t], .ofNat 2,
      .number (.double (.ofInt 1))]),
      ("n", .ofNat 2)]⟩
    let wants (operator : RangeOperator) (path : String) := Filter.Wants (operator.asks path t) d
    t.IsOrdered ∧ wants .eq "list" ∧ wants .gt "list" ∧ wants .gte "list" ∧ wants .lte "list" ∧
      ¬ wants .lt "list" ∧ ∃ operator ∈ [RangeOperator.lt, .eq, .gt],
        ∀ other ∈ [RangeOperator.lt, .eq, .gt], wants other "n" ↔ other = operator := by
  intro t d wants
  have ht : t.IsOrdered := .number _
  obtain ⟨-, hgte, hlte, -⟩ := ranges_agree_with_equality ht "list" d
  obtain ⟨-, -, -, hone⟩ := ranges_agree_with_equality ht "n" d
  have heq : wants .eq "list" := ⟨_, rfl, by decide +kernel⟩
  have hgt : wants .gt "list" := ⟨_, rfl, by decide +kernel⟩
  have hlt : ¬ wants .lt "list" := by
    rintro ⟨f, hf, hwanted⟩
    obtain rfl := Except.ok.inj hf
    revert hwanted
    decide +kernel
  exact ⟨ht, heq, hgt, hgte.mpr (.inl hgt), hlte.mpr (.inr heq), hlt,
    hone (by decide) (.ofNat 2) rfl .numbers⟩

end DocStore
