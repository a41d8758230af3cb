import DocStore.Filter.Basic

/-!
# DocStore — values beside values

What filters and sort orders compare values by, said as relations. Two values may be the same
(`Value.Same`), one may precede the other (`Value.Precedes`), and values of one kind that has an order
are comparable (`Value.Comparable`); values of different kinds are neither.

* **`Value.same_iff`**, **`Value.comparable_iff`**, **`Value.compare?_eq_lt_iff`** — the
  comparisons decide the relations.
-/

namespace DocStore

namespace Value

/-- Two values that a filter takes for one: numbers when their doubles are equal, whatever their kinds,
all else when it is equal as JSON. -/
inductive Same : Value → Value → Prop
  | numbers {m n : Number} (h : m.value.units = n.value.units) : Same (.number m) (.number n)
  | others {v w : Value} (hkinds : ∀ m n, ¬ (v = .number m ∧ w = .number n))
      (h : v.equal w = true) : Same v w

/-- One value stands before another one of its kind: the lesser number, the text that comes first by its
characters, false before true. -/
inductive Precedes : Value → Value → Prop
  | numbers {m n : Number} (h : m.value.units < n.value.units) : Precedes (.number m) (.number n)
  | strings {s t : String} (h : s < t) : Precedes (.string s) (.string t)
  | bools : Precedes (.bool false) (.bool true)

/-- Two values of one kind that has an order. -/
inductive Comparable : Value → Value → Prop
  | nulls : Comparable .null .null
  | bools {a b : Bool} : Comparable (.bool a) (.bool b)
  | numbers {m n : Number} : Comparable (.number m) (.number n)
  | strings {s t : String} : Comparable (.string s) (.string t)

/-! ## What the comparisons decide -/

theorem same_iff {v w : Value} : v.same w = true ↔ v.Same w := by
  constructor
  · intro h
    cases v with
    | number m =>
      cases w with
      | number n => exact .numbers (beq_iff_eq.mp h)
      | _ => exact .others (by simp) h
    | _ => exact .others (by simp) h
  · intro h
    cases h with
    | numbers h => exact beq_iff_eq.mpr h
    | others hkinds h =>
      unfold same
      split
      · exact absurd ⟨rfl, rfl⟩ (hkinds _ _)
      · exact h

theorem comparable_iff {v w : Value} : (∃ o, v.compare? w = some o) ↔ v.Comparable w := by
  constructor
  · rintro ⟨o, h⟩
    unfold compare? at h
    split at h
    · exact .numbers
    · exact .strings
    · exact .bools
    · exact .nulls
    · cases h
  · rintro ⟨⟩ <;> exact ⟨_, rfl⟩

theorem compare?_eq_lt_iff {v w : Value} : v.compare? w = some .lt ↔ v.Precedes w := by
  constructor
  · intro h
    unfold compare? at h
    split at h
    · exact .numbers (Std.compare_eq_lt.mp (Option.some.inj h))
    · exact .strings (compareOfLessAndEq_eq_lt.mp (Option.some.inj h))
    · next a b =>
      cases a <;> cases b <;> first | exact .bools | cases h
    · cases h
    · cases h
  · intro h
    cases h with
    | numbers h => exact congrArg some (Std.compare_eq_lt.mpr h)
    | strings h => exact congrArg some (compareOfLessAndEq_eq_lt.mpr h)
    | bools => rfl

/-- Turning two values round turns their order round. -/
theorem compare?_swap (v w : Value) : w.compare? v = (v.compare? w).map Ordering.swap := by
  cases v with
  | null => cases w <;> rfl
  | array vs => cases w <;> rfl
  | object fs => cases w <;> rfl
  | number m =>
    cases w with
    | number n => exact congrArg some Std.OrientedOrd.eq_swap
    | _ => rfl
  | string s =>
    cases w with
    | string t => exact congrArg some Std.OrientedOrd.eq_swap
    | _ => rfl
  | bool a =>
    cases w with
    | bool b => exact congrArg some Std.OrientedOrd.eq_swap
    | _ => rfl

theorem compare?_eq_gt_iff {v w : Value} : v.compare? w = some .gt ↔ w.Precedes v := by
  rw [← compare?_eq_lt_iff, compare?_swap v w]
  cases v.compare? w with
  | none => simp
  | some o => cases o <;> simp

end Value

end DocStore
