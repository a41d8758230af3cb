import DocStore.Proofs.Filter.Comparison
import DocStore.Proofs.Filter.Grammar

/-!
# DocStore — the meaning of filters

What a filter says of a document is read off the value that it is written as (`Value.Selects`), with no
tests in between: what an operator asks of the value at a path (`OperatorAsks`), what a condition asks
(`Value.MetBy`), what a filter asks. Negation is plain negation at every depth, so the tests of a
missing field and of the items of an array are turned round as a whole.

* **`holdsEq_iff`**, **`holdsOrder_iff`** — equality and order, with missing fields and items of arrays.
* **`FieldTest.holds_ofOperator_iff`** — one operator.
* **`FieldTest.allHold_iff`** — conditions of any depth.
* **`Filter.accepts_read_iff`** — filters of any depth.
* **`filter_meaning`** — a filter that is accepted selects the documents that its text says.
-/

namespace DocStore

/-! ## §1 — the value at a path -/

/-- What `$eq` means: the value at a path is the target, where a missing value is null, or it is an array
with an item that is. An array as the target is only met as a whole. -/
inductive Meets : Option Value → Value → Prop
  | missing : Meets none .null
  | whole {v target : Value} (h : v.Same target) : Meets (some v) target
  | item {items : List Value} {x target : Value} (htarget : ∀ vs, target ≠ .array vs)
      (hx : x ∈ items) (h : x.Same target) : Meets (some (.array items)) target

/-- What a range is asked of: the value at a path, and the items if it is an array. -/
inductive Offers : Option Value → Value → Prop
  | whole (v : Value) : Offers (some v) v
  | item {items : List Value} {x : Value} (hx : x ∈ items) : Offers (some (.array items)) x

/-- The names that a value's kind goes by. -/
inductive Value.HasKind : Value → String → Prop
  | null : HasKind .null "null"
  | bool (b : Bool) : HasKind (.bool b) "bool"
  | number (n : Number) : HasKind (.number n) "number"
  | int (n : Int) : HasKind (.number (.int n)) "int"
  | long (n : Int) : HasKind (.number (.int n)) "long"
  | double (x : Binary64.Finite) : HasKind (.number (.double x)) "double"
  | string (s : String) : HasKind (.string s) "string"
  | array (vs : List Value) : HasKind (.array vs) "array"
  | object (fs : Fields Value) : HasKind (.object fs) "object"

/-- The operands of `$exists` that ask for a field: true, and the numbers other than zero. -/
inductive Value.IsYes : Value → Prop
  | true : IsYes (.bool true)
  | number {n : Number} (h : n.value.units ≠ 0) : IsYes (.number n)

/-! ## §2 — what is written, and what it asks -/

/-- What an operator other than `$not` asks of the value at a path. -/
def OperatorAsks (siblings : Fields Value) (operator : String) (operand : Value)
    (v : Option Value) : Prop :=
  match operator with
  | "$eq" => Meets v operand
  | "$ne" => ¬ Meets v operand
  | "$gt" => ∃ x, Offers v x ∧ operand.Precedes x
  | "$gte" => ∃ x, Offers v x ∧ x.Comparable operand ∧ ¬ x.Precedes operand
  | "$lt" => ∃ x, Offers v x ∧ x.Precedes operand
  | "$lte" => ∃ x, Offers v x ∧ x.Comparable operand ∧ ¬ operand.Precedes x
  | "$in" => ∃ targets, operand = .array targets ∧ ∃ t ∈ targets, Meets v t
  | "$nin" => ¬ ∃ targets, operand = .array targets ∧ ∃ t ∈ targets, Meets v t
  | "$exists" => (∃ w, v = some w) ↔ operand.IsYes
  | "$type" => ∃ w name, v = some w ∧ operand = .string name ∧ w.HasKind name
  | "$regex" => ∃ s pattern r, v = some (.string s) ∧ operand = .string pattern ∧
      PatternDenotes (siblings.find? "$options") pattern r ∧ r.isMatch s = true
  | "$options" => True
  | _ => False

namespace Value

theorem sizeOf_lt_of_mem_array {vs : List Value} {v : Value} (h : v ∈ vs) :
    sizeOf v < sizeOf (array vs) := by
  have hlist := List.sizeOf_lt_of_mem h
  simp only [array.sizeOf_spec]
  omega

theorem sizeOf_lt_of_mem_object {fs : Fields Value} {name : String} {v : Value}
    (h : (name, v) ∈ fs) : sizeOf v < sizeOf (object fs) := by
  have hlist := List.sizeOf_lt_of_mem h
  simp only [Prod.mk.sizeOf_spec] at hlist
  simp only [object.sizeOf_spec]
  omega

/-- What a condition asks of the value at a path: every operator of an object of operators, else to be
equal to the condition. `$not` asks for the opposite of what its operand asks. -/
def MetBy (v : Option Value) : Value → Prop
  | .object fs =>
    if isOperatorObject fs then
      ∀ name w, (name, w) ∈ fs →
        if name = "$not" then ¬ MetBy v w else OperatorAsks fs name w v
    else Meets v (.object fs)
  | c => Meets v c
termination_by c => sizeOf c
decreasing_by exact sizeOf_lt_of_mem_object ‹_›

mutual

/-- What a filter asks of a document: all that its entries ask. Null asks for nothing. -/
def Selects (d : Document) : Value → Prop
  | .null => True
  | .object fs =>
    ∀ name w, (name, w) ∈ fs →
      if isOperatorName name then Combines d name w else MetBy (d.get? name) w
  | _ => False
termination_by f => sizeOf f
decreasing_by exact sizeOf_lt_of_mem_object ‹_›

/-- What a logical operator asks of a document: that all, some or none of the filters in its operand
select it. -/
def Combines (d : Document) (operator : String) : Value → Prop
  | .array fs =>
    match operator with
    | "$and" => ∀ f ∈ fs, Selects d f
    | "$or" => ∃ f, ∃ _ : f ∈ fs, Selects d f
    | "$nor" => ¬ ∃ f, ∃ _ : f ∈ fs, Selects d f
    | _ => False
  | _ => False
termination_by v => sizeOf v
decreasing_by all_goals exact sizeOf_lt_of_mem_array ‹_›

end

end Value

/-! ## §3 — equality and order, missing fields and items of arrays -/

theorem holdsEq_iff {v : Option Value} {target : Value} :
    FieldTest.holdsEq v target = true ↔ Meets v target := by
  cases v with
  | none =>
    constructor
    · intro h
      cases target <;> first | exact .missing | cases h
    · rintro ⟨⟩
      rfl
  | some v =>
    show v.equalsOrContains target = true ↔ _
    unfold Value.equalsOrContains
    rw [Bool.or_eq_true, Value.same_iff]
    constructor
    · rintro (h | h)
      · exact .whole h
      · cases v with
        | array items =>
          obtain ⟨htarget, hany⟩ := Bool.and_eq_true_iff.mp h
          obtain ⟨x, hx, hsame⟩ := List.any_eq_true.mp hany
          refine .item (fun vs e => ?_) hx (Value.same_iff.mp hsame)
          rw [e] at htarget
          cases htarget
        | _ => cases h
    · intro h
      cases h with
      | whole h => exact .inl h
      | item htarget hx h =>
        refine .inr (Bool.and_eq_true_iff.mpr ⟨?_, List.any_eq_true.mpr ⟨_, hx, Value.same_iff.mpr h⟩⟩)
        cases target with
        | array vs => exact absurd rfl (htarget vs)
        | _ => rfl

theorem holdsOrder_iff {accept : Ordering → Bool} {v : Option Value} {target : Value} :
    FieldTest.holdsOrder accept v target = true ↔
      ∃ x, Offers v x ∧ (x.compare? target).any accept = true := by
  unfold FieldTest.holdsOrder
  split
  · next items =>
    rw [List.any_eq_true]
    constructor
    · rintro ⟨x, hx, h⟩
      exact ⟨x, .item hx, h⟩
    · rintro ⟨x, hoffers, h⟩
      cases hoffers with
      -- an array is in no order with anything, so offering it as a whole, too, changes nothing
      | whole => cases h
      | item hx => exact ⟨x, hx, h⟩
  · next v hnot =>
    constructor
    · intro h
      exact ⟨v, .whole v, h⟩
    · rintro ⟨x, hoffers, h⟩
      cases hoffers with
      | whole => exact h
      | item hx => exact absurd rfl (hnot _)
  · constructor
    · intro h; cases h
    · rintro ⟨x, hoffers, -⟩; cases hoffers

theorem any_beq_iff {o : Option Ordering} {a : Ordering} :
    o.any (· == a) = true ↔ o = some a := by
  cases o <;> simp

theorem any_bne_iff {o : Option Ordering} {a : Ordering} :
    o.any (· != a) = true ↔ (∃ b, o = some b) ∧ ¬ o = some a := by
  cases o <;> simp

/-! ## §4 — operators -/

theorem Value.isKind_iff {v : Value} {name : String} : v.isKind name = true ↔ v.HasKind name := by
  constructor
  · intro h
    unfold isKind at h
    split at h
    · cases v with
      | number n => exact .number n
      | _ => cases h
    · split at h
      · exact .int _
      · cases h
    · split at h
      · exact .long _
      · cases h
    · next hnumber hint hlong =>
      obtain rfl : v.kind = name := of_decide_eq_true h
      cases v with
      | number n =>
        cases n with
        | int n => exact absurd rfl hlong
        | double x => exact .double x
      | null => exact .null
      | bool b => exact .bool b
      | string s => exact .string s
      | array vs => exact .array vs
      | object fs => exact .object fs
  · rintro ⟨⟩ <;> rfl

theorem readPresence_iff {v : Value} {b : Bool} (h : readPresence v = .ok b) :
    b = true ↔ v.IsYes := by
  cases v with
  | bool c =>
    obtain rfl : c = b := Except.ok.inj h
    constructor
    · rintro rfl; exact .true
    · rintro ⟨⟩; rfl
  | number n =>
    obtain rfl : (n.value.units != 0) = b := Except.ok.inj h
    rw [bne_iff_ne]
    constructor
    · exact .number
    · intro hyes; cases hyes; assumption
  | _ => cases h

theorem readTargets_eq_ok {operator : String} {v : Value} {ts : List Value}
    (h : readTargets operator v = .ok ts) : v = .array ts := by
  cases v with
  | array vs => rw [Except.ok.inj h]
  | _ => cases h

theorem any_holdsEq_iff {ts : List Value} {v : Option Value} :
    ts.any (FieldTest.holdsEq v) = true ↔
      ∃ targets, Value.array ts = .array targets ∧ ∃ t ∈ targets, Meets v t := by
  simp only [List.any_eq_true, holdsEq_iff, Value.array.injEq, exists_eq_left']

namespace FieldTest

theorem allHold_some (t : FieldTest) (v : Option Value) :
    allHold (some t).toList v = true ↔ t.holds v = true := by
  simp [allHold]

theorem holds_ne_iff {target : Value} {v : Option Value} :
    holds (.ne target) v = true ↔ ¬ Meets v target := by
  rw [holds, Bool.not_eq_true', ← Bool.not_eq_true, holdsEq_iff]

theorem holds_present_iff {b : Bool} {v : Option Value} :
    holds (.present b) v = true ↔ ((∃ w, v = some w) ↔ b = true) := by
  rw [holds, beq_iff_eq, Bool.eq_iff_iff, Option.isSome_iff_exists]

theorem holds_kind_iff {name : String} {v : Option Value} :
    holds (.kind name) v = true ↔ ∃ w, v = some w ∧ w.HasKind name := by
  rw [holds, Option.any_eq_true]
  simp only [Value.isKind_iff]

theorem holds_pattern_iff {r : Regex} {v : Option Value} :
    holds (.pattern r) v = true ↔ ∃ s, v = some (.string s) ∧ r.isMatch s = true := by
  cases v with
  | none => simp [holds]
  | some v => cases v <;> simp [holds]

/-- **One operator**, `$not` apart: the test that it is read as holds of what the operator asks for. -/
theorem holds_ofOperator_iff {siblings : Fields Value} {operator : String} {operand : Value}
    {test : Option FieldTest} (h : ofOperator siblings operator operand = .ok test)
    (v : Option Value) :
    allHold test.toList v = true ↔ OperatorAsks siblings operator operand v := by
  unfold ofOperator at h
  unfold OperatorAsks
  split at h
  -- `$eq` and `$ne`
  case h_1 =>
    cases h
    exact (allHold_some _ v).trans holdsEq_iff
  case h_2 =>
    cases h
    exact (allHold_some _ v).trans holds_ne_iff
  -- `$gt`, `$gte`, `$lt`, `$lte`
  case h_3 =>
    cases h
    simp only [allHold_some, holds, holdsOrder_iff, any_beq_iff, Value.compare?_eq_gt_iff]
  case h_4 =>
    cases h
    simp only [allHold_some, holds, holdsOrder_iff, any_bne_iff, Value.comparable_iff,
      Value.compare?_eq_lt_iff]
  case h_5 =>
    cases h
    simp only [allHold_some, holds, holdsOrder_iff, any_beq_iff, Value.compare?_eq_lt_iff]
  case h_6 =>
    cases h
    simp only [allHold_some, holds, holdsOrder_iff, any_bne_iff, Value.comparable_iff,
      Value.compare?_eq_gt_iff]
  -- `$in` and `$nin`
  case h_7 =>
    obtain ⟨ts, hts, rfl⟩ := map_eq_ok_iff.mp h
    rw [readTargets_eq_ok hts]
    exact (allHold_some _ v).trans any_holdsEq_iff
  case h_8 =>
    obtain ⟨ts, hts, rfl⟩ := map_eq_ok_iff.mp h
    rw [allHold_some, readTargets_eq_ok hts, holds, Bool.not_eq_true', ← Bool.not_eq_true]
    exact not_congr any_holdsEq_iff
  -- `$exists`, `$type`, `$regex`
  case h_9 =>
    obtain ⟨b, hb, rfl⟩ := map_eq_ok_iff.mp h
    exact (allHold_some _ v).trans (holds_present_iff.trans (iff_congr Iff.rfl (readPresence_iff hb)))
  case h_10 =>
    split at h
    · next name =>
      cases h
      rw [allHold_some, holds_kind_iff]
      constructor
      · rintro ⟨w, hw, hkind⟩; exact ⟨w, name, hw, rfl, hkind⟩
      · rintro ⟨w, name, hw, ⟨⟩, hkind⟩; exact ⟨w, hw, hkind⟩
    · cases h
  case h_11 =>
    split at h
    · next pattern =>
      obtain ⟨r, hr, rfl⟩ := map_eq_ok_iff.mp h
      have hdenotes := readPattern_eq_ok_iff.mp hr
      rw [allHold_some, holds_pattern_iff]
      constructor
      · rintro ⟨s, hs, hmatch⟩; exact ⟨s, pattern, r, hs, rfl, hdenotes, hmatch⟩
      · rintro ⟨s, _, r', hs, ⟨⟩, hdenotes', hmatch⟩
        -- a pattern denotes one expression
        obtain rfl : r = r' :=
          Except.ok.inj (hr.symm.trans (readPattern_eq_ok_iff.mpr hdenotes'))
        exact ⟨s, hs, hmatch⟩
    · cases h
  -- `$options` asks for nothing by itself
  case h_12 =>
    split at h
    · cases h
      exact iff_of_true rfl trivial
    · cases h
  case h_13 => cases h

theorem allHold_append (ts us : List FieldTest) (v : Option Value) :
    allHold (ts ++ us) v = (allHold ts v && allHold us v) := by
  induction ts with
  | nil => rfl
  | cons t ts ih => rw [List.cons_append, allHold, allHold, ih, Bool.and_assoc]

/-! ## §5 — conditions

Along the recursion of the reader: one case for each kind of value, one for a list of operators. -/

theorem allHold_plain_iff {c : Value} (v : Option Value) (h : ∀ fs, c ≠ .object fs) :
    allHold [.eq c] v = true ↔ c.MetBy v := by
  refine (allHold_some (.eq c) v).trans (holdsEq_iff.trans ?_)
  rw [Value.MetBy]
  exact h

mutual

/-- **Conditions of any depth**: the tests that a condition is read as hold of what it asks for. -/
theorem allHold_iff (v : Option Value) : ∀ {c : Value} {ts : List FieldTest}, ofValue c = .ok ts →
    (allHold ts v = true ↔ c.MetBy v)
  | .object fs, ts, h => by
    unfold ofValue at h
    unfold Value.MetBy
    split at h
    · next hfirst =>
      rw [if_pos hfirst]
      exact allHold_operators_iff v h
    · next hfirst =>
      cases h
      rw [if_neg hfirst]
      exact (allHold_some _ v).trans holdsEq_iff
  | .null, _, h => by cases h; exact allHold_plain_iff v nofun
  | .bool _, _, h => by cases h; exact allHold_plain_iff v nofun
  | .number _, _, h => by cases h; exact allHold_plain_iff v nofun
  | .string _, _, h => by cases h; exact allHold_plain_iff v nofun
  | .array _, _, h => by cases h; exact allHold_plain_iff v nofun

theorem allHold_operators_iff {siblings : Fields Value} (v : Option Value) :
    ∀ {fs : List (String × Value)} {ts : List FieldTest}, ofOperators siblings fs = .ok ts →
      (allHold ts v = true ↔ ∀ name w, (name, w) ∈ fs →
        if name = "$not" then ¬ w.MetBy v else OperatorAsks siblings name w v)
  | [], _, h => by
    cases h
    exact iff_of_true rfl fun _ _ hin => by cases hin
  | (name, w) :: rest, ts, h => by
    rw [ofOperators_cons] at h
    obtain ⟨test, htest, h⟩ := ok_of_bind h
    obtain ⟨tests, htests, h⟩ := ok_of_bind h
    obtain rfl : test.toList ++ tests = ts := Except.ok.inj h
    have hentry : allHold test.toList v = true ↔
        if name = "$not" then ¬ w.MetBy v else OperatorAsks siblings name w v := by
      unfold ofEntry at htest
      split at htest
      · next hnot =>
        -- the tests of the operand are turned round together
        obtain ⟨inner, hinner, rfl⟩ := map_eq_ok_iff.mp htest
        rw [if_pos hnot, allHold_some, holds, Bool.not_eq_true', ← Bool.not_eq_true,
          allHold_iff v hinner]
      · next hother =>
        rw [if_neg hother]
        exact holds_ofOperator_iff htest v
    rw [allHold_append, Bool.and_eq_true, hentry, allHold_operators_iff v htests,
      Fields.forall_mem_cons]

end

end FieldTest

/-! ## §6 — filters -/

namespace Filter

theorem accepts_combine_iff {operator : String} {fs : List Filter} {f : Filter}
    (h : combine operator fs = .ok f) {vs : List Value} {d : Document}
    (hall : allMatch fs d = true ↔ ∀ v ∈ vs, v.Selects d)
    (hany : anyMatches fs d = true ↔ ∃ v, ∃ _ : v ∈ vs, v.Selects d) :
    f.accepts d = true ↔ Value.Combines d operator (.array vs) := by
  unfold combine at h
  unfold Value.Combines
  split at h
  case h_1 =>
    cases h
    exact hall
  case h_2 =>
    cases h
    exact hany
  case h_3 =>
    cases h
    show (!anyMatches fs d) = true ↔ _
    rw [Bool.not_eq_true', ← Bool.not_eq_true]
    exact not_congr hany
  case h_4 => cases h

mutual

/-- **Filters of any depth**: the filter that a value is read as accepts the documents that the value
selects. -/
theorem accepts_read_iff (d : Document) : ∀ {v : Value} {f : Filter}, read v = .ok f →
    (f.accepts d = true ↔ v.Selects d)
  | .null, _, h => by
    cases h
    unfold Value.Selects
    exact iff_of_true rfl trivial
  | .object fs, _, h => by
    unfold read at h
    obtain ⟨filters, hfilters, rfl⟩ := map_eq_ok_iff.mp h
    unfold Value.Selects
    exact allMatch_readEntries_iff d hfilters
  | .bool _, _, h => by cases h
  | .number _, _, h => by cases h
  | .string _, _, h => by cases h
  | .array _, _, h => by cases h

theorem allMatch_readEntries_iff (d : Document) :
    ∀ {fs : List (String × Value)} {filters : List Filter}, readEntries fs = .ok filters →
      (allMatch filters d = true ↔ ∀ name w, (name, w) ∈ fs →
        if isOperatorName name then Value.Combines d name w else w.MetBy (d.get? name))
  | [], _, h => by
    cases h
    exact iff_of_true rfl fun _ _ hin => by cases hin
  | (name, w) :: rest, _, h => by
    rw [readEntries_cons] at h
    obtain ⟨f, hf, h⟩ := ok_of_bind h
    obtain ⟨filters, hfilters, h⟩ := ok_of_bind h
    obtain rfl := Except.ok.inj h
    have hentry : f.accepts d = true ↔
        if isOperatorName name then Value.Combines d name w else w.MetBy (d.get? name) := by
      unfold readEntry at hf
      split at hf
      · next hname =>
        rw [if_pos hname]
        exact accepts_readLogical_iff d hf
      · next hname =>
        obtain ⟨tests, htests, rfl⟩ := map_eq_ok_iff.mp hf
        rw [if_neg hname]
        exact FieldTest.allHold_iff _ htests
    rw [allMatch, Bool.and_eq_true, hentry, allMatch_readEntries_iff d hfilters,
      Fields.forall_mem_cons]

theorem accepts_readLogical_iff (d : Document) {operator : String} :
    ∀ {v : Value} {f : Filter}, readLogical operator v = .ok f →
      (f.accepts d = true ↔ Value.Combines d operator v)
  | .array vs, f, h => by
    obtain ⟨fs, hfs, h⟩ := ok_of_bind h
    obtain ⟨hall, hany⟩ := matches_readItems_iff d hfs
    exact accepts_combine_iff h hall hany
  | .null, _, h => by cases h
  | .bool _, _, h => by cases h
  | .number _, _, h => by cases h
  | .string _, _, h => by cases h
  | .object _, _, h => by cases h

theorem matches_readItems_iff (d : Document) :
    ∀ {vs : List Value} {fs : List Filter}, readItems vs = .ok fs →
      (allMatch fs d = true ↔ ∀ v ∈ vs, v.Selects d) ∧
        (anyMatches fs d = true ↔ ∃ v, ∃ _ : v ∈ vs, v.Selects d)
  | [], _, h => by
    cases h
    constructor
    · exact iff_of_true rfl fun _ hin => by cases hin
    · exact iff_of_false (by simp [anyMatches]) fun ⟨_, hin, _⟩ => by cases hin
  | v :: vs, _, h => by
    obtain ⟨f, hf, h⟩ := ok_of_bind h
    obtain ⟨fs, hfs, h⟩ := ok_of_bind h
    obtain rfl := Except.ok.inj h
    have hfirst := accepts_read_iff d hf
    obtain ⟨hall, hany⟩ := matches_readItems_iff d hfs
    constructor
    · rw [allMatch, Bool.and_eq_true, hfirst, hall, List.forall_mem_cons]
    · rw [anyMatches, Bool.or_eq_true, hfirst, hany]
      simp only [exists_prop, List.mem_cons, exists_eq_or_imp]

end

end Filter

/-- **The meaning of filters.** A value that is accepted as a filter becomes one that wants exactly the
documents that the value selects, read as it is written. -/
theorem filter_meaning {v : Value} {f : Filter} (h : Filter.ofValue v = .ok f) (d : Document) :
    f.accepts d = true ↔ v.Selects d :=
  Filter.accepts_read_iff d (mapError_eq_ok_iff.mp h)

/-- A document without an age is not one of an adult's, and an item of an array meets a plain value. -/
theorem filter_meaning_of_missing_age :
    let v : Value := .object [("age", .object [("$not", .object [("$gte", .ofNat 18)])]),
      ("$or", .array [.object [("tag", .string "red")],
        .object [("n", .object [("$exists", .bool true)])]])]
    let f : Filter := .every [.field "age" [.not [.gte (.ofNat 18)]],
      .any [.every [.field "tag" [.eq (.string "red")]], .every [.field "n" [.present true]]]]
    let d : Document := ⟨[("tag", .array [.string "blue", .string "red"])]⟩
    Filter.ofValue v = .ok f ∧ f.accepts d = true ∧ v.Selects d := by
  intro v f d
  have hread : Filter.ofValue v = .ok f := rfl
  have haccepts : f.accepts d = true := by decide +kernel
  exact ⟨hread, haccepts, (filter_meaning hread d).mp haccepts⟩

end DocStore
