import DocStore.Filter.Reader
import DocStore.Proofs.Outcome

/-!
# DocStore — the grammar of filters

Which values are filters is said here by rules, one for each way to write a part of a filter, and
without the reader. `Value.IsFilter` is about filters, `Value.IsCondition` about what stands beside a
path, `Value.IsOperator` about an operator with its operand.

An object of operators has to be told from a value that a field is to be equal to: its first name alone
decides that. The expression of `$regex` is read under the `$options` beside it, wherever they stand.

* **`readPattern_eq_ok_iff`** — patterns and their options.
* **`FieldTest.succeeds_ofOperator_iff`**, **`FieldTest.succeeds_ofValue_iff`** — one operator, and
  conditions of any depth.
* **`Filter.succeeds_read_iff`** — filters of any depth.
* **`filter_grammar`** — the reader accepts what the rules derive, and all else is an invalid query.
-/

namespace DocStore

/-! ## §1 — patterns and their options -/

namespace Regex.Flags

/-- The letters that `$options` may be made of. -/
def letters : List Char := ['i', 'm', 's', 'x']

/-- The flags that letters stand for, in any order and however often. -/
def ofLetters (cs : List Char) : Flags where
  anyCase := cs.contains 'i'
  multiLine := cs.contains 'm'
  dotAll := cs.contains 's'
  spaced := cs.contains 'x'

/-- Flags, with some more of them set. -/
def union (f g : Flags) : Flags :=
  { f with
    anyCase := f.anyCase || g.anyCase
    multiLine := f.multiLine || g.multiLine
    dotAll := f.dotAll || g.dotAll
    spaced := f.spaced || g.spaced }

theorem union_ofLetters_nil (f : Flags) : f.union (ofLetters []) = f := by
  simp [union, ofLetters]

theorem default_union_ofLetters (cs : List Char) :
    union {} (ofLetters cs) = ofLetters cs := by
  simp [union, ofLetters]

end Regex.Flags

open Regex (Flags)

/-- Letters set the flags that they stand for, provided that all of them are known. -/
theorem regexFlags_eq_ok_iff {cs : List Char} {f g : Flags} :
    regexFlags f cs = .ok g ↔ (∀ c ∈ cs, c ∈ Flags.letters) ∧ f.union (.ofLetters cs) = g := by
  -- on the letters; the flags that are set already are carried along
  induction cs generalizing f with
  | nil => simp [regexFlags, Flags.union_ofLetters_nil]
  | cons c cs ih =>
    unfold regexFlags
    split
    -- a letter that stands for nothing
    case h_5 hi hm hs hx =>
      have hunknown : c ∉ Flags.letters := by simpa [Flags.letters] using ⟨hi, hm, hs, hx⟩
      simp [hunknown]
    all_goals simp [ih, Flags.letters, Flags.union, Flags.ofLetters]

/-- The letters of the `$options` beside a `$regex`: none when there are no options. -/
inductive OptionLetters : Option Value → List Char → Prop
  | absent : OptionLetters none []
  | given (s : String) : OptionLetters (some (.string s)) s.toList

/-- The expression that a pattern denotes under the `$options` beside it, every letter of which has to
be known. -/
def PatternDenotes (options : Option Value) (pattern : String) (r : Regex) : Prop :=
  ∃ cs, OptionLetters options cs ∧ (∀ c ∈ cs, c ∈ Flags.letters) ∧
    Regex.ofPattern? (.ofLetters cs) pattern = some r

/-- Reading a pattern, once the letters are there. -/
theorem regexOf_eq_ok_iff {cs : List Char} {pattern : String} {r : Regex} :
    (do
      let flags ← regexFlags {} cs
      match Regex.ofPattern? flags pattern with
      | some r => .ok r
      | none => .error (.pattern pattern) : Except FilterFault Regex) = .ok r ↔
      (∀ c ∈ cs, c ∈ Flags.letters) ∧ Regex.ofPattern? (.ofLetters cs) pattern = some r := by
  rw [bind_eq_ok_iff]
  constructor
  · rintro ⟨flags, hflags, hread⟩
    obtain ⟨hknown, rfl⟩ := regexFlags_eq_ok_iff.mp hflags
    rw [Flags.default_union_ofLetters] at hread
    refine ⟨hknown, ?_⟩
    split at hread
    · next hr => rw [hr, Except.ok.inj hread]
    · cases hread
  · rintro ⟨hknown, hread⟩
    refine ⟨.ofLetters cs, regexFlags_eq_ok_iff.mpr ⟨hknown, Flags.default_union_ofLetters cs⟩, ?_⟩
    rw [hread]

theorem readPattern_eq_ok_iff {pattern : String} {options : Option Value} {r : Regex} :
    readPattern pattern options = .ok r ↔ PatternDenotes options pattern r := by
  cases options with
  | none =>
    constructor
    · intro h; exact ⟨[], .absent, regexOf_eq_ok_iff.mp h⟩
    · rintro ⟨_, ⟨⟩, hread⟩; exact regexOf_eq_ok_iff.mpr hread
  | some v =>
    cases v with
    | string s =>
      constructor
      · intro h; exact ⟨s.toList, .given s, regexOf_eq_ok_iff.mp h⟩
      · rintro ⟨_, ⟨⟩, hread⟩; exact regexOf_eq_ok_iff.mpr hread
    | _ =>
      constructor
      · intro h; cases h
      · rintro ⟨_, hletters, -⟩; cases hletters

/-! ## §2 — the rules -/

/-- The operands that fit an operator other than `$not`. `siblings` are all the operators of the object
that it stands in. -/
inductive FitsOperator (siblings : Fields Value) : String → Value → Prop
  | comparison {operator : String} {v : Value}
      (h : operator ∈ ["$eq", "$ne", "$gt", "$gte", "$lt", "$lte"]) : FitsOperator siblings operator v
  | targets {operator : String} {vs : List Value}
      (h : operator ∈ ["$in", "$nin"]) : FitsOperator siblings operator (.array vs)
  | existsBool {b : Bool} : FitsOperator siblings "$exists" (.bool b)
  | existsNumber {n : Number} : FitsOperator siblings "$exists" (.number n)
  | kind {name : String} : FitsOperator siblings "$type" (.string name)
  | regex {pattern : String} {r : Regex}
      (h : PatternDenotes (siblings.find? "$options") pattern r) :
      FitsOperator siblings "$regex" (.string pattern)
  /-- What the options have to be is a matter of the `$regex`, which has to be there. -/
  | options {v : Value} (h : siblings.contains "$regex" = true) : FitsOperator siblings "$options" v

namespace Value

mutual

/-- A value that can stand beside a path. -/
inductive IsCondition : Value → Prop
  /-- The value that the field is to be equal to, which is not an object of operators. -/
  | plain {v : Value} (h : ∀ fs, v = .object fs → isOperatorObject fs = false) : IsCondition v
  | operators {fs : Fields Value} (hfirst : isOperatorObject fs = true)
      (heach : ∀ name w, (name, w) ∈ fs → IsOperator fs name w) : IsCondition (.object fs)

/-- An operator with an operand that fits, beside the operators of its object. -/
inductive IsOperator : Fields Value → String → Value → Prop
  | fits {siblings : Fields Value} {name : String} {v : Value} (h : FitsOperator siblings name v) :
      IsOperator siblings name v
  | not {siblings : Fields Value} {v : Value} (h : IsCondition v) : IsOperator siblings "$not" v

end

mutual

/-- A value that is a filter. -/
inductive IsFilter : Value → Prop
  | null : IsFilter .null
  | object {fs : Fields Value} (heach : ∀ name w, (name, w) ∈ fs → IsEntry name w) :
      IsFilter (.object fs)

/-- An entry of a filter: some filters combined, or a path with a condition. -/
inductive IsEntry : String → Value → Prop
  | logical {name : String} {vs : List Value} (h : name ∈ ["$and", "$or", "$nor"])
      (heach : ∀ v, v ∈ vs → IsFilter v) : IsEntry name (.array vs)
  | field {path : String} {v : Value} (hpath : isOperatorName path = false) (h : IsCondition v) :
      IsEntry path v

end

end Value

/-! ## §3 — operators -/

theorem not_fitsOperator_not {siblings : Fields Value} {v : Value} :
    ¬ FitsOperator siblings "$not" v := by
  intro h
  generalize hname : "$not" = operator at h
  cases h with
  | comparison h => simp [← hname] at h
  | targets h => simp [← hname] at h
  | _ => simp at hname

theorem succeeds_readTargets_iff {operator : String} {v : Value} :
    Succeeds (readTargets operator v) ↔ ∃ vs, v = .array vs := by
  cases v <;> simp [readTargets]

theorem succeeds_readPresence_iff {v : Value} :
    Succeeds (readPresence v) ↔ (∃ b, v = .bool b) ∨ ∃ n, v = .number n := by
  cases v <;> simp [readPresence]

section

variable {siblings : Fields Value} {operator : String} {v : Value}

theorem FitsOperator.succeeds (h : FitsOperator siblings operator v) :
    Succeeds (FieldTest.ofOperator siblings operator v) := by
  cases h with
  | comparison h =>
    simp only [List.mem_cons, List.not_mem_nil, or_false] at h
    rcases h with rfl | rfl | rfl | rfl | rfl | rfl <;> exact succeeds_ok _
  | targets h =>
    simp only [List.mem_cons, List.not_mem_nil, or_false] at h
    rcases h with rfl | rfl <;> exact succeeds_ok _
  | existsBool => exact succeeds_ok _
  | existsNumber => exact succeeds_ok _
  | kind => exact succeeds_ok _
  | regex h => exact succeeds_map.mpr ⟨_, readPattern_eq_ok_iff.mpr h⟩
  | options h =>
    show Succeeds (if siblings.contains "$regex" then _ else _)
    rw [if_pos h]
    exact succeeds_ok _

theorem fitsOperator_of_succeeds (h : Succeeds (FieldTest.ofOperator siblings operator v)) :
    FitsOperator siblings operator v := by
  unfold FieldTest.ofOperator at h
  split at h
  -- the six comparisons, then `$in` and `$nin`, then one operator each; what is unknown comes last
  case h_1 | h_2 | h_3 | h_4 | h_5 | h_6 => exact .comparison (by simp)
  case h_7 | h_8 =>
    obtain ⟨vs, rfl⟩ := succeeds_readTargets_iff.mp (succeeds_map.mp h)
    exact .targets (by simp)
  case h_9 =>
    rcases succeeds_readPresence_iff.mp (succeeds_map.mp h) with ⟨b, rfl⟩ | ⟨n, rfl⟩
    · exact .existsBool
    · exact .existsNumber
  case h_10 =>
    split at h
    · exact .kind
    · exact absurd h (not_succeeds_error _)
  case h_11 =>
    split at h
    · obtain ⟨r, hr⟩ := succeeds_map.mp h
      exact .regex (readPattern_eq_ok_iff.mp hr)
    · exact absurd h (not_succeeds_error _)
  case h_12 =>
    split at h
    · next hregex => exact .options hregex
    · exact absurd h (not_succeeds_error _)
  case h_13 => exact absurd h (not_succeeds_error _)

/-- **One operator**, `$not` apart, is read exactly if its operand fits. -/
theorem succeeds_ofOperator_iff :
    Succeeds (FieldTest.ofOperator siblings operator v) ↔ FitsOperator siblings operator v :=
  ⟨fitsOperator_of_succeeds, FitsOperator.succeeds⟩

end

/-! ## §4 — conditions

The reader goes through a value and, at `$not`, into an operand; so does the induction, one case for
each kind of value and one for a list of operators. -/

namespace Value

theorem isCondition_object_iff {fs : Fields Value} (hfirst : isOperatorObject fs = true) :
    IsCondition (.object fs) ↔ ∀ name w, (name, w) ∈ fs → IsOperator fs name w := by
  constructor
  · intro h
    cases h with
    | plain h => exact absurd hfirst (by simp [h fs rfl])
    | operators _ heach => exact heach
  · exact .operators hfirst

theorem isOperator_iff {siblings : Fields Value} {name : String} {v : Value} :
    IsOperator siblings name v ↔
      if name = "$not" then IsCondition v else FitsOperator siblings name v := by
  split
  · next hnot =>
    subst hnot
    constructor
    · intro h
      generalize hname : "$not" = name at h
      cases h with
      | fits h => exact absurd (hname ▸ h) not_fitsOperator_not
      | not h => exact h
    · exact .not
  · next hother =>
    constructor
    · intro h
      cases h with
      | fits h => exact h
      | not h => exact absurd rfl hother
    · exact .fits

end Value

namespace FieldTest

/-- The test of an operator, `$not` among them. -/
def ofEntry (siblings : Fields Value) (name : String) (v : Value) :
    Except FilterFault (Option FieldTest) :=
  if name = "$not" then (ofValue v).map fun tests => some (.not tests)
  else ofOperator siblings name v

theorem ofOperators_cons (siblings : Fields Value) (name : String) (v : Value)
    (rest : List (String × Value)) :
    ofOperators siblings ((name, v) :: rest) = ofEntry siblings name v >>= fun test =>
      ofOperators siblings rest >>= fun tests => .ok (test.toList ++ tests) := by
  rw [ofOperators, ofEntry]
  split <;> rfl

mutual

/-- **Conditions of any depth** are read exactly if the rules derive them. -/
theorem succeeds_ofValue_iff : ∀ {v : Value}, Succeeds (ofValue v) ↔ v.IsCondition
  | .object fs => by
    unfold ofValue
    -- whether this is an object of operators at all is up to its first name
    cases hfirst : isOperatorObject fs with
    | true => exact succeeds_ofOperators_iff.trans (Value.isCondition_object_iff hfirst).symm
    | false => exact iff_of_true (succeeds_ok _) (.plain fun gs h => by cases h; exact hfirst)
  | .null => iff_of_true (succeeds_ok _) (.plain fun gs h => by cases h)
  | .bool _ => iff_of_true (succeeds_ok _) (.plain fun gs h => by cases h)
  | .number _ => iff_of_true (succeeds_ok _) (.plain fun gs h => by cases h)
  | .string _ => iff_of_true (succeeds_ok _) (.plain fun gs h => by cases h)
  | .array _ => iff_of_true (succeeds_ok _) (.plain fun gs h => by cases h)

theorem succeeds_ofOperators_iff {siblings : Fields Value} : ∀ {fs : List (String × Value)},
    Succeeds (ofOperators siblings fs) ↔
      ∀ name w, (name, w) ∈ fs → Value.IsOperator siblings name w
  | [] => iff_of_true (succeeds_ok _) fun _ _ h => by cases h
  | (name, v) :: rest => by
    have hentry : Succeeds (ofEntry siblings name v) ↔ Value.IsOperator siblings name v := by
      rw [Value.isOperator_iff, ofEntry]
      split
      · exact succeeds_map.trans succeeds_ofValue_iff
      · exact succeeds_ofOperator_iff
    rw [ofOperators_cons, succeeds_bind_bind, hentry, succeeds_ofOperators_iff, Fields.forall_mem_cons]

end

end FieldTest

/-! ## §5 — filters -/

namespace Value

theorem isFilter_object_iff {fs : Fields Value} :
    IsFilter (.object fs) ↔ ∀ name w, (name, w) ∈ fs → IsEntry name w := by
  constructor
  · rintro ⟨⟩
    assumption
  · exact .object

theorem isEntry_iff {name : String} {v : Value} :
    IsEntry name v ↔
      if isOperatorName name then
        name ∈ ["$and", "$or", "$nor"] ∧ ∃ vs, v = .array vs ∧ ∀ w ∈ vs, IsFilter w
      else IsCondition v := by
  split
  · next hname =>
    constructor
    · intro h
      cases h with
      | logical h heach => exact ⟨h, _, rfl, heach⟩
      | field hpath _ => simp [hname] at hpath
    · rintro ⟨h, vs, rfl, heach⟩
      exact .logical h heach
  · next hname =>
    constructor
    · intro h
      cases h with
      | logical h heach =>
        simp only [List.mem_cons, List.not_mem_nil, or_false] at h
        rcases h with rfl | rfl | rfl <;> exact absurd (by decide) hname
      | field _ h => exact h
    · exact .field (by simpa using hname)

end Value

namespace Filter

theorem succeeds_combine_iff {operator : String} {filters : List Filter} :
    Succeeds (combine operator filters) ↔ operator ∈ ["$and", "$or", "$nor"] := by
  unfold combine
  split
  case h_4 hand hor hnor =>
    exact iff_of_false (not_succeeds_error _) (by simpa using ⟨hand, hor, hnor⟩)
  all_goals exact iff_of_true (succeeds_ok _) (by simp)

/-- The filter of an entry. -/
def readEntry (name : String) (v : Value) : Except FilterFault Filter :=
  if isOperatorName name then readLogical name v else (FieldTest.ofValue v).map (.field name ·)

theorem readEntries_cons (name : String) (v : Value) (rest : List (String × Value)) :
    readEntries ((name, v) :: rest) = readEntry name v >>= fun f =>
      readEntries rest >>= fun fs => .ok (f :: fs) := by
  rw [readEntries, readEntry]
  split <;> rfl

mutual

/-- **Filters of any depth** are read exactly if the rules derive them. -/
theorem succeeds_read_iff : ∀ {v : Value}, Succeeds (read v) ↔ v.IsFilter
  | .null => iff_of_true (succeeds_ok _) .null
  | .object fs => by
    unfold read
    rw [succeeds_map, Value.isFilter_object_iff]
    exact succeeds_readEntries_iff
  | .bool _ => iff_of_false (not_succeeds_error _) fun h => by cases h
  | .number _ => iff_of_false (not_succeeds_error _) fun h => by cases h
  | .string _ => iff_of_false (not_succeeds_error _) fun h => by cases h
  | .array _ => iff_of_false (not_succeeds_error _) fun h => by cases h

theorem succeeds_readEntries_iff : ∀ {fs : List (String × Value)},
    Succeeds (readEntries fs) ↔ ∀ name w, (name, w) ∈ fs → Value.IsEntry name w
  | [] => iff_of_true (succeeds_ok _) fun _ _ h => by cases h
  | (name, v) :: rest => by
    have hentry : Succeeds (readEntry name v) ↔ Value.IsEntry name v := by
      rw [Value.isEntry_iff, readEntry]
      split
      · exact succeeds_readLogical_iff
      · exact succeeds_map.trans FieldTest.succeeds_ofValue_iff
    rw [readEntries_cons, succeeds_bind_bind, hentry, succeeds_readEntries_iff, Fields.forall_mem_cons]

theorem succeeds_readLogical_iff {operator : String} : ∀ {v : Value},
    Succeeds (readLogical operator v) ↔
      operator ∈ ["$and", "$or", "$nor"] ∧ ∃ vs, v = .array vs ∧ ∀ w ∈ vs, Value.IsFilter w
  | .array vs => by
    unfold readLogical
    -- the items are read before the name is looked at, and both have to be fine
    rw [succeeds_bind]
    simp only [succeeds_combine_iff, Value.array.injEq, exists_eq_left', exists_and_right]
    rw [← succeeds_readItems_iff, and_comm]
    rfl
  | .null => iff_of_false (not_succeeds_error _) fun ⟨_, _, h, _⟩ => by cases h
  | .bool _ => iff_of_false (not_succeeds_error _) fun ⟨_, _, h, _⟩ => by cases h
  | .number _ => iff_of_false (not_succeeds_error _) fun ⟨_, _, h, _⟩ => by cases h
  | .string _ => iff_of_false (not_succeeds_error _) fun ⟨_, _, h, _⟩ => by cases h
  | .object _ => iff_of_false (not_succeeds_error _) fun ⟨_, _, h, _⟩ => by cases h

theorem succeeds_readItems_iff : ∀ {vs : List Value},
    Succeeds (readItems vs) ↔ ∀ w ∈ vs, Value.IsFilter w
  | [] => iff_of_true (succeeds_ok _) fun _ h => by cases h
  | v :: vs => by
    unfold readItems
    rw [succeeds_bind_bind, succeeds_read_iff, succeeds_readItems_iff]
    simp only [List.mem_cons, forall_eq_or_imp]

end

end Filter

/-- **The grammar of filters.** A value is read as a filter exactly if the rules derive it, and every
other value is refused as an invalid query. -/
theorem filter_grammar (v : Value) :
    ((∃ f, Filter.ofValue v = .ok f) ↔ v.IsFilter) ∧
      ((∃ fault, Filter.ofValue v = .error (.invalidQuery fault)) ↔ ¬ v.IsFilter) := by
  unfold Filter.ofValue
  rw [← Filter.succeeds_read_iff]
  cases hread : Filter.read v with
  | ok f =>
    constructor
    · exact iff_of_true ⟨f, rfl⟩ (succeeds_ok f)
    · exact iff_of_false (fun ⟨_, h⟩ => by cases h) (not_not_intro (succeeds_ok f))
  | error fault =>
    constructor
    · exact iff_of_false (fun ⟨_, h⟩ => by cases h) (not_succeeds_error fault)
    · exact iff_of_true ⟨fault, rfl⟩ (not_succeeds_error fault)

end DocStore
