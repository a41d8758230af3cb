import DocStore.Proofs.Filter.Meaning
import DocStore.Proofs.Filter.Numbers

/-!
# DocStore — filters and the kinds of numbers

The number one can be written as an integer and as a double. `Value.Recast` relates values that differ in
nothing but that, at any depth. A number that stands by itself is compared by its double, so a filter does
not tell the kinds apart there, nor inside the arrays and objects of a document, as long as its own
operands hold numbers only by themselves (`Value.isBare`). An array or object as an operand is compared as
JSON, and JSON equality does tell them apart.

* **`Value.Recast.get?`** — what a path leads to is recast with the document.
* **`Value.Recast.same_eq`** — a bare operand is met by a value just when it is met by a recast one.
* **`FieldTest.ofValue_recast`**, **`Filter.read_recast`** — conditions and filters of any depth.
* **`filters_ignore_kinds`** — the main statement; **`kinds_told_inside_arrays`** shows a filter that
  changes its mind.
-/

namespace DocStore

/-! ## §1 — values in other kinds -/

namespace Value

mutual

/-- A value, and the same with numbers anywhere in it written in the other kind. -/
inductive Recast : Value → Value → Prop
  | null : Recast .null .null
  | bool (b : Bool) : Recast (.bool b) (.bool b)
  | number {m n : Number} (h : m.exact = n.exact) : Recast (.number m) (.number n)
  | string (s : String) : Recast (.string s) (.string s)
  | array {vs ws : List Value} (h : RecastItems vs ws) : Recast (.array vs) (.array ws)
  | object {fs gs : Fields Value} (h : RecastFields fs gs) : Recast (.object fs) (.object gs)

inductive RecastItems : List Value → List Value → Prop
  | nil : RecastItems [] []
  | cons {v w : Value} {vs ws : List Value} (h : Recast v w) (hrest : RecastItems vs ws) :
      RecastItems (v :: vs) (w :: ws)

inductive RecastFields : Fields Value → Fields Value → Prop
  | nil : RecastFields [] []
  | cons (name : String) {v w : Value} {fs gs : Fields Value} (h : Recast v w)
      (hrest : RecastFields fs gs) : RecastFields ((name, v) :: fs) ((name, w) :: gs)

end

mutual

theorem Recast.refl : ∀ v : Value, v.Recast v
  | .null => .null
  | .bool b => .bool b
  | .number _ => .number rfl
  | .string s => .string s
  | .array vs => .array (RecastItems.refl vs)
  | .object fs => .object (RecastFields.refl fs)

theorem RecastItems.refl : ∀ vs : List Value, RecastItems vs vs
  | [] => .nil
  | v :: vs => .cons (Recast.refl v) (RecastItems.refl vs)

theorem RecastFields.refl : ∀ fs : List (String × Value), RecastFields fs fs
  | [] => .nil
  | (name, v) :: fs => .cons name (Recast.refl v) (RecastFields.refl fs)

end

theorem RecastFields.find? {fs gs : Fields Value} (h : RecastFields fs gs) (name : String) :
    Option.Rel Recast (fs.find? name) (gs.find? name) := by
  induction fs generalizing gs with
  | nil =>
    cases h
    exact .none
  | cons e fs ih =>
    cases h with
    | cons first h hrest =>
      unfold Fields.find?
      rw [List.lookup_cons, List.lookup_cons]
      cases name == first with
      | true => exact .some h
      | false => exact ih hrest

theorem RecastItems.getElem? {vs ws : List Value} (h : RecastItems vs ws) (i : Nat) :
    Option.Rel Recast vs[i]? ws[i]? := by
  induction vs generalizing ws i with
  | nil =>
    cases h
    exact .none
  | cons v vs ih =>
    cases h with
    | cons h hrest =>
      cases i with
      | zero => exact .some h
      | succ i => exact ih hrest i

theorem Recast.step? {v w : Value} (h : v.Recast w) (segment : String) :
    Option.Rel Recast (v.step? segment) (w.step? segment) := by
  cases h with
  | object h => exact h.find? segment
  | array h =>
    unfold Value.step?
    cases Path.natOfText? segment with
    | some i => exact h.getElem? i
    | none => exact .none
  | _ => exact .none

/-- A walk goes as far in the one value as in the other. Induction on the segments. -/
theorem Recast.walk? {v w : Value} (h : v.Recast w) (segments : List String) :
    Option.Rel Recast (v.walk? segments) (w.walk? segments) := by
  induction segments generalizing v w with
  | nil => exact .some h
  | cons segment rest ih =>
    have hstep := h.step? segment
    unfold Value.walk?
    generalize v.step? segment = x at hstep ⊢
    generalize w.step? segment = y at hstep ⊢
    cases hstep with
    | none => exact .none
    | some h => exact ih h

theorem Recast.get? {d d' : Document} (h : d.toValue.Recast d'.toValue) (path : String) :
    Option.Rel Recast (d.get? path) (d'.get? path) :=
  h.walk? (Path.segments path)

/-! ## §2 — operands -/

mutual

/-- Whether there is no number in a value, at any depth. -/
def isNumberless : Value → Bool
  | number _ => false
  | array vs => areNumberless vs
  | object fs => fieldsNumberless fs
  | _ => true

def areNumberless : List Value → Bool
  | [] => true
  | v :: vs => v.isNumberless && areNumberless vs

def fieldsNumberless : List (String × Value) → Bool
  | [] => true
  | (_, v) :: fs => v.isNumberless && fieldsNumberless fs

end

/-- Whether a value is a number, or has no number in it. -/
def isBare : Value → Bool
  | number _ => true
  | v => v.isNumberless

mutual

/-- Where there are no numbers, nothing can be recast. -/
theorem Recast.eq_of_isNumberless :
    ∀ {v w : Value}, v.Recast w → v.isNumberless = true ∨ w.isNumberless = true → v = w
  | .null, _, .null, _ => rfl
  | .bool _, _, .bool _, _ => rfl
  | .number _, _, .number _, h => by simp [isNumberless] at h
  | .string _, _, .string _, _ => rfl
  | .array _, _, .array hitems, h => congrArg array (hitems.eq_of_areNumberless h)
  | .object _, _, .object hfields, h => congrArg object (hfields.eq_of_fieldsNumberless h)

theorem RecastItems.eq_of_areNumberless :
    ∀ {vs ws : List Value}, RecastItems vs ws → areNumberless vs = true ∨ areNumberless ws = true →
      vs = ws
  | [], _, .nil, _ => rfl
  | _ :: _, _, .cons hfirst hrest, h => by
    simp only [areNumberless, Bool.and_eq_true] at h
    rw [hfirst.eq_of_isNumberless (h.imp And.left And.left),
      hrest.eq_of_areNumberless (h.imp And.right And.right)]

theorem RecastFields.eq_of_fieldsNumberless :
    ∀ {fs gs : List (String × Value)}, RecastFields fs gs →
      fieldsNumberless fs = true ∨ fieldsNumberless gs = true → fs = gs
  | [], _, .nil, _ => rfl
  | _ :: _, _, .cons _ hfirst hrest, h => by
    simp only [fieldsNumberless, Bool.and_eq_true] at h
    rw [hfirst.eq_of_isNumberless (h.imp And.left And.left),
      hrest.eq_of_fieldsNumberless (h.imp And.right And.right)]

end

theorem isNumberless_of_lookup {gs : List (String × Value)} {name : String} {w : Value}
    (h : fieldsNumberless gs = true) (hfound : gs.lookup name = some w) : w.isNumberless = true := by
  induction gs with
  | nil => cases hfound
  | cons e gs ih =>
    obtain ⟨first, v⟩ := e
    obtain ⟨hv, hrest⟩ := Bool.and_eq_true_iff.mp h
    rw [List.lookup_cons] at hfound
    split at hfound
    · rwa [← Option.some.inj hfound]
    · exact ih hrest hfound

mutual

/-- What equals a value without numbers has none either. -/
theorem isNumberless_of_equal : ∀ {v w : Value}, v.equal w = true → w.isNumberless = true →
    v.isNumberless = true
  | .null, _, _, _ => rfl
  | .bool _, _, _, _ => rfl
  | .string _, _, _, _ => rfl
  | .number _, w, h, hw => by
    cases w with
    | number n => cases hw
    | _ => cases h
  | .array vs, w, h, hw => by
    cases w with
    | array ws => exact areNumberless_of_equalItems h hw
    | _ => cases h
  | .object fs, w, h, hw => by
    cases w with
    | object gs => exact fieldsNumberless_of_within (Bool.and_eq_true_iff.mp h).2 hw
    | _ => cases h

theorem areNumberless_of_equalItems : ∀ {vs ws : List Value}, equalItems vs ws = true →
    areNumberless ws = true → areNumberless vs = true
  | [], _, _, _ => rfl
  | _ :: _, [], h, _ => by cases h
  | v :: vs, w :: ws, h, hw => by
    simp only [equalItems, areNumberless, Bool.and_eq_true] at h hw ⊢
    exact ⟨isNumberless_of_equal h.1 hw.1, areNumberless_of_equalItems h.2 hw.2⟩

theorem fieldsNumberless_of_within : ∀ {fs gs : List (String × Value)}, fieldsWithin fs gs = true →
    fieldsNumberless gs = true → fieldsNumberless fs = true
  | [], _, _, _ => rfl
  | (name, v) :: fs, gs, h, hw => by
    obtain ⟨hfirst, hrest⟩ := Bool.and_eq_true_iff.mp h
    split at hfirst
    · next w hfound =>
      exact Bool.and_eq_true_iff.mpr ⟨isNumberless_of_equal hfirst (isNumberless_of_lookup hw hfound),
        fieldsNumberless_of_within hrest hw⟩
    · cases hfirst

end

end Value

/-- A number has one double, in whatever kind it is written. -/
theorem Number.units_value_of_exact {m n : Number} (h : m.exact = n.exact) :
    m.value.units = n.value.units := by
  cases m with
  | int m =>
    cases n with
    | int n => rw [int_eq_of_exact h]
    | double y => exact (show IsDouble (int m) from ⟨y, h.symm⟩).units_value.trans h
  | double x =>
    cases n with
    | int n => exact h.trans (show IsDouble (int n) from ⟨x, h⟩).units_value.symm
    | double y => exact h

/-! ## §3 — the value at a path -/

namespace Value

variable {v v' t t' : Value}

theorem same_eq_equal (h : ∀ n, t ≠ .number n) : v.same t = v.equal t := by
  unfold same
  split
  · exact absurd rfl (h _)
  · rfl

theorem Recast.equal_eq (hv : v.Recast v') (h : t.isNumberless = true) : v'.equal t = v.equal t := by
  rw [Bool.eq_iff_iff]
  constructor
  · intro hequal
    rwa [hv.eq_of_isNumberless (.inr (isNumberless_of_equal hequal h))]
  · intro hequal
    rwa [← hv.eq_of_isNumberless (.inl (isNumberless_of_equal hequal h))]

/-- **A bare operand** is met by a value just when it is met by the recast one. -/
theorem Recast.same_eq (hv : v.Recast v') (ht : t.Recast t') (hbare : t.isBare = true) :
    v'.same t' = v.same t := by
  by_cases hnumber : ∃ n, t = .number n
  · obtain ⟨n, rfl⟩ := hnumber
    cases ht with
    | number ht =>
      cases hv with
      | number hv =>
        show (_ == _) = (_ == _)
        rw [Number.units_value_of_exact hv, Number.units_value_of_exact ht]
      | _ => rfl
  · have hother : ∀ n, t ≠ .number n := fun n e => hnumber ⟨n, e⟩
    have hnumberless : t.isNumberless = true := by
      cases t with
      | number n => exact absurd rfl (hother n)
      | _ => exact hbare
    rw [← ht.eq_of_isNumberless (.inl hnumberless), same_eq_equal hother, same_eq_equal hother,
      hv.equal_eq hnumberless]

theorem Recast.compare?_eq (hv : v.Recast v') (ht : t.Recast t') :
    v'.compare? t' = v.compare? t := by
  cases hv with
  | number hv =>
    cases ht with
    | number ht =>
      show some (Ord.compare _ _) = some (Ord.compare _ _)
      rw [Number.units_value_of_exact hv, Number.units_value_of_exact ht]
    | _ => rfl
  | _ => cases ht <;> rfl

theorem Recast.isArray_eq (h : t.Recast t') : t'.isArray = t.isArray := by
  cases h <;> rfl

theorem RecastItems.any_eq {vs ws : List Value} (h : RecastItems vs ws) {p q : Value → Bool}
    (hpq : ∀ v w, v.Recast w → q w = p v) : ws.any q = vs.any p := by
  induction vs generalizing ws with
  | nil =>
    cases h
    rfl
  | cons v vs ih =>
    cases h with
    | cons h hrest => rw [List.any_cons, List.any_cons, hpq _ _ h, ih hrest]

theorem Recast.equalsOrContains_eq (hv : v.Recast v') (ht : t.Recast t') (hbare : t.isBare = true) :
    v'.equalsOrContains t' = v.equalsOrContains t := by
  unfold equalsOrContains
  rw [hv.same_eq ht hbare, ht.isArray_eq]
  cases hv with
  | array hitems => simp only [hitems.any_eq fun _ _ h => h.same_eq ht hbare]
  | _ => rfl

end Value

namespace FieldTest

open Value

variable {u u' : Option Value} {t t' : Value}

theorem holdsEq_recast (hu : Option.Rel Recast u u') (ht : t.Recast t') (hbare : t.isBare = true) :
    holdsEq u' t' = holdsEq u t := by
  cases hu with
  | none => cases ht <;> rfl
  | some hv => exact hv.equalsOrContains_eq ht hbare

theorem any_holdsEq_recast (hu : Option.Rel Recast u u') {ts ts' : List Value}
    (hts : RecastItems ts ts') (hbare : ts.all isBare = true) :
    ts'.any (holdsEq u') = ts.any (holdsEq u) := by
  induction ts generalizing ts' with
  | nil =>
    cases hts
    rfl
  | cons t ts ih =>
    cases hts with
    | cons ht hrest =>
      obtain ⟨hfirst, hothers⟩ := Bool.and_eq_true_iff.mp hbare
      rw [List.any_cons, List.any_cons, holdsEq_recast hu ht hfirst, ih hrest hothers]

theorem holdsOrder_recast (accept : Ordering → Bool) (hu : Option.Rel Recast u u')
    (ht : t.Recast t') : holdsOrder accept u' t' = holdsOrder accept u t := by
  cases hu with
  | none => rfl
  | some hv =>
    unfold holdsOrder
    cases hv with
    | array hitems => exact hitems.any_eq fun _ _ h => by rw [h.compare?_eq ht]
    | number h => simp only [(Recast.number h).compare?_eq ht]
    | object h => simp only [(Recast.object h).compare?_eq ht]
    | null => simp only [Recast.null.compare?_eq ht]
    | bool b => simp only [(Recast.bool b).compare?_eq ht]
    | string s => simp only [(Recast.string s).compare?_eq ht]

mutual

/-- Whether a test goes by values alone: it does not ask for a kind, and the operands that it wants
equality with are bare. -/
def isByValue : FieldTest → Bool
  | eq target | ne target => target.isBare
  | oneOf targets | noneOf targets => targets.all Value.isBare
  | kind _ => false
  | not tests => areByValue tests
  | _ => true

def areByValue : List FieldTest → Bool
  | [] => true
  | t :: ts => t.isByValue && areByValue ts

end

/-- Tests that come to the same on values that are recast, provided that they go by values. -/
def Agree (ts ts' : List FieldTest) : Prop :=
  areByValue ts = true → ∀ u u', Option.Rel Recast u u' → allHold ts' u' = allHold ts u

theorem areByValue_append (ts us : List FieldTest) :
    areByValue (ts ++ us) = (areByValue ts && areByValue us) := by
  induction ts with
  | nil => rfl
  | cons t ts ih => rw [List.cons_append, areByValue, areByValue, ih, Bool.and_assoc]

theorem Agree.append {ts ts' us us' : List FieldTest} (ht : Agree ts ts') (hu : Agree us us') :
    Agree (ts ++ us) (ts' ++ us') := by
  intro hvalue u u' h
  rw [areByValue_append, Bool.and_eq_true] at hvalue
  rw [allHold_append, allHold_append, ht hvalue.1 u u' h, hu hvalue.2 u u' h]

/-- One test, with what it comes to. -/
theorem agree_some {t t' : FieldTest}
    (h : t.isByValue = true → ∀ u u', Option.Rel Recast u u' → t'.holds u' = t.holds u) :
    Agree (some t).toList (some t').toList := by
  intro hvalue u u' hu
  have ht := h (Bool.and_eq_true_iff.mp hvalue).1 u u' hu
  simp only [Option.toList_some, allHold, ht]

theorem agree_eq {v v' : Value} (hv : v.Recast v') : Agree [.eq v] [.eq v'] :=
  agree_some fun hvalue _ _ hu => holdsEq_recast hu hv hvalue

/-! ## §4 — conditions -/

theorem readTargets_recast {operator : String} {v v' : Value} (hv : v.Recast v') {ts : List Value}
    (h : readTargets operator v = .ok ts) :
    ∃ ts', readTargets operator v' = .ok ts' ∧ RecastItems ts ts' := by
  cases hv with
  | array hitems =>
    obtain rfl := Except.ok.inj h
    exact ⟨_, rfl, hitems⟩
  | _ => cases h

theorem readPresence_recast {v v' : Value} (hv : v.Recast v') :
    readPresence v' = readPresence v := by
  cases hv with
  | number h =>
    show Except.ok (_ != _) = Except.ok (_ != _)
    rw [Number.units_value_of_exact h]
  | _ => rfl

theorem readPattern_recast {pattern : String} {options options' : Option Value} {r : Regex}
    (h : Option.Rel Recast options options') (hread : readPattern pattern options = .ok r) :
    readPattern pattern options' = .ok r := by
  cases h with
  | none => exact hread
  | some h =>
    cases h with
    | string s => exact hread
    | _ => cases hread

theorem contains_recast {fs gs : Fields Value} (h : RecastFields fs gs) (name : String) :
    gs.contains name = fs.contains name := by
  have hfound := h.find? name
  unfold Fields.contains
  generalize fs.find? name = x at hfound ⊢
  generalize gs.find? name = y at hfound ⊢
  cases hfound <;> rfl

/-- **One operator**, `$not` apart. -/
theorem ofOperator_recast {siblings siblings' : Fields Value} (hs : RecastFields siblings siblings')
    {operator : String} {v v' : Value} (hv : v.Recast v') {test : Option FieldTest}
    (h : ofOperator siblings operator v = .ok test) :
    ∃ test', ofOperator siblings' operator v' = .ok test' ∧ Agree test.toList test'.toList := by
  unfold ofOperator at h ⊢
  split at h
  -- `$eq` and `$ne`, of bare operands only
  case h_1 =>
    cases h
    exact ⟨_, rfl, agree_eq hv⟩
  case h_2 =>
    cases h
    exact ⟨_, rfl, agree_some fun hvalue u u' hu => congrArg (!·) (holdsEq_recast hu hv hvalue)⟩
  -- `$gt`, `$gte`, `$lt`, `$lte`, of any operands
  case h_3 | h_4 | h_5 | h_6 =>
    cases h
    exact ⟨_, rfl, agree_some fun _ u u' hu => holdsOrder_recast _ hu hv⟩
  -- `$in` and `$nin`
  case h_7 =>
    obtain ⟨ts, hts, rfl⟩ := map_eq_ok_iff.mp h
    obtain ⟨ts', hts', hitems⟩ := readTargets_recast hv hts
    exact ⟨_, map_eq_ok_iff.mpr ⟨ts', hts', rfl⟩,
      agree_some fun hvalue u u' hu => any_holdsEq_recast hu hitems hvalue⟩
  case h_8 =>
    obtain ⟨ts, hts, rfl⟩ := map_eq_ok_iff.mp h
    obtain ⟨ts', hts', hitems⟩ := readTargets_recast hv hts
    exact ⟨_, map_eq_ok_iff.mpr ⟨ts', hts', rfl⟩,
      agree_some fun hvalue u u' hu => congrArg (!·) (any_holdsEq_recast hu hitems hvalue)⟩
  -- `$exists`, `$type`, `$regex`
  case h_9 =>
    rw [readPresence_recast hv]
    refine ⟨test, h, ?_⟩
    obtain ⟨b, -, rfl⟩ := map_eq_ok_iff.mp h
    exact agree_some fun _ u u' hu => by cases hu <;> rfl
  case h_10 =>
    cases hv with
    | string s =>
      cases h
      exact ⟨_, rfl, agree_some fun hvalue => by cases hvalue⟩
    | _ => cases h
  case h_11 =>
    cases hv with
    | string s =>
      obtain ⟨r, hr, rfl⟩ := map_eq_ok_iff.mp h
      refine ⟨_, map_eq_ok_iff.mpr ⟨r, readPattern_recast (hs.find? "$options") hr, rfl⟩, ?_⟩
      exact agree_some fun _ u u' hu => by
        cases hu with
        | none => rfl
        | some h => cases h <;> rfl
    | _ => cases h
  -- `$options` makes no test
  case h_12 =>
    rw [contains_recast hs]
    refine ⟨test, h, ?_⟩
    split at h
    · cases h
      exact fun _ _ _ _ => rfl
    · cases h
  case h_13 => cases h

mutual

/-- **Conditions of any depth**: a recast condition is read, too, and agrees. -/
theorem ofValue_recast : ∀ {c c' : Value} {ts : List FieldTest}, c.Recast c' → ofValue c = .ok ts →
    ∃ ts', ofValue c' = .ok ts' ∧ Agree ts ts'
  | .object fs, .object gs, _, .object hfs, h => by
    have hfirst : isOperatorObject gs = isOperatorObject fs := by cases hfs <;> rfl
    unfold ofValue at h ⊢
    rw [hfirst]
    split at h
    · next hoperators =>
      rw [if_pos hoperators]
      exact ofOperators_recast hfs hfs h
    · next hplain =>
      rw [if_neg hplain]
      cases h
      exact ⟨_, rfl, agree_eq (.object hfs)⟩
  | _, _, _, .null, h => by
    cases h
    exact ⟨_, rfl, agree_eq .null⟩
  | _, _, _, .bool b, h => by
    cases h
    exact ⟨_, rfl, agree_eq (.bool b)⟩
  | _, _, _, .number hn, h => by
    cases h
    exact ⟨_, rfl, agree_eq (.number hn)⟩
  | _, _, _, .string s, h => by
    cases h
    exact ⟨_, rfl, agree_eq (.string s)⟩
  | _, _, _, .array hitems, h => by
    cases h
    exact ⟨_, rfl, agree_eq (.array hitems)⟩

theorem ofOperators_recast {siblings siblings' : Fields Value} (hs : RecastFields siblings siblings') :
    ∀ {fs gs : List (String × Value)} {ts : List FieldTest}, RecastFields fs gs →
      ofOperators siblings fs = .ok ts → ∃ ts', ofOperators siblings' gs = .ok ts' ∧ Agree ts ts'
  | _, _, _, .nil, h => by
    cases h
    exact ⟨[], rfl, fun _ _ _ _ => rfl⟩
  | _, _, _, .cons (v := v) (w := w) name hv hrest, h => by
    rw [ofOperators_cons] at h ⊢
    obtain ⟨test, htest, h⟩ := ok_of_bind h
    obtain ⟨tests, htests, h⟩ := ok_of_bind h
    obtain rfl : test.toList ++ tests = _ := Except.ok.inj h
    obtain ⟨tests', htests', hagree⟩ := ofOperators_recast hs hrest htests
    have hentry : ∃ test', ofEntry siblings' name w = .ok test' ∧
        Agree test.toList test'.toList := by
      unfold ofEntry at htest ⊢
      split at htest
      · next hnot =>
        obtain ⟨inner, hinner, rfl⟩ := map_eq_ok_iff.mp htest
        obtain ⟨inner', hinner', hagree⟩ := ofValue_recast hv hinner
        rw [if_pos hnot, hinner']
        exact ⟨_, rfl, agree_some fun hvalue u u' hu => congrArg (!·) (hagree hvalue u u' hu)⟩
      · next hother =>
        rw [if_neg hother]
        exact ofOperator_recast hs hv htest
    obtain ⟨test', htest', hfirst⟩ := hentry
    exact ⟨test'.toList ++ tests', by rw [htest', htests']; rfl, hfirst.append hagree⟩

end

end FieldTest

/-! ## §5 — filters -/

namespace Filter

open Value

mutual

/-- Whether all tests of a filter go by values alone. -/
def isByValue : Filter → Bool
  | field _ tests => FieldTest.areByValue tests
  | every filters | any filters | none filters => areByValue filters

def areByValue : List Filter → Bool
  | [] => true
  | f :: fs => f.isByValue && areByValue fs

end

/-- Filters that accept a document and its recast alike, provided that the first goes by values. -/
def Agree (f f' : Filter) : Prop :=
  f.isByValue = true → ∀ d d' : Document, d.toValue.Recast d'.toValue → f'.accepts d' = f.accepts d

/-- The same of lists of filters, of which all or some have to accept. -/
def AllAgree (fs fs' : List Filter) : Prop :=
  areByValue fs = true → ∀ d d' : Document, d.toValue.Recast d'.toValue →
    allMatch fs' d' = allMatch fs d ∧ anyMatches fs' d' = anyMatches fs d

theorem allAgree_nil : AllAgree [] [] := fun _ _ _ _ => ⟨rfl, rfl⟩

theorem AllAgree.cons {f f' : Filter} {fs fs' : List Filter} (hf : f.Agree f') (h : AllAgree fs fs') :
    AllAgree (f :: fs) (f' :: fs') := by
  intro hvalue d d' hd
  obtain ⟨hfirst, hrest⟩ := Bool.and_eq_true_iff.mp hvalue
  obtain ⟨hall, hany⟩ := h hrest d d' hd
  simp only [allMatch, anyMatches, hf hfirst d d' hd, hall, hany, and_self]

theorem agree_combine {operator : String} {fs fs' : List Filter} {f : Filter} (h : AllAgree fs fs')
    (hcombine : combine operator fs = .ok f) : ∃ f', combine operator fs' = .ok f' ∧ f.Agree f' := by
  unfold combine at hcombine ⊢
  split at hcombine
  case h_1 =>
    cases hcombine
    exact ⟨_, rfl, fun hvalue d d' hd => (h hvalue d d' hd).1⟩
  case h_2 =>
    cases hcombine
    exact ⟨_, rfl, fun hvalue d d' hd => (h hvalue d d' hd).2⟩
  case h_3 =>
    cases hcombine
    exact ⟨_, rfl, fun hvalue d d' hd => congrArg (!·) (h hvalue d d' hd).2⟩
  case h_4 => cases hcombine

mutual

/-- **Filters of any depth**: a recast filter is read, too, and agrees. -/
theorem read_recast : ∀ {v w : Value} {f : Filter}, v.Recast w → read v = .ok f →
    ∃ f', read w = .ok f' ∧ f.Agree f'
  | _, _, _, .null, h => by
    cases h
    exact ⟨all, rfl, fun _ _ _ _ => rfl⟩
  | _, _, _, .object hfs, h => by
    unfold read at h ⊢
    obtain ⟨fs, hread, rfl⟩ := map_eq_ok_iff.mp h
    obtain ⟨fs', hread', hagree⟩ := readEntries_recast hfs hread
    exact ⟨every fs', map_eq_ok_iff.mpr ⟨fs', hread', rfl⟩,
      fun hvalue d d' hd => (hagree hvalue d d' hd).1⟩
  | _, _, _, .bool _, h => by cases h
  | _, _, _, .number _, h => by cases h
  | _, _, _, .string _, h => by cases h
  | _, _, _, .array _, h => by cases h

theorem readEntries_recast : ∀ {es es' : List (String × Value)} {fs : List Filter},
    RecastFields es es' → readEntries es = .ok fs →
      ∃ fs', readEntries es' = .ok fs' ∧ AllAgree fs fs'
  | _, _, _, .nil, h => by
    cases h
    exact ⟨[], rfl, allAgree_nil⟩
  | _, _, _, .cons (v := v) (w := w) name hv hrest, h => by
    rw [readEntries_cons] at h ⊢
    obtain ⟨f, hf, h⟩ := ok_of_bind h
    obtain ⟨fs, hfs, h⟩ := ok_of_bind h
    obtain rfl := Except.ok.inj h
    obtain ⟨fs', hfs', hagree⟩ := readEntries_recast hrest hfs
    have hentry : ∃ f', readEntry name w = .ok f' ∧ f.Agree f' := by
      unfold readEntry at hf ⊢
      split at hf
      · next hname =>
        rw [if_pos hname]
        exact readLogical_recast hv hf
      · next hname =>
        obtain ⟨tests, htests, rfl⟩ := map_eq_ok_iff.mp hf
        obtain ⟨tests', htests', hagree⟩ := FieldTest.ofValue_recast hv htests
        rw [if_neg hname, htests']
        -- the path leads to recast values
        exact ⟨_, rfl, fun hvalue d d' hd => hagree hvalue _ _ (hd.get? name)⟩
    obtain ⟨f', hf', hfirst⟩ := hentry
    exact ⟨f' :: fs', by rw [hf', hfs']; rfl, .cons hfirst hagree⟩

theorem readLogical_recast {operator : String} : ∀ {v w : Value} {f : Filter}, v.Recast w →
    readLogical operator v = .ok f → ∃ f', readLogical operator w = .ok f' ∧ f.Agree f'
  | _, _, _, .array hvs, h => by
    obtain ⟨fs, hfs, h⟩ := ok_of_bind h
    obtain ⟨fs', hfs', hagree⟩ := readItems_recast hvs hfs
    obtain ⟨f', hf', hsame⟩ := agree_combine hagree h
    exact ⟨f', by rw [readLogical, hfs']; exact hf', hsame⟩
  | _, _, _, .null, h => by cases h
  | _, _, _, .bool _, h => by cases h
  | _, _, _, .number _, h => by cases h
  | _, _, _, .string _, h => by cases h
  | _, _, _, .object _, h => by cases h

theorem readItems_recast : ∀ {vs ws : List Value} {fs : List Filter}, RecastItems vs ws →
    readItems vs = .ok fs → ∃ fs', readItems ws = .ok fs' ∧ AllAgree fs fs'
  | _, _, _, .nil, h => by
    cases h
    exact ⟨[], rfl, allAgree_nil⟩
  | _, _, _, .cons hv hrest, h => by
    obtain ⟨f, hf, h⟩ := ok_of_bind h
    obtain ⟨fs, hfs, h⟩ := ok_of_bind h
    obtain rfl := Except.ok.inj h
    obtain ⟨f', hf', hfirst⟩ := read_recast hv hf
    obtain ⟨fs', hfs', hagree⟩ := readItems_recast hrest hfs
    exact ⟨f' :: fs', by rw [readItems, hf', hfs']; rfl, .cons hfirst hagree⟩

end

end Filter

/-- **Filters ignore the kinds of numbers**, as far as they go by values. Where an accepted filter does
not ask for a kind, and wants equality with bare operands only, numbers may be written in the other kind
at any depth of it and of a document: it is accepted still, and wants the document just when it did. -/
theorem filters_ignore_kinds {v v' : Value} {f : Filter} (hread : Filter.ofValue v = .ok f)
    (hvalue : f.isByValue = true) (hv : v.Recast v') {d d' : Document}
    (hd : d.toValue.Recast d'.toValue) :
    ∃ f', Filter.ofValue v' = .ok f' ∧ f'.accepts d' = f.accepts d := by
  obtain ⟨f', hread', hagree⟩ := Filter.read_recast hv (mapError_eq_ok_iff.mp hread)
  exact ⟨f', mapError_eq_ok_iff.mpr hread', hagree hvalue d d' hd⟩

/-- A number in an object inside an array, beside a list of numbers as operands. -/
theorem filters_ignore_kinds_of_nested_number :
    let one : Value := .ofNat 1
    let one' : Value := .number (.double (.ofInt 1))
    let written (n : Value) : Value := .object [("$nor", .array [.object [("a.0.b", .object
      [("$not", .object [("$in", .array [.ofNat 7, n])])])]])]
    let f : Filter :=
      .every [.none [.every [.field "a.0.b" [.not [.oneOf [.ofNat 7, one]]]]]]
    let holding (n : Value) : Document := ⟨[("a", .array [.object [("b", n)]])]⟩
    Filter.ofValue (written one) = .ok f ∧ f.isByValue = true ∧
      (written one).Recast (written one') ∧
      (holding one).toValue.Recast (holding one').toValue ∧ f.accepts (holding one) = true ∧
      ∃ f', Filter.ofValue (written one') = .ok f' ∧
        f'.accepts (holding one') = f.accepts (holding one) := by
  intro one one' written f holding
  have hread : Filter.ofValue (written one) = .ok f := rfl
  have hone : one.Recast one' := .number (Binary64.Finite.units_ofInt (by decide)).symm
  have hwritten : (written one).Recast (written one') :=
    .object (.cons _ (.array (.cons (.object (.cons _ (.object (.cons _ (.object (.cons _
      (.array (.cons (.refl _) (.cons hone .nil))) .nil)) .nil)) .nil)) .nil)) .nil)
  have hholding : (holding one).toValue.Recast (holding one').toValue :=
    .object (.cons _ (.array (.cons (.object (.cons _ hone .nil)) .nil)) .nil)
  exact ⟨hread, rfl, hwritten, hholding, by decide +kernel,
    filters_ignore_kinds hread rfl hwritten hholding⟩

/-- **The kinds are told inside arrays**: a filter for an array of the number one accepts it with an
integer and not with a double. -/
theorem kinds_told_inside_arrays :
    let one : Value := .ofNat 1
    let one' : Value := .number (.double (.ofInt 1))
    let f : Filter := .every [.field "a" [.eq (.array [one])]]
    let d : Document := ⟨[("a", .array [one])]⟩
    let d' : Document := ⟨[("a", .array [one'])]⟩
    Filter.ofValue (.object [("a", .array [one])]) = .ok f ∧ d.toValue.Recast d'.toValue ∧
      f.accepts d = true ∧ f.accepts d' = false := by
  intro one one' f d d'
  have hone : one.Recast one' := .number (Binary64.Finite.units_ofInt (by decide)).symm
  have hd : d.toValue.Recast d'.toValue := .object (.cons _ (.array (.cons hone .nil)) .nil)
  exact ⟨rfl, hd, by decide +kernel, by decide +kernel⟩

end DocStore
