import DocStore.Options
import DocStore.Proofs.Json.Digits
import DocStore.Proofs.Outcome

/-!
# DocStore — options written as arguments

Options are written as arguments in many ways: in any order, and each option that takes a value as one
argument or as two (`Options.Setting`). All of them are read back as the options that were written, and what
the environment says of an option that is written does not count.

* **`Path.natOfText?_toString`** — a number is read back from its digits.
* **`Options.readArguments_setting`** — the step: one setting is read, and gives what it says.
* **`Options.readArguments_settings`** — the run: so do all of them, by induction on the settings.
* **`Options.valid_of_read`** — what is read is valid, whatever the arguments and the environment.
* **`options_written_are_read_back`** — the main statement.
-/

namespace DocStore

/-! ## §1 — numbers -/

namespace Path

/-- **A number of 64 bits is read back from its digits.** -/
theorem natOfText?_toString {n : Nat} (h : n < 2 ^ 64) : natOfText? (toString n) = some n := by
  obtain ⟨hnonempty, hdigits⟩ : Json.AreDigits (Nat.toDigits 10 n) := Json.areDigits_digitChars n
  have hvalue : (Nat.toDigits 10 n).foldl (fun n c => n * 10 + (c.toNat - 48)) 0 = n :=
    Json.natOfDigits_digitChars n
  have hsign : ∀ rest, Nat.toDigits 10 n ≠ '+' :: rest := by
    intro rest heq
    have hplus := hdigits '+' (by rw [heq]; exact List.mem_cons_self)
    cases hplus
  unfold natOfText?
  rw [Nat.toString_eq_repr, Nat.repr_eq_ofList_toDigits, String.toList_ofList]
  split
  next rest heq => exact absurd heq (hsign rest)
  next =>
    have hall : (Nat.toDigits 10 n).all Char.isDigit = true := List.all_eq_true.2 hdigits
    have hsome : (Nat.toDigits 10 n).isEmpty = false := by
      rwa [List.isEmpty_eq_false_iff]
    simp only [hall, hsome, hvalue, Bool.not_true, Bool.or_self, Bool.false_eq_true, if_false, if_pos h]

/-- **What is read as a number has 64 bits.** -/
theorem lt_of_natOfText? {s : String} {n : Nat} (h : natOfText? s = some n) : n < 2 ^ 64 := by
  simp only [natOfText?, Option.ite_none_left_eq_some, Option.ite_none_right_eq_some] at h
  obtain ⟨-, hlt, hn⟩ := h
  rwa [← Option.some.inj hn]

end Path

namespace Options

/-! ## §2 — options and settings -/

/-- The options that can be given: numbers of 64 bits, room for at least one document in a batch, and a
directory that has a name. -/
structure Valid (o : Options) : Prop where
  batchSize : 1 ≤ o.batchSize ∧ o.batchSize < 2 ^ 64
  cursorTimeout : o.cursorTimeout < 2 ^ 64
  dbpath : o.dbpath ≠ some ""

/-- How an option that takes a value is written: with an equals sign, or as two arguments. -/
inductive Spelling where
  | joined
  | apart
deriving DecidableEq, Repr

/-- An option as it is written among arguments. -/
inductive Setting where
  | value (name : Name) (text : String) (spelling : Spelling)
  | noJournal
deriving DecidableEq, Repr

namespace Setting

def arguments : Setting → List String
  | value name text .joined => [name.text ++ "=" ++ text]
  | value name text .apart => [name.text, text]
  | noJournal => [noJournalText]

/-- The option that is set, if it is one with a value. -/
def name? : Setting → Option Name
  | value name _ _ => some name
  | noJournal => none

/-- What is written can be read: a value is not empty, and one of its own does not look like an option. -/
def Readable : Setting → Prop
  | value _ text spelling => text.isEmpty = false ∧ (spelling = .apart → isValue text = true)
  | noJournal => True

end Setting

/-- The text of an option's value. -/
def valueText? (o : Options) : Name → Option String
  | .dbpath => o.dbpath
  | .batchSize => some (toString o.batchSize)
  | .cursorTimeout => some (toString o.cursorTimeout)

/-- The settings that say what the options are, each option with a value in its spelling. -/
def settings (o : Options) (spelling : Name → Spelling) : List Setting :=
  ([Name.dbpath, .batchSize, .cursorTimeout].filterMap fun name =>
    (o.valueText? name).map fun text => .value name text (spelling name)) ++
  if o.noJournal then [.noJournal] else []

/-! ## §3 — reading arguments -/

theorem equals_notMem_text (name : Name) : '=' ∉ name.text.toList := by
  cases name <;> decide

theorem ofText?_text (name : Name) : Name.ofText? name.text = some name := by
  cases name <;> decide

/-- An equals sign ends the name. -/
theorem splitArgument_joined (name : Name) (text : String) :
    splitArgument (name.text ++ "=" ++ text) = (name.text, some text) := by
  have hname : ∀ c ∈ name.text.toList, (c != '=') = true := by
    intro c hc
    rw [bne_iff_ne]
    rintro rfl
    exact equals_notMem_text name hc
  have hlist : (name.text ++ "=" ++ text).toList = name.text.toList ++ '=' :: text.toList := by
    rw [String.toList_append, String.toList_append]
    simp
  unfold splitArgument
  simp only [hlist, List.takeWhile_append_of_pos hname]
  simp

/-- An argument with an equals sign is none without. -/
theorem joined_ne (name : Name) (text : String) {arg : String} (h : (splitArgument arg).2 = none) :
    name.text ++ "=" ++ text ≠ arg := by
  rintro rfl
  rw [splitArgument_joined] at h
  cases h

theorem splitArgument_apart (name : Name) : splitArgument name.text = (name.text, none) := by
  cases name <;> decide

/-- What is given when a setting has been read. -/
def Given.set (g : Given) : Setting → Given
  | .value name text _ => { g with value := fun n => if n = name then some text else g.value n }
  | .noJournal => { g with noJournal := true }

/-- A setting is not given yet. -/
def Given.Lacks (g : Given) : Setting → Prop
  | .value name _ _ => g.value name = Option.none
  | .noJournal => g.noJournal = false

theorem Given.lacks_none (s : Setting) : Given.none.Lacks s := by
  cases s <;> rfl

/-- Setting one option leaves another as it was. -/
theorem Given.Lacks.set {g : Given} {s s' : Setting} (h : g.Lacks s') (hne : s.name? ≠ s'.name?) :
    (g.set s).Lacks s' := by
  cases s with
  | value name text spelling =>
    cases s' with
    | value name' text' spelling' =>
      have hname : name' ≠ name := fun heq => hne (congrArg some heq.symm)
      simpa only [Given.set, Given.Lacks, if_neg hname] using h
    | noJournal => exact h
  | noJournal =>
    cases s' with
    | value name' text' spelling' => exact h
    | noJournal => exact absurd rfl hne

/-- **The step.** One setting is read, and what it says is given. -/
theorem readArguments_setting {g : Given} {s : Setting} (hread : s.Readable) (hlacks : g.Lacks s)
    (rest : List String) :
    readArguments g (s.arguments ++ rest) = readArguments (g.set s) rest := by
  cases s with
  | noJournal =>
    have hend : noJournalText ≠ "--" := by decide
    have hgiven : g.noJournal = false := hlacks
    rw [Setting.arguments, List.singleton_append, readArguments.eq_def g]
    simp only [if_neg hend, hgiven, Bool.false_eq_true, if_true, if_false, Given.set]
  | value name text spelling =>
    have hput : g.put name text = .ok (g.set (.value name text spelling)) := by
      have hgiven : g.value name = Option.none := hlacks
      simp [Given.put, hgiven, hread.1, Given.set]
    cases spelling with
    | joined =>
      have hend : name.text ++ "=" ++ text ≠ "--" := joined_ne name text (by decide)
      have hflag : name.text ++ "=" ++ text ≠ noJournalText := joined_ne name text (by decide)
      rw [Setting.arguments, List.singleton_append, readArguments.eq_def g]
      simp only [if_neg hend, if_neg hflag, splitArgument_joined, ofText?_text, hput]
    | apart =>
      have hend : name.text ≠ "--" := by cases name <;> decide
      have hflag : name.text ≠ noJournalText := by cases name <;> decide
      rw [Setting.arguments, List.cons_append, List.singleton_append, readArguments.eq_def g]
      simp only [if_neg hend, if_neg hflag, splitArgument_apart, ofText?_text, hput, hread.2 rfl, if_true]

/-- **The run.** Settings of different options are all read, in whatever order they stand. -/
theorem readArguments_settings {ss : List Setting} (hread : ∀ s ∈ ss, s.Readable)
    (hnames : (ss.map Setting.name?).Nodup) {g : Given} (hlacks : ∀ s ∈ ss, g.Lacks s) :
    readArguments g (ss.flatMap Setting.arguments) = .ok (ss.foldl Given.set g) := by
  induction ss generalizing g with
  | nil => rw [List.flatMap_nil, readArguments, List.foldl_nil]
  | cons s ss ih =>
    rw [List.map_cons, List.nodup_cons] at hnames
    rw [List.flatMap_cons, readArguments_setting (hread s List.mem_cons_self) (hlacks s List.mem_cons_self),
      List.foldl_cons]
    refine ih (fun s' hs' => hread s' (List.mem_cons_of_mem s hs')) hnames.2 fun s' hs' => ?_
    refine (hlacks s' (List.mem_cons_of_mem s hs')).set fun heq => hnames.1 ?_
    exact heq ▸ List.mem_map_of_mem hs'

/-! ## §4 — what is given in the end -/

theorem value_foldl_of_notMem {ss : List Setting} {name : Name} (h : some name ∉ ss.map Setting.name?)
    (g : Given) : (ss.foldl Given.set g).value name = g.value name := by
  induction ss generalizing g with
  | nil => rfl
  | cons s ss ih =>
    rw [List.map_cons, List.mem_cons, not_or] at h
    rw [List.foldl_cons, ih h.2]
    cases s with
    | value name' text spelling => exact if_neg fun heq => h.1 (congrArg some heq)
    | noJournal => rfl

/-- An option that is set once has the value it is set to. -/
theorem value_foldl_of_mem {ss : List Setting} {name : Name} {text : String} {spelling : Spelling}
    (hnames : (ss.map Setting.name?).Nodup) (h : .value name text spelling ∈ ss) (g : Given) :
    (ss.foldl Given.set g).value name = some text := by
  induction ss generalizing g with
  | nil => cases h
  | cons s ss ih =>
    rw [List.map_cons, List.nodup_cons] at hnames
    rw [List.foldl_cons]
    cases h with
    | head =>
      rw [value_foldl_of_notMem hnames.1]
      exact if_pos rfl
    | tail _ hmem => exact ih hnames.2 hmem (g.set s)

theorem noJournal_foldl (ss : List Setting) (g : Given) :
    (ss.foldl Given.set g).noJournal = (g.noJournal || decide (.noJournal ∈ ss)) := by
  induction ss generalizing g with
  | nil => simp
  | cons s ss ih =>
    rw [List.foldl_cons, ih]
    cases s <;> simp [Given.set]

theorem value_mem_settings {o : Options} {spelling : Name → Spelling} {name : Name} {text : String}
    {sp : Spelling} :
    .value name text sp ∈ o.settings spelling ↔ o.valueText? name = some text ∧ spelling name = sp := by
  have hname : name ∈ [Name.dbpath, .batchSize, .cursorTimeout] := by cases name <;> decide
  have hflag : Setting.value name text sp ∉ if o.noJournal then [Setting.noJournal] else [] := by
    cases o.noJournal <;> simp
  rw [settings, List.mem_append, or_iff_left hflag, List.mem_filterMap]
  constructor
  · rintro ⟨name', -, h⟩
    obtain ⟨text', htext, heq⟩ := Option.map_eq_some_iff.1 h
    cases heq
    exact ⟨htext, rfl⟩
  · rintro ⟨htext, rfl⟩
    exact ⟨name, hname, by rw [htext, Option.map_some]⟩

theorem noJournal_mem_settings {o : Options} {spelling : Name → Spelling} :
    .noJournal ∈ o.settings spelling ↔ o.noJournal = true := by
  unfold settings
  cases o.noJournal <;> simp

theorem nodup_names_settings (o : Options) (spelling : Name → Spelling) :
    ((o.settings spelling).map Setting.name?).Nodup := by
  unfold settings valueText?
  cases o.noJournal <;> cases o.dbpath <;> simp [Setting.name?]

theorem valueText?_ne_empty {o : Options} (ho : o.Valid) {name : Name} {text : String}
    (h : o.valueText? name = some text) : text.isEmpty = false := by
  rw [Bool.eq_false_iff, ne_eq, String.isEmpty_iff]
  rintro rfl
  cases name with
  | dbpath => exact ho.dbpath h
  | batchSize => exact absurd (Option.some.inj h) Nat.repr_ne_empty
  | cursorTimeout => exact absurd (Option.some.inj h) Nat.repr_ne_empty

/-- **All that is written is given**, in whatever order, and nothing else. -/
theorem given_of_perm {o : Options} {spelling : Name → Spelling} {ss : List Setting}
    (hss : ss.Perm (o.settings spelling)) :
    ss.foldl Given.set Given.none = ⟨o.valueText?, o.noJournal⟩ := by
  have hnames : (ss.map Setting.name?).Nodup :=
    (hss.map Setting.name?).nodup_iff.2 (nodup_names_settings o spelling)
  have hvalue : (ss.foldl Given.set Given.none).value = o.valueText? := by
    funext name
    cases htext : o.valueText? name with
    | some text =>
      have hmem : Setting.value name text (spelling name) ∈ ss :=
        hss.mem_iff.2 (value_mem_settings.2 ⟨htext, rfl⟩)
      exact value_foldl_of_mem hnames hmem Given.none
    | none =>
      refine value_foldl_of_notMem (fun hmem => ?_) Given.none
      obtain ⟨s, hs, hname⟩ := List.mem_map.1 hmem
      cases s with
      | value name' text sp =>
        cases hname
        rw [(value_mem_settings.1 (hss.mem_iff.1 hs)).1] at htext
        cases htext
      | noJournal => cases hname
  have hflag : (ss.foldl Given.set Given.none).noJournal = o.noJournal := by
    rw [noJournal_foldl]
    simp [Given.none, hss.mem_iff, noJournal_mem_settings]
  rw [← hvalue, ← hflag]

theorem numberOf_given {g : Given} {lookup : String → Option String} {name : Name} {n unsaid : Nat}
    (h : g.value name = some (toString n)) (hn : n < 2 ^ 64) :
    numberOf g lookup name unsaid = .ok n := by
  simp only [numberOf, textOf, h, bind, Except.bind, Path.natOfText?_toString hn]

/-- Options that are given say what they are, whatever the variables say of them. -/
theorem read_of_given {o : Options} (ho : o.Valid) {lookup : String → Option String} {args : List String}
    (hargs : readArguments .none args = .ok ⟨o.valueText?, o.noJournal⟩)
    (hdbpath : o.dbpath = none → lookup Name.dbpath.key = none)
    (hflag : o.noJournal = false → lookup noJournalKey = none) :
    ofArguments lookup args = .ok o := by
  have hpath : textOf ⟨o.valueText?, o.noJournal⟩ lookup .dbpath = .ok o.dbpath := by
    cases hsome : o.dbpath with
    | some path => simp only [textOf, valueText?, hsome]
    | none => simp only [textOf, valueText?, hsome, hdbpath hsome]
  have hbatch (unsaid : Nat) :
      numberOf ⟨o.valueText?, o.noJournal⟩ lookup .batchSize unsaid = .ok o.batchSize :=
    numberOf_given rfl ho.batchSize.2
  have htimeout (unsaid : Nat) :
      numberOf ⟨o.valueText?, o.noJournal⟩ lookup .cursorTimeout unsaid = .ok o.cursorTimeout :=
    numberOf_given rfl ho.cursorTimeout
  have hjournal : flagOf ⟨o.valueText?, o.noJournal⟩ lookup = .ok o.noJournal := by
    cases hset : o.noJournal with
    | true => rfl
    | false => simp [flagOf, hflag hset]
  have hroom : o.batchSize ≠ 0 := Nat.one_le_iff_ne_zero.1 ho.batchSize.1
  have hread : read lookup args = .ok o := by
    simp only [read, bind, Except.bind, hargs, hpath, hbatch, htimeout, hjournal, if_neg hroom]
  rw [ofArguments, hread]
  rfl

/-! ## §5 — what is read is valid -/

/-- No option is given an empty value. -/
def Given.Filled (g : Given) : Prop := ∀ name, g.value name ≠ some ""

theorem Given.Filled.put {g g' : Given} {name : Name} {text : String} (hg : g.Filled)
    (h : g.put name text = .ok g') : g'.Filled := by
  unfold Given.put at h
  split at h
  · cases h
  · split at h
    · cases h
    · next hsome =>
      cases h
      intro name'
      show (if name' = name then some text else g.value name') ≠ some ""
      split
      · rw [ne_eq, Option.some.injEq]
        rintro rfl
        exact hsome rfl
      · exact hg name'

/-- By induction on the reading: every value passes `Given.put`. -/
theorem filled_of_readArguments {g g' : Given} {args : List String} (hg : g.Filled)
    (h : readArguments g args = .ok g') : g'.Filled := by
  fun_induction readArguments g args with
  | case1 | case2 =>
    cases h
    exact hg
  | case5 g rest _ _ ih => exact ih hg h
  | case6 g arg rest _ _ text name value _ g₁ hput _ ih
  | case9 g arg _ _ text name _ value rest _ g₁ hput _ ih => exact ih (hg.put hput) h
  | _ => cases h

theorem textOf_ne_empty {g : Given} (hg : g.Filled) {lookup : String → Option String} {name : Name} :
    textOf g lookup name ≠ .ok (some "") := by
  intro h
  unfold textOf at h
  split at h
  next value hvalue =>
    cases h
    exact hg name hvalue
  next =>
    split at h
    · split at h
      · cases h
      · next hsome =>
        cases h
        exact hsome rfl
    · cases h

theorem lt_of_numberOf {g : Given} {lookup : String → Option String} {name : Name} {unsaid n : Nat}
    (hunsaid : unsaid < 2 ^ 64) (h : numberOf g lookup name unsaid = .ok n) : n < 2 ^ 64 := by
  obtain ⟨text?, -, hn⟩ := ok_of_bind h
  cases text? with
  | none =>
    cases hn
    exact hunsaid
  | some text =>
    dsimp only at hn
    split at hn
    · next hnumber =>
      cases hn
      exact Path.lt_of_natOfText? hnumber
    · cases hn

/-- **What is accepted is valid**, whatever the arguments and the variables. -/
theorem valid_of_read {lookup : String → Option String} {args : List String} {o : Options}
    (h : read lookup args = .ok o) : o.Valid := by
  obtain ⟨g, hargs, h⟩ := ok_of_bind h
  obtain ⟨dbpath, hdbpath, h⟩ := ok_of_bind h
  obtain ⟨batchSize, hbatch, h⟩ := ok_of_bind h
  obtain ⟨cursorTimeout, htimeout, h⟩ := ok_of_bind h
  obtain ⟨noJournal, -, h⟩ := ok_of_bind h
  have hfilled : g.Filled := filled_of_readArguments (fun _ => Option.some_ne_none _ ∘ Eq.symm) hargs
  split at h
  · cases h
  · next hroom =>
    cases h
    exact
      { batchSize := ⟨Nat.one_le_iff_ne_zero.2 hroom, lt_of_numberOf (by decide) hbatch⟩
        cursorTimeout := lt_of_numberOf (by decide) htimeout
        dbpath := by
          rintro rfl
          exact textOf_ne_empty hfilled hdbpath }

end Options

/-! ## §6 — the main statement -/

open Options in
/-- **Options are read back from the arguments that write them**, in every order and every spelling, and the
environment has no say in an option that is given. What is accepted is valid in any case. -/
theorem options_written_are_read_back :
    (∀ (o : Options) (spelling : Name → Spelling) (ss : List Setting) (environment : String → Option String),
      o.Valid →
      (∀ name text, o.valueText? name = some text → spelling name = .apart → isValue text = true) →
      ss.Perm (o.settings spelling) →
      (o.dbpath = none → environment Name.dbpath.variable = none) →
      (o.noJournal = false → environment noJournalVariable = none) →
      ofEnvironment environment (ss.flatMap Setting.arguments) = .ok o) ∧
    ∀ (environment : String → Option String) (args : List String) (o : Options),
      ofEnvironment environment args = .ok o → o.Valid := by
  constructor
  · intro o spelling ss environment ho hspelling hss hdbpath hflag
    have hread : ∀ s ∈ ss, s.Readable := by
      intro s hs
      cases s with
      | noJournal => trivial
      | value name text sp =>
        obtain ⟨htext, rfl⟩ := value_mem_settings.1 (hss.mem_iff.1 hs)
        exact ⟨valueText?_ne_empty ho htext, hspelling name text htext⟩
    have hnames : (ss.map Setting.name?).Nodup :=
      (hss.map Setting.name?).nodup_iff.2 (nodup_names_settings o spelling)
    refine read_of_given ho ?_ hdbpath hflag
    rw [readArguments_settings hread hnames fun s _ => Given.lacks_none s, given_of_perm hss]
  · intro environment args o h
    exact valid_of_read (mapError_eq_ok_iff.1 (show ofArguments _ args = .ok o from h))

open Options in
/-- A directory that is just a hyphen may stand apart, and empty variables of options that are given do no
harm. -/
theorem options_written_are_read_back_of_hyphen :
    let o : Options := { dbpath := some "-", batchSize := 5, cursorTimeout := 0 }
    let environment := fun name => if name = noJournalVariable then none else some ""
    ofEnvironment environment ["--cursor-timeout-secs", "0", "--batch-size=5", "--dbpath", "-"] = .ok o ∧
      o.Valid := by
  intro o environment
  have ho : o.Valid := ⟨by decide, by decide, by decide⟩
  have hspelling : ∀ name text, o.valueText? name = some text →
      (if name = .batchSize then Spelling.joined else .apart) = .apart → isValue text = true := by
    intro name text htext hapart
    cases name <;> cases htext
    · decide
    · cases hapart
    · decide
  have hread : ofEnvironment environment
      ["--cursor-timeout-secs", "0", "--batch-size=5", "--dbpath", "-"] = .ok o :=
    options_written_are_read_back.1 o (fun name => if name = .batchSize then .joined else .apart)
      [.value .cursorTimeout "0" .apart, .value .batchSize "5" .joined, .value .dbpath "-" .apart]
      environment ho hspelling (by decide) (by decide) (by decide)
  exact ⟨hread, options_written_are_read_back.2 environment _ o hread⟩

end DocStore
