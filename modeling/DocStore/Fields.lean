/-!
# DocStore — ordered fields

An object is a list of named entries in the order in which they were put in. The operations below
keep names distinct: putting a name that is there already keeps its place, and taking an entry out
moves the last entry into the gap.
-/

namespace DocStore

/-- Named entries in order. -/
abbrev Fields (α : Type) := List (String × α)

theorem lookup_eq_none_iff_notMem {κ α : Type} [BEq κ] [LawfulBEq κ] {entries : List (κ × α)}
    {k : κ} : entries.lookup k = none ↔ k ∉ entries.map Prod.fst := by
  rw [List.lookup_eq_none_iff, List.mem_map]
  constructor
  · rintro h ⟨e, he, rfl⟩
    simpa using h e he
  · intro h e he
    rw [bne_iff_ne]
    exact fun heq => h ⟨e, he, heq.symm⟩

/-- Where names are distinct, looking one up is finding its entry. -/
theorem lookup_eq_some_iff_mem {κ α : Type} [BEq κ] [LawfulBEq κ] {entries : List (κ × α)}
    (h : (entries.map Prod.fst).Nodup) {k : κ} {a : α} :
    entries.lookup k = some a ↔ (k, a) ∈ entries := by
  induction entries with
  | nil => simp
  | cons entry entries ih =>
    obtain ⟨k', a'⟩ := entry
    rw [List.map_cons, List.nodup_cons] at h
    rw [List.lookup_cons, List.mem_cons, Prod.mk.injEq]
    by_cases hk : k = k'
    · subst hk
      have hnot : (k, a) ∉ entries := fun hmem => h.1 (List.mem_map.mpr ⟨(k, a), hmem, rfl⟩)
      simp [hnot, eq_comm]
    · rw [beq_false_of_ne hk, ih h.2]
      simp [hk]

namespace Fields

variable {α : Type}

/-- The names, in order. -/
def names (fs : Fields α) : List String := fs.map Prod.fst

/-- The entry of this name. -/
def find? (fs : Fields α) (name : String) : Option α := fs.lookup name

/-- Whether there is an entry of this name. -/
def contains (fs : Fields α) (name : String) : Bool := (fs.find? name).isSome

/-- Put an entry: in the place of the one of the same name, else at the end. -/
def put (name : String) (a : α) : Fields α → Fields α
  | [] => [(name, a)]
  | (n, b) :: rest => if n = name then (n, a) :: rest else (n, b) :: put name a rest

/-- Put each of the entries in turn. -/
def putAll (fs entries : Fields α) : Fields α :=
  entries.foldl (fun acc e => acc.put e.1 e.2) fs

/-- The entries of a text that may repeat a name: the last one counts, in the first one's place. -/
def ofEntries (entries : Fields α) : Fields α := putAll [] entries

/-- The entries with the one of this name replaced by `last`. -/
def replaceWith (name : String) (last : String × α) : Fields α → Fields α
  | [] => []
  | (n, b) :: rest => if n = name then last :: rest else (n, b) :: replaceWith name last rest

/-- Take out the entry of this name. The last entry moves into its place, unless it is the last
itself. -/
def remove (name : String) (fs : Fields α) : Fields α :=
  match fs.getLast? with
  | none => fs
  | some last =>
    if last.1 = name then fs.dropLast
    else if fs.contains name then replaceWith name last fs.dropLast
    else fs

/-! ## What the operations do to the names -/

@[simp] theorem names_nil : names ([] : Fields α) = [] := rfl

@[simp] theorem names_cons (n : String) (a : α) (fs : Fields α) :
    names ((n, a) :: fs) = n :: names fs := rfl

/-- Overwriting keeps every name in its place; a new name goes to the end. -/
theorem names_put (name : String) (a : α) (fs : Fields α) :
    names (put name a fs) = if name ∈ names fs then names fs else names fs ++ [name] := by
  induction fs with
  | nil => simp [put]
  | cons e rest ih =>
    obtain ⟨n, b⟩ := e
    by_cases h : n = name
    · simp [put, h]
    · have h' : name ≠ n := fun e => h e.symm
      by_cases hin : name ∈ names rest <;> simp [put, h, h', hin, ih]

/-- Putting keeps the names distinct. -/
theorem nodup_names_put {name : String} {a : α} {fs : Fields α} (h : (names fs).Nodup) :
    (names (put name a fs)).Nodup := by
  rw [names_put]
  split
  · exact h
  · next hin =>
    refine List.nodup_append.2 ⟨h, by simp, ?_⟩
    intro x hx y hy
    have : y = name := by simpa using hy
    subst this
    exact fun e => hin (e ▸ hx)

/-- What has just been put is found. -/
@[simp] theorem find?_put_self (name : String) (a : α) (fs : Fields α) :
    find? (put name a fs) name = some a := by
  induction fs with
  | nil => simp [put, find?]
  | cons e rest ih =>
    obtain ⟨n, b⟩ := e
    by_cases h : n = name
    · simp [put, h, find?]
    · have h' : (name == n) = false := by simpa using fun e => h e.symm
      simpa [put, h, find?, List.lookup_cons, h'] using ih

/-- Putting touches no other name. -/
theorem find?_put_of_ne {name other : String} (h : other ≠ name) (a : α) (fs : Fields α) :
    find? (put name a fs) other = find? fs other := by
  have hne : (other == name) = false := by simpa using h
  induction fs with
  | nil => simp [put, find?, List.lookup_cons, hne]
  | cons e rest ih =>
    obtain ⟨n, b⟩ := e
    by_cases hn : n = name
    · simp [put, hn, find?, List.lookup_cons, hne]
    · simp only [put, if_neg hn, find?, List.lookup_cons]
      split
      · rfl
      · exact ih

/-- Of entries that are picked by their names, those of a name are all there or none is. -/
theorem find?_filter (p : String → Bool) (fs : Fields α) (name : String) :
    find? (fs.filter (p ·.1)) name = if p name then find? fs name else none := by
  unfold find?
  induction fs with
  | nil => simp
  | cons e rest ih =>
    obtain ⟨n, b⟩ := e
    rw [List.filter_cons, List.lookup_cons]
    cases hname : name == n with
    | true =>
      rw [beq_iff_eq.mp hname] at ih ⊢
      cases hp : p n with
      | true => rw [if_pos rfl, if_pos rfl, List.lookup_cons_self]
      | false => rw [if_neg Bool.false_ne_true, ih, hp]; rfl
    | false =>
      cases p n with
      | true => rw [if_pos rfl, List.lookup_cons, hname, ih]
      | false => rw [if_neg Bool.false_ne_true, ih]

@[simp] theorem names_append (fs gs : Fields α) : names (fs ++ gs) = names fs ++ names gs :=
  List.map_append

/-- A new name goes to the end, with its entry. -/
theorem put_of_notMem {name : String} {a : α} {fs : Fields α} (h : name ∉ names fs) :
    put name a fs = fs ++ [(name, a)] := by
  induction fs with
  | nil => rfl
  | cons e rest ih =>
    obtain ⟨n, b⟩ := e
    have hne : n ≠ name := fun e => h (by simp [e])
    have hrest : name ∉ names rest := fun hin => h (List.mem_cons_of_mem n hin)
    rw [put, if_neg hne, ih hrest]
    rfl

/-- Entries of new names, each of its own, go to the end as they stand. -/
theorem putAll_of_nodup {fs entries : Fields α} (h : (names (fs ++ entries)).Nodup) :
    putAll fs entries = fs ++ entries := by
  induction entries generalizing fs with
  | nil => exact (List.append_nil fs).symm
  | cons e rest ih =>
    obtain ⟨name, a⟩ := e
    have hnew : name ∉ names fs := by
      rw [names_append] at h
      exact fun hin => (List.nodup_append.mp h).2.2 name hin name (by simp) rfl
    show putAll (fs.put name a) rest = _
    rw [put_of_notMem hnew, ih (by simpa using h)]
    simp

/-- Names stay in their places, and new ones come behind them as they are put. -/
theorem names_putAll {fs entries : Fields α} (h : (names entries).Nodup) :
    names (putAll fs entries) = names fs ++ (names entries).filter (· ∉ names fs) := by
  induction entries generalizing fs with
  | nil => exact (List.append_nil _).symm
  | cons e rest ih =>
    obtain ⟨name, a⟩ := e
    obtain ⟨hnew, hrest⟩ := List.nodup_cons.mp h
    show names (putAll (fs.put name a) rest) = _
    rw [ih hrest, names_put, names_cons]
    by_cases hin : name ∈ names fs
    · rw [if_pos hin, List.filter_cons_of_neg (by simpa using hin)]
    · rw [if_neg hin, List.filter_cons_of_pos (by simpa using hin), List.append_assoc]
      refine congrArg (names fs ++ name :: ·) (List.filter_congr fun n hn => ?_)
      have hne : n ≠ name := fun he => hnew (he ▸ hn)
      simp [hne]

theorem mem_names_putAll {name : String} {fs entries : Fields α} :
    name ∈ names (putAll fs entries) ↔ name ∈ names fs ∨ name ∈ names entries := by
  induction entries generalizing fs with
  | nil => simp [putAll]
  | cons e rest ih =>
    obtain ⟨n, a⟩ := e
    show name ∈ names (putAll (fs.put n a) rest) ↔ _
    rw [ih, names_put, names_cons, List.mem_cons]
    by_cases hin : n ∈ names fs
    · rw [if_pos hin]
      -- a name that is put again was there before
      exact ⟨Or.imp_right Or.inr, fun h => h.elim Or.inl (Or.imp_left fun hn => hn.symm ▸ hin)⟩
    · rw [if_neg hin, List.mem_append, List.mem_singleton, or_assoc]

/-- No name is lost where the last entry of a name counts, and none comes in. -/
theorem mem_names_ofEntries {name : String} {entries : Fields α} :
    name ∈ names (ofEntries entries) ↔ name ∈ names entries :=
  mem_names_putAll.trans (or_iff_right List.not_mem_nil)

theorem ofEntries_of_nodup {entries : Fields α} (h : (names entries).Nodup) :
    ofEntries entries = entries :=
  putAll_of_nodup h

/-! ## Taking an entry out -/

section Removal

variable {name : String} {a : α} {fs before after : Fields α} {last : String × α}

/-- A name that is there stands between the entries before it and those behind it. -/
theorem exists_split (h : name ∈ names fs) :
    ∃ before a after, fs = before ++ (name, a) :: after ∧ name ∉ names before := by
  induction fs with
  | nil => cases h
  | cons e rest ih =>
    obtain ⟨n, b⟩ := e
    by_cases hn : n = name
    · subst hn
      exact ⟨[], b, rest, rfl, by simp⟩
    · have hrest : name ∈ names rest := (List.mem_cons.mp h).resolve_left fun heq => hn heq.symm
      obtain ⟨before, a, after, rfl, hnot⟩ := ih hrest
      refine ⟨(n, b) :: before, a, after, rfl, fun hin => ?_⟩
      exact (List.mem_cons.mp hin).elim (fun heq => hn heq.symm) hnot

theorem contains_iff : fs.contains name = true ↔ name ∈ names fs := by
  unfold contains find?
  rw [Option.isSome_iff_ne_none, ne_eq, lookup_eq_none_iff_notMem, Classical.not_not]
  exact Iff.rfl

theorem replaceWith_append (h : name ∉ names before) :
    replaceWith name last (before ++ (name, a) :: after) = before ++ last :: after := by
  induction before with
  | nil => simp [replaceWith]
  | cons e rest ih =>
    obtain ⟨n, b⟩ := e
    obtain ⟨hne, hrest⟩ := not_or.mp fun hor => h (List.mem_cons.mpr hor)
    rw [List.cons_append, replaceWith, if_neg fun heq => hne heq.symm, ih hrest]
    rfl

theorem remove_of_notMem (h : name ∉ names fs) : remove name fs = fs := by
  unfold remove
  split
  · rfl
  · next last hlast =>
    have hne : last.1 ≠ name := by
      rintro rfl
      exact h (List.mem_map_of_mem (List.mem_of_getLast? hlast))
    rw [if_neg hne, if_neg fun hin => h (contains_iff.mp hin)]

/-- **The last entry** is just taken away. -/
theorem remove_of_last : remove name (before ++ [(name, a)]) = before := by
  unfold remove
  simp

/-- **Any other entry** gives its place to the last one. -/
theorem remove_of_behind (hbefore : name ∉ names before) (hlast : last.1 ≠ name)
    (between : Fields α) :
    remove name (before ++ (name, a) :: (between ++ [last])) = before ++ last :: between := by
  have hentries : before ++ (name, a) :: (between ++ [last])
      = (before ++ (name, a) :: between) ++ [last] := by simp
  have hin : (before ++ (name, a) :: (between ++ [last])).contains name = true :=
    contains_iff.mpr (by simp)
  rw [hentries] at hin ⊢
  unfold remove
  simp only [List.getLast?_concat, List.dropLast_concat, if_neg hlast, if_pos hin]
  exact replaceWith_append hbefore

/-- A name of different ones is found where it stands, with the names behind it. -/
theorem exists_split_of_nodup (h : (names fs).Nodup) (hin : name ∈ names fs) :
    ∃ before a after, fs = before ++ (name, a) :: after ∧
      name ∉ names before ∧ name ∉ names after := by
  obtain ⟨before, a, after, rfl, hbefore⟩ := exists_split hin
  refine ⟨before, a, after, rfl, hbefore, fun hafter => ?_⟩
  rw [names_append, names_cons, List.nodup_append] at h
  exact (List.nodup_cons.mp h.2.1).1 hafter

/-- **Of entries with different names** that of the name goes, and all others stay, wherever they are. -/
theorem perm_remove (h : (names fs).Nodup) (hin : name ∈ names fs) :
    ∃ a, fs.Perm ((name, a) :: remove name fs) := by
  obtain ⟨before, a, after, rfl, hbefore, hafter⟩ := exists_split_of_nodup h hin
  refine ⟨a, ?_⟩
  rcases List.eq_nil_or_concat after with rfl | ⟨between, last, rfl⟩
  · rw [remove_of_last]
    exact List.perm_append_singleton _ _
  · rw [List.concat_eq_append] at hafter ⊢
    have hlast : last.1 ≠ name := by
      rintro rfl
      exact hafter (by simp [names])
    rw [remove_of_behind hbefore hlast]
    exact List.perm_middle.trans
      (((List.perm_append_singleton last between).append_left before).cons _)

theorem nodup_names_remove (h : (names fs).Nodup) : (names (remove name fs)).Nodup := by
  by_cases hin : name ∈ names fs
  · obtain ⟨a, hperm⟩ := perm_remove h hin
    have hnames := (hperm.map Prod.fst).nodup_iff.mp h
    exact (List.nodup_cons.mp hnames).2
  · rw [remove_of_notMem hin]
    exact h

/-- What is taken out is not found any more, and all else is found as before. -/
theorem find?_remove (h : (names fs).Nodup) (name other : String) :
    find? (remove name fs) other = if other = name then none else find? fs other := by
  by_cases hin : name ∈ names fs
  · obtain ⟨a, hperm⟩ := perm_remove h hin
    have hnames := (hperm.map Prod.fst).nodup_iff.mp h
    have hnot : name ∉ names (remove name fs) := (List.nodup_cons.mp hnames).1
    split
    · next heq =>
      rw [heq]
      exact lookup_eq_none_iff_notMem.mpr hnot
    · next hne =>
      refine Option.ext fun b => ?_
      unfold find?
      rw [lookup_eq_some_iff_mem h, lookup_eq_some_iff_mem (nodup_names_remove h), hperm.mem_iff]
      simp [hne]
  · rw [remove_of_notMem hin]
    split
    · next heq =>
      rw [heq]
      exact lookup_eq_none_iff_notMem.mpr hin
    · rfl

/-- The name of the last entry goes with it. -/
theorem names_remove_of_last {before : List String} (h : names fs = before ++ [name]) :
    names (remove name fs) = before := by
  obtain ⟨front, rest, rfl, rfl, hrest⟩ := List.map_eq_append_iff.mp h
  obtain ⟨⟨_, a⟩, rfl, rfl⟩ := List.map_eq_singleton_iff.mp hrest
  rw [remove_of_last]
  rfl

/-- The name of any other entry gives its place to the last name. -/
theorem names_remove_of_behind {before between : List String} {last : String}
    (hbefore : name ∉ before) (hlast : last ≠ name)
    (h : names fs = before ++ name :: (between ++ [last])) :
    names (remove name fs) = before ++ last :: between := by
  obtain ⟨front, rest, rfl, rfl, hrest⟩ := List.map_eq_append_iff.mp h
  obtain ⟨⟨_, a⟩, rest, rfl, rfl, hrest⟩ := List.map_eq_cons_iff.mp hrest
  obtain ⟨middle, ends, rfl, rfl, hends⟩ :=
    List.map_eq_append_iff.mp (show names rest = _ from (List.cons.inj hrest).2)
  obtain ⟨e, rfl, rfl⟩ := List.map_eq_singleton_iff.mp hends
  rw [remove_of_behind hbefore hlast]
  simp [names]

/-- The first entry stays in its place, unless it is taken out itself. -/
theorem head?_names_remove {n : String} {b : α} {rest : Fields α} (hne : n ≠ name) :
    (names (remove name ((n, b) :: rest))).head? = some n := by
  cases rest with
  | nil =>
    rw [remove_of_notMem (by simpa using hne.symm)]
    rfl
  | cons e rest =>
    unfold remove
    split
    · rfl
    · split
      · rfl
      · split
        · rw [List.dropLast_cons_cons, replaceWith, if_neg hne]
          rfl
        · rfl

end Removal

/-! ## What holds of every entry -/

theorem forall_mem_cons {p : String → α → Prop} {name : String} {a : α} {fs : Fields α} :
    (∀ n b, (n, b) ∈ (name, a) :: fs → p n b) ↔ p name a ∧ ∀ n b, (n, b) ∈ fs → p n b := by
  simp only [List.mem_cons, Prod.mk.injEq]
  constructor
  · intro h
    exact ⟨h name a (.inl ⟨rfl, rfl⟩), fun n b hin => h n b (.inr hin)⟩
  · rintro ⟨h, hrest⟩ n b (⟨rfl, rfl⟩ | hin)
    · exact h
    · exact hrest n b hin

end Fields

end DocStore
