/-!
# DocStore — maps in the order of names

Entries under names, kept in increasing order of the names, the order by code points. The order is
part of the type, so two maps with the same entries are equal and listing the names lists them in
order.
-/

namespace DocStore

/-- Entries in strictly increasing order of their names. -/
structure SortedMap (α : Type) where
  entries : List (String × α)
  sorted : entries.Pairwise fun a b => a.1 < b.1

namespace SortedMap

variable {α : Type}

/-- The entries with one put in its place. -/
def putEntry (name : String) (a : α) : List (String × α) → List (String × α)
  | [] => [(name, a)]
  | (n, b) :: rest =>
    if name < n then (name, a) :: (n, b) :: rest
    else if name = n then (name, a) :: rest
    else (n, b) :: putEntry name a rest

/-- What is put in, or was there. -/
theorem mem_putEntry {name : String} {a : α} {e : String × α} :
    ∀ {es : List (String × α)}, e ∈ putEntry name a es → e = (name, a) ∨ e ∈ es
  | [], h => by simpa [putEntry] using h
  | (n, b) :: rest, h => by
    unfold putEntry at h
    split at h
    · simpa using h
    · split at h
      · rcases List.mem_cons.1 h with h | h
        · exact Or.inl h
        · exact Or.inr (List.mem_cons_of_mem _ h)
      · rcases List.mem_cons.1 h with h | h
        · exact Or.inr (h ▸ List.mem_cons_self ..)
        · rcases mem_putEntry h with h | h
          · exact Or.inl h
          · exact Or.inr (List.mem_cons_of_mem _ h)

/-- Of two names that are not in order, the other one is first or they are the same. -/
theorem lt_of_not_lt_of_ne {m n : String} (hlt : ¬ m < n) (hne : m ≠ n) : n < m :=
  String.not_le.1 fun hle => hne (String.le_antisymm hle (String.not_lt.1 hlt))

/-- Putting an entry keeps the order. -/
theorem sorted_putEntry (name : String) (a : α) :
    ∀ {es : List (String × α)}, (es.Pairwise fun a b => a.1 < b.1) →
      (putEntry name a es).Pairwise fun a b => a.1 < b.1
  | [], _ => by simp [putEntry]
  | (n, b) :: rest, h => by
    obtain ⟨hhead, htail⟩ := List.pairwise_cons.1 h
    unfold putEntry
    split
    · next hlt =>
      refine List.pairwise_cons.2 ⟨fun e he => ?_, h⟩
      rcases List.mem_cons.1 he with rfl | he
      · exact hlt
      · exact String.lt_trans hlt (hhead e he)
    · next hlt =>
      split
      · next heq =>
        subst heq
        exact List.pairwise_cons.2 ⟨hhead, htail⟩
      · next hne =>
        refine List.pairwise_cons.2 ⟨fun e he => ?_, sorted_putEntry name a htail⟩
        rcases mem_putEntry he with rfl | he
        · exact lt_of_not_lt_of_ne hlt hne
        · exact hhead e he

/-- The map without entries. -/
def empty : SortedMap α := ⟨[], List.Pairwise.nil⟩

instance : Inhabited (SortedMap α) := ⟨empty⟩

/-- The entry of a name. -/
def find? (m : SortedMap α) (name : String) : Option α := m.entries.lookup name

/-- Whether there is an entry of a name. -/
def contains (m : SortedMap α) (name : String) : Bool := (m.find? name).isSome

/-- Put an entry, in the place of the one of the same name if there is one. -/
def put (m : SortedMap α) (name : String) (a : α) : SortedMap α :=
  ⟨putEntry name a m.entries, sorted_putEntry name a m.sorted⟩

/-- Take the entry of a name out. -/
def erase (m : SortedMap α) (name : String) : SortedMap α :=
  ⟨m.entries.filter fun e => e.1 != name, m.sorted.filter _⟩

/-- The names in order. -/
def names (m : SortedMap α) : List String := m.entries.map Prod.fst

/-- How many entries there are. -/
def size (m : SortedMap α) : Nat := m.entries.length

def isEmpty (m : SortedMap α) : Bool := m.entries.isEmpty

/-! ## What is found after a change -/

theorem lookup_cons_eq_ite (name other : String) (a : α) (es : List (String × α)) :
    ((name, a) :: es).lookup other = if other = name then some a else es.lookup other := by
  rw [List.lookup_cons]
  by_cases h : other = name
  · simp [h]
  · simp [h, beq_false_of_ne h]

theorem lookup_putEntry (name other : String) (a : α) (es : List (String × α)) :
    (putEntry name a es).lookup other = if other = name then some a else es.lookup other := by
  induction es with
  | nil => exact lookup_cons_eq_ite name other a []
  | cons e rest ih =>
    obtain ⟨n, b⟩ := e
    unfold putEntry
    split
    · exact lookup_cons_eq_ite name other a _
    · split
      · next heq =>
        subst heq
        rw [lookup_cons_eq_ite, lookup_cons_eq_ite]
        by_cases h : other = name <;> simp [h]
      · next hne =>
        -- the entry stays in front of the one that is put
        rw [lookup_cons_eq_ite, lookup_cons_eq_ite, ih]
        by_cases h : other = n
        · subst h
          rw [if_pos rfl, if_neg (Ne.symm hne), if_pos rfl]
        · rw [if_neg h, if_neg h]

@[simp] theorem find?_empty (name : String) : (empty : SortedMap α).find? name = none := rfl

theorem find?_put (m : SortedMap α) (name other : String) (a : α) :
    (m.put name a).find? other = if other = name then some a else m.find? other :=
  lookup_putEntry name other a m.entries

theorem find?_erase (m : SortedMap α) (name other : String) :
    (m.erase name).find? other = if other = name then none else m.find? other := by
  show (m.entries.filter fun e => e.1 != name).lookup other = if other = name then none
    else m.entries.lookup other
  induction m.entries with
  | nil => simp
  | cons e rest ih =>
    obtain ⟨n, b⟩ := e
    rw [List.filter_cons, lookup_cons_eq_ite]
    by_cases hn : n = name
    · subst hn
      rw [if_neg (by simp), ih]
      by_cases h : other = n <;> simp [h]
    · rw [if_pos (by simp [hn]), lookup_cons_eq_ite, ih]
      by_cases h : other = n
      · subst h
        rw [if_pos rfl, if_neg hn, if_pos rfl]
      · rw [if_neg h, if_neg h]

/-! ## Names -/

/-- The names are those under which something is found. -/
theorem mem_names_iff {m : SortedMap α} {name : String} :
    name ∈ m.names ↔ ∃ a, m.find? name = some a := by
  unfold names find?
  induction m.entries with
  | nil => simp
  | cons e rest ih =>
    obtain ⟨n, b⟩ := e
    rw [List.map_cons, List.mem_cons, ih, lookup_cons_eq_ite]
    by_cases h : name = n <;> simp [h]

/-- The names stand in strictly increasing order. -/
theorem sorted_names (m : SortedMap α) : m.names.Pairwise (· < ·) := List.pairwise_map.mpr m.sorted

theorem exists_find?_of_isEmpty {m : SortedMap α} (h : ¬ m.isEmpty = true) :
    ∃ name a, m.find? name = some a := by
  unfold isEmpty at h
  cases hentries : m.entries with
  | nil => simp [hentries] at h
  | cons e rest =>
    refine ⟨e.1, mem_names_iff.mp ?_⟩
    unfold names
    rw [hentries]
    exact List.mem_cons_self

end SortedMap

end DocStore
