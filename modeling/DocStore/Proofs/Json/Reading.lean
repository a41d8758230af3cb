import DocStore.Proofs.Json.Values

/-!
# DocStore — what is read of a written value

A value that was written is read again with its strings, its items and its fields in their places. Its
numbers are another matter: the reader rounds more than once, so a double may come back as a neighbour
(`Number.reread`). A value comes back with whatever its numbers come back as (`Value.reread`), or not at
all, if it nests too deep or a number lies beyond the doubles for the reader.

* **`Value.eq_reread_of_valueAt`** — what is read of a value's text is that, up to where the text ends.
  Induction on the reader's fuel, with what follows the text as a parameter.
* **`Value.Settled.reread_eq`** — a value whose names stand once each, and whose numbers are read as
  themselves, as all integers of 64 bits are, comes back as it is.
-/

namespace DocStore

open Json

/-! ## §1 — readers -/

namespace Json

variable {α β : Type} {rest rest' : List Char}

/-- What is read at once, up to where it ends. -/
theorem eq_of_read {a b : α} (h : some (a, rest) = some (b, rest')) : b = a ∧ rest' = rest := by
  obtain ⟨rfl, rfl⟩ := Prod.mk.inj (Option.some.inj h)
  exact ⟨rfl, rfl⟩

/-- What is made of something that is read ends where that ends. -/
theorem exists_of_map {found : Option (α × List Char)} {f : α → β} {b : β}
    (h : found.map (fun read => (f read.1, read.2)) = some (b, rest)) :
    ∃ a, found = some (a, rest) ∧ b = f a := by
  obtain ⟨⟨a, left⟩, hfound, heq⟩ := Option.map_eq_some_iff.mp h
  obtain ⟨rfl, rfl⟩ := Prod.mk.inj heq
  exact ⟨a, hfound, rfl⟩

end Json

/-! ## §2 — numbers -/

namespace Number

/-- The number that the text of a number is read as; the number itself where its text is refused. -/
def reread (a : Number) : Number :=
  match numberAt a.chars with
  | some (b, _) => b
  | none => a

/-- **What is read of a number's text**, in front of whatever stops it. -/
theorem eq_reread_of_numberAt {a b : Number} {rest rest' : List Char} (hrest : Stops rest)
    (h : numberAt (a.chars ++ rest) = some (b, rest')) : b = a.reread ∧ rest' = rest := by
  obtain ⟨m, hchars, -⟩ := exists_numeral a
  have halone := m.numberAt_chars stops_nil
  rw [List.append_nil, hchars] at halone
  rw [← hchars, m.numberAt_chars hrest] at h
  unfold reread
  rw [halone]
  cases hread : numberOf m.negative m.whole m.fraction m.exponent with
  | none =>
    rw [hread] at h
    cases h
  | some c =>
    rw [hread] at h
    exact eq_of_read h

theorem integerOf_natAbs {n : Int} (hlow : -(2 ^ 63) ≤ n) :
    integerOf (decide (n < 0)) n.natAbs 0 = some (int n) := by
  unfold integerOf
  rw [if_neg (by simp)]
  by_cases hneg : n < 0
  · have hvalue : -(n.natAbs : Int) = n := by omega
    rw [decide_eq_true hneg, if_pos rfl, if_neg (by omega), hvalue]
  · have hvalue : (n.natAbs : Int) = n := by omega
    rw [decide_eq_false hneg, if_neg (by simp), hvalue]

/-- **An integer of 64 bits is read as itself.** -/
theorem reread_int {n : Int} (hlow : -(2 ^ 63) ≤ n) (hhigh : n < 2 ^ 64) : reread (int n) = int n := by
  obtain ⟨m, hchars, hint, hsign, hsize⟩ := exists_numeral_int n
  obtain ⟨hfraction, hexponent⟩ : m.fraction = none ∧ m.exponent = none := by
    simpa [Numeral.IsDouble] using hint
  have hheld : holdDigits 0 m.whole = (natOfDigits m.whole, 0) := holdDigits_of_natOfDigits_lt (by omega)
  have hnumber : numberOf m.negative m.whole m.fraction m.exponent = some (int n) := by
    rw [hfraction, hexponent, hsign, numberOf, hheld, hsize]
    exact integerOf_natAbs hlow
  have hread := m.numberAt_chars stops_nil
  rw [List.append_nil, hchars, hnumber] at hread
  unfold reread
  rw [hread]
  rfl

end Number

/-! ## §3 — values -/

namespace Value

mutual

/-- The value that the text of a value is read as. Of fields of one name the last one counts. -/
def reread : Value → Value
  | null => null
  | bool b => bool b
  | number a => number a.reread
  | string s => string s
  | array vs => array (rereadItems vs)
  | object fs => object (Fields.ofEntries (rereadFields fs))

def rereadItems : List Value → List Value
  | [] => []
  | v :: vs => v.reread :: rereadItems vs

def rereadFields : List (String × Value) → List (String × Value)
  | [] => []
  | (name, v) :: fs => (name, v.reread) :: rereadFields fs

end

/-- No blank stands in front of a value. -/
theorem skipBlanks_chars (v : Value) (rest : List Char) :
    skipBlanks (v.chars ++ rest) = v.chars ++ rest := by
  obtain ⟨c, cs, hchars, hshape⟩ := shape?_head v
  have hplain : ¬ isBlank c = true := by
    intro hblank
    simp only [isBlank, Bool.or_eq_true, decide_eq_true_eq] at hblank
    rcases hblank with ((rfl | rfl) | rfl) | rfl <;> cases hshape
  rw [hchars, List.cons_append, skipBlanks, List.dropWhile_cons_of_neg hplain]

theorem valueAt_number (fuel depth : Nat) (a : Number) (rest : List Char) :
    valueAt (fuel + 1) depth (a.chars ++ rest)
      = (numberAt (a.chars ++ rest)).map fun (b, rest) => (number b, rest) := by
  have hskip : skipBlanks (a.chars ++ rest) = a.chars ++ rest := skipBlanks_chars (number a) rest
  -- the other values start with characters that no number starts with
  have hne : ∀ c rest', shape? c ≠ some .number → a.chars ++ rest ≠ c :: rest' := by
    obtain ⟨c, cs, hchars, hfirst⟩ := a.exists_chars_eq
    intro c' rest' hshape heq
    rw [hchars] at heq
    obtain ⟨rfl, -⟩ := List.cons.inj heq
    exact hshape (shape?_number hfirst)
  rw [valueAt, hskip]
  split
  · next heq => exact absurd heq (hne 'n' _ (by decide))
  · next heq => exact absurd heq (hne 't' _ (by decide))
  · next heq => exact absurd heq (hne 'f' _ (by decide))
  · next heq => exact absurd heq (hne '"' _ (by decide))
  · next heq => exact absurd heq (hne '[' _ (by decide))
  · next heq => exact absurd heq (hne '{' _ (by decide))
  · rfl

theorem valueAt_quoted (fuel depth : Nat) (s : String) (rest : List Char) :
    valueAt (fuel + 1) depth (quoted s ++ rest) = some (string s, rest) := by
  have hread : valueAt (fuel + 1) depth (quoted s ++ rest)
      = (stringAt (quoted s ++ rest)).map fun found => (string found.1, found.2) := rfl
  rw [hread, stringAt_quoted]
  rfl

theorem valueAt_bracket (fuel depth : Nat) (cs : List Char) :
    valueAt (fuel + 1) (depth + 1) ('[' :: cs) =
      match skipBlanks cs with
      | ']' :: rest => some (array [], rest)
      | rest => (itemsAt fuel depth rest).map fun (vs, rest) => (array vs, rest) := rfl

theorem valueAt_brace (fuel depth : Nat) (cs : List Char) :
    valueAt (fuel + 1) (depth + 1) ('{' :: cs)
      = (bodyAt fuel depth cs).map fun (es, rest) => (object (Fields.ofEntries es), rest) := rfl

theorem valueAt_items (fuel depth : Nat) (v : Value) (behind : List Char) :
    valueAt (fuel + 1) (depth + 1) ('[' :: (v.chars ++ behind))
      = (itemsAt fuel depth (v.chars ++ behind)).map fun (vs, rest) => (array vs, rest) := by
  rw [valueAt_bracket, skipBlanks_chars]
  split
  · next heq => exact absurd heq (append_ne_bracket v _ _)
  · rfl

/-- Behind a name and its colon a value is read, and then the object ends or goes on. -/
theorem entriesAt_field (fuel depth : Nat) (name : String) (cs : List Char) :
    entriesAt (fuel + 1) depth (quoted name ++ ':' :: cs) =
      match valueAt fuel depth cs with
      | none => none
      | some (v, rest) =>
        match skipBlanks rest with
        | '}' :: rest => some ([(name, v)], rest)
        | ',' :: rest => (entriesAt fuel depth rest).map fun (es, rest) => ((name, v) :: es, rest)
        | _ => none := by
  have hquote : skipBlanks (quoted name ++ ':' :: cs) = quoted name ++ ':' :: cs := rfl
  rw [entriesAt, hquote, stringAt_quoted]
  rfl

/-! ## §4 — what is read of a value's text -/

mutual

/-- **What is read of a value's text**, in front of whatever stops a number. -/
theorem eq_reread_of_valueAt : ∀ (fuel : Nat) {depth : Nat} {v w : Value} {rest rest' : List Char},
    Stops rest → valueAt fuel depth (v.chars ++ rest) = some (w, rest') → w = v.reread ∧ rest' = rest
  | fuel + 1, depth, v, w, rest, rest', hrest, h => by
    cases v with
    | null => exact eq_of_read h
    | bool b => cases b <;> exact eq_of_read h
    | number a =>
      rw [chars, valueAt_number] at h
      obtain ⟨b, hnumber, rfl⟩ := exists_of_map (f := number) h
      obtain ⟨rfl, rfl⟩ := Number.eq_reread_of_numberAt hrest hnumber
      exact ⟨rfl, rfl⟩
    | string s =>
      rw [chars, valueAt_quoted] at h
      exact eq_of_read h
    | array vs =>
      rw [chars_array_append] at h
      match depth, vs, h with
      | depth + 1, [], h => exact eq_of_read h
      | depth + 1, v :: vs, h =>
        rw [itemChars_cons_append, valueAt_items] at h
        obtain ⟨ws, hitems, rfl⟩ := exists_of_map (f := array) h
        obtain ⟨rfl, rfl⟩ := eq_reread_of_itemsAt fuel hitems
        exact ⟨rfl, rfl⟩
    | object fs =>
      rw [chars_object_append] at h
      match depth, h with
      | depth + 1, h =>
        rw [valueAt_brace] at h
        obtain ⟨es, hbody, rfl⟩ := exists_of_map (f := fun es => object (Fields.ofEntries es)) h
        obtain ⟨rfl, rfl⟩ := eq_reread_of_bodyAt fuel hbody
        exact ⟨rfl, rfl⟩

/-- What is read of items, up to the closing bracket. -/
theorem eq_reread_of_itemsAt : ∀ (fuel : Nat) {depth : Nat} {v : Value} {vs ws : List Value}
    {rest rest' : List Char}, itemsAt fuel depth (v.chars ++ itemsBehind rest vs) = some (ws, rest') →
      ws = rereadItems (v :: vs) ∧ rest' = rest
  | fuel + 1, depth, v, vs, ws, rest, rest', h => by
    rw [itemsAt] at h
    split at h
    · cases h
    · next w left hvalue =>
      obtain ⟨rfl, rfl⟩ := eq_reread_of_valueAt fuel (stops_itemsBehind rest vs) hvalue
      -- a bracket or a comma stands behind the item
      cases vs with
      | nil => exact eq_of_read h
      | cons v' vs =>
        obtain ⟨ws, hitems, rfl⟩ := exists_of_map (f := fun ws => v.reread :: ws) h
        rw [itemChars_cons_append] at hitems
        obtain ⟨rfl, rfl⟩ := eq_reread_of_itemsAt fuel hitems
        exact ⟨rfl, rfl⟩

/-- What is read of fields, up to the closing brace, with the names that stand there. -/
theorem eq_reread_of_bodyAt : ∀ (fuel : Nat) {depth : Nat} {fs es : List (String × Value)}
    {rest rest' : List Char}, bodyAt fuel depth (fieldChars fs ++ '}' :: rest) = some (es, rest') →
      es = rereadFields fs ∧ rest' = rest
  | fuel + 1, depth, fs, es, rest, rest', h => by
    cases fs with
    | nil => exact eq_of_read h
    | cons f fs =>
      rw [fieldChars_cons_append] at h
      exact eq_reread_of_entriesAt fuel h

theorem eq_reread_of_entriesAt : ∀ (fuel : Nat) {depth : Nat} {name : String} {v : Value}
    {fs es : List (String × Value)} {rest rest' : List Char},
    entriesAt fuel depth (quoted name ++ ':' :: (v.chars ++ fieldsBehind rest fs)) = some (es, rest') →
      es = rereadFields ((name, v) :: fs) ∧ rest' = rest
  | fuel + 1, depth, name, v, fs, es, rest, rest', h => by
    rw [entriesAt_field] at h
    split at h
    · cases h
    · next w left hvalue =>
      obtain ⟨rfl, rfl⟩ := eq_reread_of_valueAt fuel (stops_fieldsBehind rest fs) hvalue
      -- a brace or a comma stands behind the field
      cases fs with
      | nil => exact eq_of_read h
      | cons f fs =>
        obtain ⟨es, hentries, rfl⟩ := exists_of_map (f := fun es => (name, v.reread) :: es) h
        rw [fieldChars_cons_append] at hentries
        obtain ⟨rfl, rfl⟩ := eq_reread_of_entriesAt fuel hentries
        exact ⟨rfl, rfl⟩

end

/-! ## §5 — what comes back as it is -/

theorem names_rereadFields (fs : List (String × Value)) :
    Fields.names (rereadFields fs) = Fields.names fs := by
  induction fs with
  | nil => rfl
  | cons f fs ih => rw [rereadFields, Fields.names_cons, Fields.names_cons, ih]

mutual

/-- The numbers are read as themselves, and the names of every object stand once. -/
def Settled : Value → Prop
  | null | bool _ | string _ => True
  | number a => a.reread = a
  | array vs => ItemsSettled vs
  | object fs => (Fields.names fs).Nodup ∧ FieldsSettled fs

def ItemsSettled : List Value → Prop
  | [] => True
  | v :: vs => v.Settled ∧ ItemsSettled vs

def FieldsSettled : List (String × Value) → Prop
  | [] => True
  | (_, v) :: fs => v.Settled ∧ FieldsSettled fs

end

mutual

/-- **A settled value comes back as it is.** -/
theorem Settled.reread_eq : ∀ {v : Value}, v.Settled → v.reread = v
  | null, _ | bool _, _ | string _, _ => rfl
  | number a, h => congrArg number h
  | array vs, h => congrArg array (rereadItems_eq h)
  | object fs, h => by
    rw [reread, rereadFields_eq h.2, Fields.ofEntries_of_nodup h.1]

theorem rereadItems_eq : ∀ {vs : List Value}, ItemsSettled vs → rereadItems vs = vs
  | [], _ => rfl
  | v :: vs, h => by rw [rereadItems, h.1.reread_eq, rereadItems_eq h.2]

theorem rereadFields_eq : ∀ {fs : List (String × Value)}, FieldsSettled fs → rereadFields fs = fs
  | [], _ => rfl
  | (name, v) :: fs, h => by rw [rereadFields, h.1.reread_eq, rereadFields_eq h.2]

end

end Value

end DocStore
