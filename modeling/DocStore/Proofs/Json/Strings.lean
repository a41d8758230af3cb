import DocStore.Json.Printer
import DocStore.Json.Reader

/-!
# DocStore — strings are read back from their texts

Inside quotes a character stands for itself or is escaped, and the reader tells the two apart by the
backslash. So it gets back what was quoted, up to the quote that ends it and no further.

* **`Json.stringTail_escape`** — the step: one character is read.
* **`Json.stringAt_quoted`** — the run: so is the string, by induction on its characters.
* **`Json.quoted_append_inj`** — no two strings have one text.
-/

namespace DocStore

namespace Json

/-! ## §1 — one character -/

theorem hexValue?_hexDigit : ∀ n < 16, hexValue? (hexDigit n) = some n := by decide

/-- A control character is read back from its code. -/
theorem unicodeEscape_hexDigits {c : Char} (h : c.toNat < 32) (rest : List Char) :
    unicodeEscape ('0' :: '0' :: hexDigit (c.toNat / 16) :: hexDigit (c.toNat % 16) :: rest) =
      some (c, rest) := by
  have hzero : hexValue? '0' = some 0 := rfl
  have hhigh := hexValue?_hexDigit (c.toNat / 16) (by omega)
  have hlow := hexValue?_hexDigit (c.toNat % 16) (Nat.mod_lt _ (by decide))
  have hcode : ((0 * 16 + 0) * 16 + c.toNat / 16) * 16 + c.toNat % 16 = c.toNat := by omega
  have hchar : Char.ofNat c.toNat = c := Char.ofNat_toNat c
  simp only [unicodeEscape, hexQuad, hzero, hhigh, hlow, hcode, hchar, Option.bind_eq_bind,
    Option.bind_some]
  rw [if_neg (by omega), if_neg (by omega)]

/-- **A character is escaped or stands for itself.** An escape is read as the character, and one that
stands for itself is none of those that mean something inside quotes. -/
theorem escape_cases (c : Char) :
    (∃ tail, escape c = '\\' :: tail ∧ ∀ rest, escaped (tail ++ rest) = some (c, rest)) ∨
      (escape c = [c] ∧ c ≠ '"' ∧ c ≠ '\\' ∧ ¬ c.toNat < 32) := by
  unfold escape
  -- seven characters have a letter of their own, and the other control characters are written by their codes
  split
  · next h => subst h; exact .inl ⟨['"'], rfl, fun _ => rfl⟩
  split
  · next h => subst h; exact .inl ⟨['\\'], rfl, fun _ => rfl⟩
  split
  · next h => subst h; exact .inl ⟨['b'], rfl, fun _ => rfl⟩
  split
  · next h => subst h; exact .inl ⟨['f'], rfl, fun _ => rfl⟩
  split
  · next h => subst h; exact .inl ⟨['n'], rfl, fun _ => rfl⟩
  split
  · next h => subst h; exact .inl ⟨['r'], rfl, fun _ => rfl⟩
  split
  · next h => subst h; exact .inl ⟨['t'], rfl, fun _ => rfl⟩
  split
  · next h => exact .inl ⟨_, rfl, unicodeEscape_hexDigits h⟩
  · next hquote hslash _ _ _ _ _ hcontrol => exact .inr ⟨rfl, hquote, hslash, hcontrol⟩

theorem length_escape_pos (c : Char) : 1 ≤ (escape c).length := by
  rcases escape_cases c with ⟨tail, h, -⟩ | ⟨h, -⟩
  · rw [h, List.length_cons]
    omega
  · rw [h]
    exact Nat.le_refl _

/-- **One character is read**, and the string goes on behind it. -/
theorem stringTail_escape (fuel : Nat) (read : List Char) (c : Char) (rest : List Char) :
    stringTail (fuel + 1) read (escape c ++ rest) = stringTail fuel (c :: read) rest := by
  rcases escape_cases c with ⟨tail, hescape, hread⟩ | ⟨hescape, hquote, hslash, hcontrol⟩
  · rw [hescape]
    show stringTail (fuel + 1) read ('\\' :: (tail ++ rest)) = _
    rw [stringTail, hread]
  · rw [hescape]
    show stringTail (fuel + 1) read (c :: rest) = _
    rw [stringTail]
    · exact if_neg hcontrol
    · exact hquote
    · exact hslash

/-! ## §2 — strings -/

theorem length_le_flatMap_escape (cs : List Char) : cs.length ≤ (cs.flatMap escape).length := by
  induction cs with
  | nil => exact Nat.le_refl _
  | cons c cs ih =>
    have := length_escape_pos c
    rw [List.flatMap_cons, List.length_append, List.length_cons]
    omega

/-- A string is written with a character at least for each of its own. -/
theorem length_le_quoted (s : String) : s.length ≤ (quoted s).length := by
  have := length_le_flatMap_escape s.toList
  unfold quoted
  rw [List.length_cons, List.length_append, ← String.length_toList]
  omega

/-- The characters up to the closing quote are read. Induction on them. -/
theorem stringTail_flatMap {cs : List Char} {fuel : Nat} (hfuel : cs.length < fuel)
    (read rest : List Char) :
    stringTail fuel read (cs.flatMap escape ++ '"' :: rest) =
      some (String.ofList (read.reverse ++ cs), rest) := by
  induction cs generalizing fuel read with
  | nil =>
    obtain ⟨fuel, rfl⟩ := Nat.exists_eq_add_one_of_ne_zero (Nat.ne_of_gt hfuel)
    rw [List.append_nil]
    rfl
  | cons c cs ih =>
    rw [List.length_cons] at hfuel
    obtain ⟨fuel, rfl⟩ := Nat.exists_eq_add_one_of_ne_zero (show fuel ≠ 0 by omega)
    rw [List.flatMap_cons, List.append_assoc, stringTail_escape, ih (by omega), List.reverse_cons,
      List.append_assoc]
    rfl

/-- **A string is read back from its text**, whatever follows. -/
theorem stringAt_quoted (s : String) (rest : List Char) :
    stringAt (quoted s ++ rest) = some (s, rest) := by
  have hlength := length_le_flatMap_escape s.toList
  have hfuel : s.toList.length < (s.toList.flatMap escape ++ '"' :: rest).length + 1 := by
    rw [List.length_append]
    omega
  have hbody : quoted s ++ rest = '"' :: (s.toList.flatMap escape ++ '"' :: rest) := by
    rw [quoted, List.cons_append, List.append_assoc]
    rfl
  rw [hbody, stringAt, stringTail_flatMap hfuel, List.reverse_nil, List.nil_append,
    String.ofList_toList]

/-- **No two strings have one text**, and the text says where the string ends. -/
theorem quoted_append_inj {s t : String} {rest rest' : List Char}
    (h : quoted s ++ rest = quoted t ++ rest') : s = t ∧ rest = rest' := by
  have hread := stringAt_quoted s rest
  rw [h, stringAt_quoted] at hread
  obtain ⟨hstring, hrest⟩ := Prod.mk.inj (Option.some.inj hread)
  exact ⟨hstring.symm, hrest.symm⟩

end Json

end DocStore
