import DocStore.Json.Printer
import DocStore.Json.Reader
import Mathlib.Data.List.Basic

/-!
# DocStore — decimal digits

A number is written with the digits that the core library gives it, and read as a fold over them. What is
needed of that elsewhere is said here once: the characters are digits, no zero stands in front of others,
and the fold gives the number back, whatever zeros are put before or behind.

* **`Json.head?_digitChars`**, **`Json.isPlain_digitChars`** — no zero in front.
* **`Json.natOfDigits_digitChars`** — a number is read back from its digits.
* **`Json.holdDigits_of_natOfDigits_lt`** — a reader that has 64 bits for it holds no less than the number.
-/

namespace DocStore

namespace Json

open Binary64 (digitChars)

/-! ## §1 — what digits look like -/

/-- Decimal digits, one at least. -/
structure AreDigits (ds : List Char) : Prop where
  nonempty : ds ≠ []
  all : ∀ c ∈ ds, c.isDigit = true

/-- No zero stands in front of another digit. -/
def IsPlain (ds : List Char) : Prop := ds = ['0'] ∨ ds.head? ≠ some '0'

theorem areDigits_digitChars (n : Nat) : AreDigits (digitChars n) where
  nonempty := Nat.toDigits_ne_nil
  all := fun _ hc => Nat.isDigit_of_mem_toDigits (by decide) (by decide) hc

theorem AreDigits.append {ds ds' : List Char} (h : AreDigits ds) (h' : ∀ c ∈ ds', c.isDigit = true) :
    AreDigits (ds ++ ds') where
  nonempty := List.append_ne_nil_of_left_ne_nil h.nonempty _
  all := by
    intro c hc
    rcases List.mem_append.mp hc with hin | hin
    · exact h.all c hin
    · exact h' c hin

theorem isDigit_of_mem_zeros {k : Nat} {c : Char} (h : c ∈ List.replicate k '0') :
    c.isDigit = true := by
  rw [List.eq_of_mem_replicate h]
  rfl

/-- The digits of a number start with a zero only if it is zero. Induction on the number, one digit at a
time from the last. -/
theorem head?_digitChars {n : Nat} (h : n ≠ 0) : (digitChars n).head? ≠ some '0' := by
  induction n using Nat.strongRecOn with
  | _ n ih =>
    unfold digitChars
    by_cases hsmall : n < 10
    · rw [Nat.toDigits_of_lt_base hsmall, List.head?_cons]
      intro hzero
      exact h (Nat.digitChar_eq_zero.mp (Option.some.inj hzero))
    · have hne : Nat.toDigits 10 (n / 10) ≠ [] := Nat.toDigits_ne_nil
      rw [Nat.toDigits_of_base_le (by decide) (by omega), List.head?_append_of_ne_nil _ hne]
      exact ih (n / 10) (by omega) (by omega)

theorem isPlain_digitChars (n : Nat) : IsPlain (digitChars n) := by
  by_cases h : n = 0
  · exact .inl (by rw [h]; rfl)
  · exact .inr (head?_digitChars h)

/-! ## §2 — what digits denote -/

theorem natOfDigits_eq (ds : List Char) : natOfDigits ds = Nat.ofDigitChars 10 ds 0 := by
  have hstep : (fun (n : Nat) (c : Char) => n * 10 + (c.toNat - 48))
      = fun n c => 10 * n + (c.toNat - '0'.toNat) := by
    funext n c
    rw [Nat.mul_comm]
    rfl
  rw [natOfDigits, hstep, ← Nat.ofDigitChars_eq_foldl]

@[simp] theorem natOfDigits_digitChars (n : Nat) : natOfDigits (digitChars n) = n := by
  rw [natOfDigits_eq]
  exact Nat.ofDigitChars_ten_toDigits

theorem natOfDigits_append_zeros (ds : List Char) (k : Nat) :
    natOfDigits (ds ++ List.replicate k '0') = natOfDigits ds * 10 ^ k := by
  rw [natOfDigits_eq, natOfDigits_eq, Nat.ofDigitChars_append, Nat.ofDigitChars_replicate_zero,
    Nat.mul_comm]

theorem natOfDigits_zeros_append (k : Nat) (ds : List Char) :
    natOfDigits (List.replicate k '0' ++ ds) = natOfDigits ds := by
  rw [natOfDigits_eq, natOfDigits_eq, Nat.ofDigitChars_append, Nat.ofDigitChars_replicate_zero,
    Nat.mul_zero]

/-! ## §3 — what is held of digits -/

/-- Further digits make no number smaller. -/
theorem le_ofDigitChars (ds : List Char) (n : Nat) : n ≤ Nat.ofDigitChars 10 ds n := by
  induction ds generalizing n with
  | nil => exact Nat.le_refl n
  | cons c cs ih =>
    rw [Nat.ofDigitChars_cons]
    exact Nat.le_trans (by omega) (ih _)

/-- Induction on the digits, from any number that is held in front of them. -/
theorem holdDigits_of_lt {ds : List Char} {n : Nat} (h : Nat.ofDigitChars 10 ds n < 2 ^ 64) :
    holdDigits n ds = (Nat.ofDigitChars 10 ds n, 0) := by
  induction ds generalizing n with
  | nil => rfl
  | cons c cs ih =>
    rw [Nat.ofDigitChars_cons, Nat.mul_comm] at h ⊢
    have hnext : n * 10 + (c.toNat - 48) < 2 ^ 64 := Nat.lt_of_le_of_lt (le_ofDigitChars cs _) h
    rw [holdDigits]
    exact (if_pos hnext).trans (ih h)

/-- **Digits are held**, every one of them, if 64 bits hold their number. -/
theorem holdDigits_of_natOfDigits_lt {ds : List Char} (h : natOfDigits ds < 2 ^ 64) :
    holdDigits 0 ds = (natOfDigits ds, 0) := by
  rw [natOfDigits_eq] at h ⊢
  exact holdDigits_of_lt h

end Json

end DocStore
