/-!
# DocStore — work that goes through

Readers are put together of smaller ones, and the first fault is the fault of the whole. What is
needed of that is said here once, for readers of any kind.

* **`bind_eq_ok_iff`**, **`map_eq_ok_iff`**, **`mapError_eq_ok_iff`** — what a result of the whole is
  made of.
* **`succeeds_bind_bind`** — two pieces of work that do not need each other go through when both do.
-/

namespace DocStore

variable {ε ε' α β γ : Type}

/-! ## §1 — results -/

theorem bind_eq_ok_iff {x : Except ε α} {f : α → Except ε β} {b : β} :
    x >>= f = .ok b ↔ ∃ a, x = .ok a ∧ f a = .ok b := by
  cases x <;> simp [bind, Except.bind]

/-- A step of a computation that may fail went well, and so did what follows. -/
theorem ok_of_bind {x : Except ε α} {f : α → Except ε β} {b : β} (h : x >>= f = .ok b) :
    ∃ a, x = .ok a ∧ f a = .ok b :=
  bind_eq_ok_iff.mp h

theorem map_eq_ok_iff {x : Except ε α} {f : α → β} {b : β} :
    x.map f = .ok b ↔ ∃ a, x = .ok a ∧ f a = b := by
  cases x <;> simp [Except.map]

theorem mapError_eq_ok_iff {x : Except ε α} {f : ε → ε'} {a : α} :
    x.mapError f = .ok a ↔ x = .ok a := by
  cases x with
  | error e =>
    constructor
    · intro h; cases h
    · intro h; cases h
  | ok a' =>
    constructor
    · intro h; cases h; rfl
    · intro h; cases h; rfl

/-! ## §2 — whether there is a result -/

/-- The work has a result. -/
def Succeeds (x : Except ε α) : Prop := ∃ a, x = .ok a

@[simp] theorem succeeds_ok (a : α) : Succeeds (.ok a : Except ε α) := ⟨a, rfl⟩

@[simp] theorem not_succeeds_error (e : ε) : ¬ Succeeds (.error e : Except ε α) := by
  rintro ⟨a, h⟩
  cases h

@[simp] theorem succeeds_map {x : Except ε α} {f : α → β} : Succeeds (x.map f) ↔ Succeeds x := by
  cases x <;> simp [Except.map]

theorem succeeds_bind {x : Except ε α} {f : α → Except ε β} :
    Succeeds (x >>= f) ↔ ∃ a, x = .ok a ∧ Succeeds (f a) := by
  cases x <;> simp [bind, Except.bind]

/-- Two pieces of work, one after the other, neither of which needs the result of the other. -/
theorem succeeds_bind_bind {x : Except ε α} {y : Except ε β} {f : α → β → γ} :
    Succeeds (x >>= fun a => y >>= fun b => .ok (f a b)) ↔ Succeeds x ∧ Succeeds y := by
  cases x <;> cases y <;> simp [bind, Except.bind]

end DocStore
