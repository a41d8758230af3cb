import DocStore.Stream.Basic

/-!
# DocStore — what every fetch keeps

A stream touches its source and the world around it by fetching batches only. Whatever holds of the
two and is kept by every fetch is therefore kept by everything that can be done with a stream.

* **`ItemStream.Kept.fetch`** — the step: fetching until there is something, by induction on the fuel.
* **`ItemStream.Kept.tryNext`**, **`Kept.collect`** and so on — one statement for each way to use a
  stream.
* **`ItemStream.Kept.tells_tryNext`** and so on — a stream reports what its fetches fail with, and nothing
  else.
-/

namespace DocStore

namespace ItemStream

variable {σ ω α : Type} [BatchSource σ ω α] {P : σ → ω → Prop}

/-! ## §1 — the source and the world -/

/-- A fetch keeps `P`, whether it yields a batch or fails. -/
def Kept (P : σ → ω → Prop) : Prop :=
  ∀ source w, P source w →
    P (BatchSource.nextBatch source w).2.1 (BatchSource.nextBatch source w).2.2

theorem Kept.fetch (hkept : Kept P) (fuel : Nat) {source : σ} {w : ω} (h : P source w) :
    P (ItemStream.fetch fuel source w).1.source (ItemStream.fetch fuel source w).2 := by
  induction fuel generalizing source w with
  | zero => exact h
  | succ fuel ih =>
    unfold ItemStream.fetch
    split
    · have hnext := hkept source w h
      rcases hrun : BatchSource.nextBatch source w with ⟨answer, source', w'⟩
      rw [hrun] at hnext
      match answer with
      | .ok [] => exact ih hnext
      | .ok (_ :: _) => exact hnext
      | .error _ => exact hnext
    · exact h

variable {s : ItemStream σ α} {w : ω}

theorem Kept.settle (hkept : Kept P) (h : P s.source w) :
    P (s.settle w).1.source (s.settle w).2 := by
  unfold ItemStream.settle
  split
  · exact hkept.fetch _ h
  · exact h

theorem Kept.hasNext (hkept : Kept P) (h : P s.source w) :
    P (s.hasNext w).2.1.source (s.hasNext w).2.2 := by
  have hsettle := hkept.settle h
  unfold ItemStream.hasNext
  rcases hrun : s.settle w with ⟨⟨source, held⟩, w'⟩
  rw [hrun] at hsettle
  cases held <;> exact hsettle

theorem Kept.tryNext (hkept : Kept P) (h : P s.source w) :
    P (s.tryNext w).2.1.source (s.tryNext w).2.2 := by
  have hsettle := hkept.settle h
  unfold ItemStream.tryNext
  rcases hrun : s.settle w with ⟨⟨source, held⟩, w'⟩
  rw [hrun] at hsettle
  cases held <;> exact hsettle

theorem Kept.nextItem (hkept : Kept P) (h : P s.source w) :
    P (s.nextItem w).2.1.source (s.nextItem w).2.2 := by
  have htry := hkept.tryNext h
  unfold ItemStream.nextItem
  rcases hrun : s.tryNext w with ⟨answer, rest⟩
  rw [hrun] at htry
  match answer with
  | .ok (some _) => exact htry
  | .ok none => exact htry
  | .error _ => exact htry

theorem Kept.next? (hkept : Kept P) (h : P s.source w) :
    P (s.next? w).2.1.source (s.next? w).2.2 := by
  have htry := hkept.tryNext h
  unfold ItemStream.next?
  rcases hrun : s.tryNext w with ⟨answer, rest⟩
  rw [hrun] at htry
  match answer with
  | .ok (some _) => exact htry
  | .ok none => exact htry
  | .error _ => exact htry

theorem Kept.takeAll (hkept : Kept P) (fuel : Nat) {s : ItemStream σ α} {w : ω}
    (h : P s.source w) :
    P (ItemStream.takeAll fuel s w).2.1.source (ItemStream.takeAll fuel s w).2.2 := by
  induction fuel generalizing s w with
  | zero => exact h
  | succ fuel ih =>
    have htry := hkept.tryNext h
    unfold ItemStream.takeAll
    rcases hrun : s.tryNext w with ⟨answer, s', w'⟩
    rw [hrun] at htry
    match answer with
    | .error _ => exact htry
    | .ok none => exact htry
    | .ok (some a) =>
      have hrest := ih htry
      simp only
      rcases hall : ItemStream.takeAll fuel s' w' with ⟨answer', s'', w''⟩
      rw [hall] at hrest
      cases answer' <;> exact hrest

theorem Kept.collect (hkept : Kept P) (h : P s.source w) :
    P (s.collect w).2.1.source (s.collect w).2.2 :=
  hkept.takeAll _ h

/-! ## §2 — the failures that are reported -/

variable {Q : ClientError → Prop}

/-- Fetches from where `P` holds fail with errors of a kind, if at all. -/
def FailsWith (P : σ → ω → Prop) (Q : ClientError → Prop) : Prop :=
  ∀ source w, P source w → ∀ e, (BatchSource.nextBatch source w).1 = .error e → Q e

/-- A failed fetch that a stream has not reported yet failed with an error of a kind. -/
def Tells (Q : ClientError → Prop) (s : ItemStream σ α) : Prop := ∀ e, s.held = .failed e → Q e

theorem tells_ofBatch (source : σ) (batch : List α) : Tells Q ⟨source, .ofBatch batch⟩ := by
  intro e he
  cases batch <;> cases he

theorem Kept.tells_fetch (hkept : Kept P) (hfails : FailsWith P Q) (fuel : Nat) {source : σ} {w : ω}
    (h : P source w) : (ItemStream.fetch fuel source w).1.Tells Q := by
  induction fuel generalizing source w with
  | zero => exact nofun
  | succ fuel ih =>
    unfold ItemStream.fetch
    split
    · have hnext := hkept source w h
      have hfail := hfails source w h
      rcases hrun : BatchSource.nextBatch source w with ⟨answer, source', w'⟩
      rw [hrun] at hnext hfail
      match answer with
      | .ok [] => exact ih hnext
      | .ok (first :: rest) => exact tells_ofBatch source' (first :: rest)
      | .error e =>
        intro e' he
        obtain rfl : e = e' := Held.failed.inj he
        exact hfail e rfl
    · exact nofun

theorem Kept.tells_settle (hkept : Kept P) (hfails : FailsWith P Q) (h : P s.source w)
    (htells : s.Tells Q) : (s.settle w).1.Tells Q := by
  unfold ItemStream.settle
  split
  · exact hkept.tells_fetch hfails _ h
  · exact htells

theorem Kept.tells_hasNext (hkept : Kept P) (hfails : FailsWith P Q) (h : P s.source w)
    (htells : s.Tells Q) : (s.hasNext w).2.1.Tells Q := by
  have hsettle := hkept.tells_settle hfails h htells
  unfold ItemStream.hasNext
  rcases hrun : s.settle w with ⟨⟨source, held⟩, w'⟩
  rw [hrun] at hsettle
  cases held <;> exact hsettle

/-- **A pull** reports the failure that is held, or the one of a fetch. -/
theorem Kept.tells_tryNext (hkept : Kept P) (hfails : FailsWith P Q) (h : P s.source w)
    (htells : s.Tells Q) :
    (∀ e, (s.tryNext w).1 = .error e → Q e) ∧ (s.tryNext w).2.1.Tells Q := by
  have hsettle := hkept.tells_settle hfails h htells
  unfold ItemStream.tryNext
  rcases hrun : s.settle w with ⟨⟨source, held⟩, w'⟩
  rw [hrun] at hsettle
  cases held with
  | unknown => exact ⟨nofun, nofun⟩
  | items first rest => exact ⟨nofun, tells_ofBatch source rest⟩
  | failed e =>
    refine ⟨fun e' he => ?_, nofun⟩
    obtain rfl : e = e' := Except.error.inj he
    exact hsettle e rfl
  | ended => exact ⟨nofun, nofun⟩

theorem Kept.tells_nextItem (hkept : Kept P) (hfails : FailsWith P Q) (hend : Q .cursorExhausted)
    (h : P s.source w) (htells : s.Tells Q) :
    (∀ e, (s.nextItem w).1 = .error e → Q e) ∧ (s.nextItem w).2.1.Tells Q := by
  have htry := hkept.tells_tryNext hfails h htells
  unfold ItemStream.nextItem
  rcases hrun : s.tryNext w with ⟨answer, rest⟩
  rw [hrun] at htry
  match answer with
  | .ok (some _) => exact ⟨nofun, htry.2⟩
  | .ok none =>
    refine ⟨fun e he => ?_, htry.2⟩
    obtain rfl : .cursorExhausted = e := Except.error.inj he
    exact hend
  | .error e =>
    refine ⟨fun e' he => htry.1 e' ?_, htry.2⟩
    obtain rfl : e = e' := Except.error.inj he
    rfl

theorem Kept.tells_next? (hkept : Kept P) (hfails : FailsWith P Q) (h : P s.source w)
    (htells : s.Tells Q) :
    (∀ e, (s.next? w).1 = some (.error e) → Q e) ∧ (s.next? w).2.1.Tells Q := by
  have htry := hkept.tells_tryNext hfails h htells
  unfold ItemStream.next?
  rcases hrun : s.tryNext w with ⟨answer, rest⟩
  rw [hrun] at htry
  match answer with
  | .ok (some _) => exact ⟨nofun, htry.2⟩
  | .ok none => exact ⟨nofun, htry.2⟩
  | .error e =>
    refine ⟨fun e' he => htry.1 e' ?_, htry.2⟩
    obtain rfl : e = e' := Except.error.inj (Option.some.inj he)
    rfl

theorem Kept.tells_takeAll (hkept : Kept P) (hfails : FailsWith P Q) (fuel : Nat)
    {s : ItemStream σ α} {w : ω} (h : P s.source w) (htells : s.Tells Q) :
    (∀ e, (ItemStream.takeAll fuel s w).1 = .error e → Q e) ∧
      (ItemStream.takeAll fuel s w).2.1.Tells Q := by
  induction fuel generalizing s w with
  | zero => exact ⟨nofun, htells⟩
  | succ fuel ih =>
    have hnext := hkept.tryNext h
    have htry := hkept.tells_tryNext hfails h htells
    unfold ItemStream.takeAll
    rcases hrun : s.tryNext w with ⟨answer, s', w'⟩
    rw [hrun] at hnext htry
    match answer with
    | .error e =>
      refine ⟨fun e' he => htry.1 e' ?_, htry.2⟩
      obtain rfl : e = e' := Except.error.inj he
      rfl
    | .ok none => exact ⟨nofun, htry.2⟩
    | .ok (some a) =>
      have hrest := ih hnext htry.2
      simp only
      rcases hall : ItemStream.takeAll fuel s' w' with ⟨answer', s'', w''⟩
      rw [hall] at hrest
      cases answer' with
      | ok as => exact ⟨nofun, hrest.2⟩
      | error e => exact hrest

theorem Kept.tells_collect (hkept : Kept P) (hfails : FailsWith P Q) (h : P s.source w)
    (htells : s.Tells Q) :
    (∀ e, (s.collect w).1 = .error e → Q e) ∧ (s.collect w).2.1.Tells Q :=
  hkept.tells_takeAll hfails _ h htells

end ItemStream

end DocStore
