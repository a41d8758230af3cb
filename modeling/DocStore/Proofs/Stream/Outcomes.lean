import DocStore.Stream.Script

/-!
# DocStore — a stream over a script is a list

What a stream over a script hands out is settled by the script: the items of the batches before the
first failing entry, and then the failure of that entry (`Script.outcomes`). However the stream is
pulled, each pull is answered from that list, at the place that the pulls before it have come to.

* **`ItemStream.left`** — what a stream has not handed out yet. Finding out what comes next keeps it
  (`ItemStream.settle_left`), and a pull answers its head and takes it or leaves it (`ItemStream.ask_left`).
* **`stream_refines_list`** — the main statement, for every pull after any pulls.
-/

namespace DocStore

/-- The ways to pull a stream. -/
inductive Pull where
  | hasNext
  | tryNext
  | nextItem
  | next

namespace Pull

/-- What a pull gives. -/
def Answer (α : Type) : Pull → Type
  | hasNext => Bool
  | tryNext => Except ClientError (Option α)
  | nextItem => Except ClientError α
  | next => Option (Except ClientError α)

/-- How a pull is answered by what comes next, which at the end is nothing. -/
def answer {α : Type} : (p : Pull) → Option (Except ClientError α) → p.Answer α
  | hasNext, outcome => outcome.isSome
  | tryNext, none => .ok none
  | tryNext, some (.ok a) => .ok (some a)
  | tryNext, some (.error e) => .error e
  | nextItem, none => .error .cursorExhausted
  | nextItem, some outcome => outcome
  | next, outcome => outcome

/-- Whether a pull takes what comes next. -/
def takes : Pull → Bool
  | hasNext => false
  | tryNext | nextItem | next => true

end Pull

namespace ItemStream

variable {σ ω α : Type} [BatchSource σ ω α]

def ask : (p : Pull) → ItemStream σ α → ω → p.Answer α × ItemStream σ α × ω
  | .hasNext => hasNext
  | .tryNext => tryNext
  | .nextItem => nextItem
  | .next => next?

/-- A stream after pulls, one after the other. -/
def after (s : ItemStream σ α) (w : ω) (pulls : List Pull) : ItemStream σ α × ω :=
  pulls.foldl (fun (s, w) p => (s.ask p w).2) (s, w)

end ItemStream

namespace Script

variable {α : Type}

/-- The items of the batches before the first failing entry. -/
def itemsOf : List (Except ClientError (List α)) → List α
  | [] | .error _ :: _ => []
  | .ok batch :: entries => batch ++ itemsOf entries

/-- The failure of the first failing entry. -/
def failureOf : List (Except ClientError (List α)) → Option ClientError
  | [] => none
  | .error e :: _ => some e
  | .ok _ :: entries => failureOf entries

/-- What a stream over a script hands out. -/
def outcomes (s : Script α) : List (Except ClientError α) :=
  (itemsOf s.entries).map .ok ++ (failureOf s.entries).toList.map .error

theorem outcomes_ok (batch : List α) (entries : List (Except ClientError (List α))) :
    outcomes ⟨.ok batch :: entries⟩ = batch.map .ok ++ outcomes ⟨entries⟩ := by
  simp [outcomes, itemsOf, failureOf]

end Script

namespace ItemStream

variable {α : Type}

/-- What a stream over a script has not handed out yet. -/
def left (s : ItemStream (Script α) α) : List (Except ClientError α) :=
  match s.held with
  | .unknown => s.source.outcomes
  | .items first rest => .ok first :: (rest.map .ok ++ s.source.outcomes)
  | .failed e => [.error e]
  | .ended => []

theorem left_ofBatch (script : Script α) (batch : List α) :
    left ⟨script, .ofBatch batch⟩ = batch.map .ok ++ script.outcomes := by
  cases batch <;> rfl

/-- **A search for what comes next** hands nothing out, and it is known then. Induction on the
entries, of which the search passes over those that are empty batches. -/
theorem fetch_left (entries : List (Except ClientError (List α))) (fuel : Nat)
    (hfuel : entries.length < fuel) :
    (fetch fuel (⟨entries⟩ : Script α) ()).1.left = Script.outcomes ⟨entries⟩ ∧
      (fetch fuel (⟨entries⟩ : Script α) ()).1.held ≠ .unknown := by
  induction entries generalizing fuel with
  | nil =>
    obtain ⟨fuel, rfl⟩ : ∃ m, fuel = m + 1 := ⟨fuel - 1, by omega⟩
    exact ⟨rfl, by simp [fetch, BatchSource.hasNext]⟩
  | cons entry entries ih =>
    obtain ⟨fuel, rfl⟩ : ∃ m, fuel = m + 1 := ⟨fuel - 1, by omega⟩
    match entry with
    | .ok [] =>
      -- an empty batch is passed over, with one unit of fuel for it
      rw [Script.outcomes_ok, List.map_nil, List.nil_append]
      exact ih fuel (by simpa using hfuel)
    | .ok (first :: rest) =>
      rw [Script.outcomes_ok]
      exact ⟨rfl, nofun⟩
    | .error e => exact ⟨rfl, nofun⟩

theorem settle_left (s : ItemStream (Script α) α) :
    (s.settle ()).1.left = s.left ∧ (s.settle ()).1.held ≠ .unknown := by
  unfold settle
  cases hheld : s.held with
  | unknown =>
    -- the bound of a script is more than its entries, so the search does not run dry
    have hfuel : s.source.entries.length < BatchSource.bound s.source () := by
      show _ < s.source.entries.length + _ + 1
      omega
    have hleft : s.left = s.source.outcomes := by
      unfold left
      rw [hheld]
    rw [hleft]
    exact fetch_left s.source.entries _ hfuel
  | items first rest => exact ⟨rfl, by simp [hheld]⟩
  | failed e => exact ⟨rfl, by simp [hheld]⟩
  | ended => exact ⟨rfl, by simp [hheld]⟩

theorem tryNext_left (s : ItemStream (Script α) α) :
    (s.tryNext ()).1 = Pull.tryNext.answer s.left.head? ∧
      (s.tryNext ()).2.1.left = s.left.tail := by
  obtain ⟨hleft, hknown⟩ := s.settle_left
  unfold tryNext
  rcases hrun : s.settle () with ⟨⟨source, held⟩, w⟩
  rw [hrun] at hleft hknown
  rw [← hleft]
  cases held with
  | unknown => exact absurd rfl hknown
  | items first rest => exact ⟨rfl, left_ofBatch source rest⟩
  | failed e => exact ⟨rfl, rfl⟩
  | ended => exact ⟨rfl, rfl⟩

theorem hasNext_left (s : ItemStream (Script α) α) :
    (s.hasNext ()).1 = Pull.hasNext.answer s.left.head? ∧ (s.hasNext ()).2.1.left = s.left := by
  obtain ⟨hleft, hknown⟩ := s.settle_left
  unfold hasNext
  rcases hrun : s.settle () with ⟨⟨source, held⟩, w⟩
  rw [hrun] at hleft hknown
  rw [← hleft]
  cases held with
  | unknown => exact absurd rfl hknown
  | items first rest => exact ⟨rfl, rfl⟩
  | failed e => exact ⟨rfl, rfl⟩
  | ended => exact ⟨rfl, rfl⟩

/-- **One pull** is answered by the first of what is left, and takes it unless it only looks. -/
theorem ask_left (s : ItemStream (Script α) α) (p : Pull) :
    (s.ask p ()).1 = p.answer s.left.head? ∧
      (s.ask p ()).2.1.left = s.left.drop (if p.takes then 1 else 0) := by
  have htry := s.tryNext_left
  rw [← List.drop_one] at htry
  rcases hrun : s.tryNext () with ⟨answer, s', w⟩
  rw [hrun] at htry
  obtain ⟨rfl, hrest⟩ := htry
  -- the other pulls that take something ask `tryNext`, and tell its answer in their own way
  cases p with
  | hasNext => exact s.hasNext_left
  | tryNext =>
    rw [ask, hrun]
    exact ⟨rfl, hrest⟩
  | nextItem =>
    simp only [ask, nextItem, hrun]
    cases hhead : s.left.head? with
    | none => exact ⟨rfl, hrest⟩
    | some outcome => cases outcome <;> exact ⟨rfl, hrest⟩
  | next =>
    simp only [ask, next?, hrun]
    cases hhead : s.left.head? with
    | none => exact ⟨rfl, hrest⟩
    | some outcome => cases outcome <;> exact ⟨rfl, hrest⟩

/-- **Pulls take from the front**, one outcome each, but for those that only look. Induction on the
pulls. -/
theorem after_left (s : ItemStream (Script α) α) (pulls : List Pull) :
    (s.after () pulls).1.left = s.left.drop (pulls.countP Pull.takes) := by
  induction pulls generalizing s with
  | nil => rfl
  | cons p pulls ih =>
    have hnext := ih (s.ask p ()).2.1
    rw [(s.ask_left p).2, List.drop_drop] at hnext
    rw [List.countP_cons, Nat.add_comm]
    exact hnext

end ItemStream

/-- **A stream over a script is a list.** Whatever pulls went before, a pull is answered from the
script's outcomes, the items of the batches before the first failing entry and then its failure, at the
place that the number of earlier pulls that take something says. Behind the last outcome it is answered
by the end. -/
theorem stream_refines_list {α : Type} (script : Script α) (pulls : List Pull) (p : Pull) :
    (((⟨script, .unknown⟩ : ItemStream (Script α) α).after () pulls).1.ask p ()).1 =
      p.answer (((Script.itemsOf script.entries).map .ok ++
        (Script.failureOf script.entries).toList.map .error)[pulls.countP Pull.takes]?) := by
  rw [(ItemStream.ask_left _ p).1, ItemStream.after_left, List.head?_drop]
  rfl

end DocStore
