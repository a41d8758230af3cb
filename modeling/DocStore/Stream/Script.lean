import DocStore.Stream.Basic

/-!
# DocStore — scripted batches

A script is a source whose fetches are known in advance: each entry is a batch or a failure, and
each fetch takes one. It ends where its entries end, and goes on behind a failure.
-/

namespace DocStore

/-- What fetches will yield, one after the other. -/
structure Script (α : Type) where
  entries : List (Except ClientError (List α))

namespace Script

/-- How many items an entry holds. -/
def itemCount : Except ClientError (List α) → Nat
  | .ok batch => batch.length
  | .error _ => 0

/-- Take the next entry. -/
def nextBatch (s : Script α) : Except ClientError (List α) × Script α :=
  match s.entries with
  | [] => (.error .cursorExhausted, s)
  | entry :: rest => (entry, ⟨rest⟩)

instance : BatchSource (Script α) Unit α where
  hasNext s := !s.entries.isEmpty
  nextBatch s w :=
    match s.nextBatch with
    | (batch, s) => (batch, s, w)
  bound s _ := s.entries.length + (s.entries.map itemCount).foldr (· + ·) 0 + 1

end Script

end DocStore
