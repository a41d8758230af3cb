import DocStore.Client.Error

/-!
# DocStore — streams of items

A source hands out its items in batches, some of which may be empty, and one fetch may fail. A
stream hands out the items of a source one at a time: it fetches a batch only when it holds none,
passes over empty batches, and tells exactly whether there is another item (`ItemStream.hasNext`). A
failed fetch is told once and ends the stream.
-/

namespace DocStore

/-- A source of batches of `α`. Fetching may change a world `ω` around the source. -/
class BatchSource (σ : Type) (ω : outParam Type) (α : outParam Type) where
  /-- Whether a fetch may yield something. Asking fetches nothing. -/
  hasNext : σ → Bool
  /-- Fetch the next batch. -/
  nextBatch : σ → ω → Except ClientError (List α) × σ × ω
  /-- More than the fetches and more than the items that the source has left. -/
  bound : σ → ω → Nat

/-- What a stream holds of its source's items. -/
inductive Held (α : Type) where
  /-- Nothing, and it is not known whether there is more. -/
  | unknown
  | items (first : α) (rest : List α)
  /-- A failed fetch that is not told yet. -/
  | failed (e : ClientError)
  | ended

/-- What is held of a batch. -/
def Held.ofBatch : List α → Held α
  | [] => .unknown
  | first :: rest => .items first rest

/-- How many items are held. -/
def Held.size : Held α → Nat
  | .items _ rest => rest.length + 1
  | _ => 0

/-- A stream of the items of a source. -/
structure ItemStream (σ α : Type) where
  source : σ
  held : Held α := .unknown

namespace ItemStream

variable {σ ω α : Type} [BatchSource σ ω α]

/-- Fetch until there is an item, a failure or an end, at most as often as the fuel says. -/
def fetch : Nat → σ → ω → ItemStream σ α × ω
  | 0, source, w => (⟨source, .unknown⟩, w)
  | fuel + 1, source, w =>
    if BatchSource.hasNext source then
      match BatchSource.nextBatch source w with
      | (.ok [], source, w) => fetch fuel source w
      | (.ok (first :: rest), source, w) => (⟨source, .items first rest⟩, w)
      | (.error e, source, w) => (⟨source, .failed e⟩, w)
    else (⟨source, .ended⟩, w)

/-- Find out what comes next, if it is not known. -/
def settle (s : ItemStream σ α) (w : ω) : ItemStream σ α × ω :=
  match s.held with
  | .unknown => fetch (BatchSource.bound s.source w) s.source w
  | _ => (s, w)

/-- Whether the next item is there, or a failure to be told. -/
def hasNext (s : ItemStream σ α) (w : ω) : Bool × ItemStream σ α × ω :=
  match s.settle w with
  | (s, w) =>
    match s.held with
    | .items _ _ | .failed _ => (true, s, w)
    | .unknown | .ended => (false, s, w)

/-- The next item, or none at the end. -/
def tryNext (s : ItemStream σ α) (w : ω) : Except ClientError (Option α) × ItemStream σ α × ω :=
  match s.settle w with
  | (s, w) =>
    match s.held with
    | .items first rest => (.ok (some first), ⟨s.source, .ofBatch rest⟩, w)
    | .failed e => (.error e, ⟨s.source, .ended⟩, w)
    | .unknown | .ended => (.ok none, ⟨s.source, .ended⟩, w)

/-- The next item, which has to be there. -/
def nextItem (s : ItemStream σ α) (w : ω) : Except ClientError α × ItemStream σ α × ω :=
  match s.tryNext w with
  | (.ok (some a), rest) => (.ok a, rest)
  | (.ok none, rest) => (.error .cursorExhausted, rest)
  | (.error e, rest) => (.error e, rest)

/-- The next item or failure, or none at the end. -/
def next? (s : ItemStream σ α) (w : ω) : Option (Except ClientError α) × ItemStream σ α × ω :=
  match s.tryNext w with
  | (.ok (some a), rest) => (some (.ok a), rest)
  | (.ok none, rest) => (none, rest)
  | (.error e, rest) => (some (.error e), rest)

/-- Take items up to the end or to a failure, at most as many as the fuel says. -/
def takeAll : Nat → ItemStream σ α → ω → Except ClientError (List α) × ItemStream σ α × ω
  | 0, s, w => (.ok [], s, w)
  | fuel + 1, s, w =>
    match s.tryNext w with
    | (.error e, s, w) => (.error e, s, w)
    | (.ok none, s, w) => (.ok [], s, w)
    | (.ok (some a), s, w) =>
      match takeAll fuel s w with
      | (.ok as, s, w) => (.ok (a :: as), s, w)
      | (.error e, s, w) => (.error e, s, w)

/-- All items that are left, unless a fetch fails. -/
def collect (s : ItemStream σ α) (w : ω) : Except ClientError (List α) × ItemStream σ α × ω :=
  takeAll (s.held.size + BatchSource.bound s.source w + 1) s w

end ItemStream

end DocStore
