import DocStore.Regex.Basic

/-!
# DocStore — matching

What an expression does is move a set of places of a text: from each place where a match may begin
to all places where it may end. For one text the expression becomes a plan of moves
(`Regex.movesOn`), in which the places that a character or a condition lets through are marked, and
the plan is then carried out (`Moves.run`). A text matches when the set of all its places is moved to
one that is not empty. Which of several matches is preferred never shows.

Places are bits of a natural number: bit `i` stands for the place before the `i`-th character.
-/

namespace DocStore

open Unicode

/-! ## Places -/

/-- Whether a condition holds between two neighbours, each absent at its end of the text. -/
def Look.holds (l : Look) (before after : Option Char) : Bool :=
  let isLetter (letters : CharSet) (c : Option Char) : Bool := c.any letters.contains
  match l with
  | textStart => before.isNone
  | textEnd => after.isNone
  | lineStart => before.isNone || before == some '\n'
  | lineEnd => after.isNone || after == some '\n'
  | anyLineStart =>
    before.isNone || before == some '\n' || (before == some '\r' && after != some '\n')
  | anyLineEnd =>
    after.isNone || after == some '\r' || (after == some '\n' && before != some '\r')
  | wordBoundary letters => isLetter letters before != isLetter letters after
  | notWordBoundary letters => isLetter letters before == isLetter letters after
  | wordStart letters => !isLetter letters before && isLetter letters after
  | wordEnd letters => isLetter letters before && !isLetter letters after
  | noWordBefore letters => !isLetter letters before
  | noWordAfter letters => !isLetter letters after

/-- The places of those items of a list that pass. -/
def placesWhere {α : Type} (passes : α → Bool) (items : List α) : Nat :=
  items.foldr (fun a places => 2 * places + if passes a then 1 else 0) 0

/-- The neighbours of each place of a text, in front of it and behind it. -/
def neighbours (text : List Char) : List (Option Char × Option Char) :=
  (none :: text.map some).zip (text.map some ++ [none])

/-- The places of a text at which a condition holds. -/
def lookPlaces (l : Look) (text : List Char) : Nat :=
  placesWhere (fun (before, after) => l.holds before after) (neighbours text)

/-! ## Moves -/

/-- What to do with a set of places. -/
inductive Moves where
  /-- Leave it as it is. -/
  | stay
  /-- Keep the marked places. -/
  | keep (marked : Nat)
  /-- Go from the marked places to the next ones. -/
  | step (marked : Nat)
  | andThen (a b : Moves)
  | orElse (a b : Moves)
  /-- At least `least` times, and up to `more` times more. -/
  | repeated (a : Moves) (least more : Nat)

namespace Moves

/-- `step` applied `n` times. A set that it leaves as it is stays so. -/
def iterate (step : Nat → Nat) : Nat → Nat → Nat
  | 0, places => places
  | n + 1, places =>
    let moved := step places
    if moved = places then places else iterate step n moved

/-- The places reached by at most `n` steps. -/
def reachWithin (step : Nat → Nat) : Nat → Nat → Nat
  | 0, places => places
  | n + 1, places =>
    let more := places ||| step places
    if more = places then places else reachWithin step n more

/-- The places that a set is moved to. -/
def run : Moves → Nat → Nat
  | stay, places => places
  | keep marked, places => places &&& marked
  | step marked, places => 2 * (places &&& marked)
  | andThen a b, places => b.run (a.run places)
  | orElse a b, places => a.run places ||| b.run places
  | repeated a least more, places => reachWithin a.run more (iterate a.run least places)

end Moves

namespace Regex

/-- The moves of an expression on a text. An unbounded repetition has reached all it can after as
many steps as the text has places. -/
def movesOn (text : List Char) : Regex → Moves
  | empty => .stay
  | literal cs => cs.foldr (fun c m => .andThen (.step (placesWhere (· == c) text)) m) .stay
  | char set => .step (placesWhere set.contains text)
  | look l => .keep (lookPlaces l text)
  | group _ a => a.movesOn text
  | seq a b => .andThen (a.movesOn text) (b.movesOn text)
  | alt a b => .orElse (a.movesOn text) (b.movesOn text)
  | repeated a count =>
    .repeated (a.movesOn text) count.least
      (match count.greatest with
      | some n => n - count.least
      | none => text.length + 1)

/-- Whether some part of a text matches. -/
def isMatch (r : Regex) (s : String) : Bool :=
  let text := s.toList
  (r.movesOn text).run (1 <<< (text.length + 1) - 1) != 0

end Regex

end DocStore
