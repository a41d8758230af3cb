import DocStore.Regex.Automaton
import DocStore.Regex.Basic

/-!
# DocStore — the room that an expression takes

The layout of an expression says in which order its automaton is built: repetitions are written out,
so their parts are built as often as they may occur. `Regex.fits` measures the forward and the
backward automaton along their layouts and accepts an expression if neither outgrows the limit. The
backward automaton reads a sequence from its last part to its first, and remembers no groups.
-/

namespace DocStore

open Unicode

/-- The way in which an automaton reads a text. -/
inductive Regex.Direction where
  | forward
  | backward
deriving DecidableEq, Repr

/-- The steps by which an automaton is built. -/
inductive Layout where
  /-- States, links and branches of a known size. -/
  | states (size : Size)
  /-- A set of characters, by its byte sequences. -/
  | chars (sequences : List (List Span))
  | andThen (a b : Layout)
  | copies (n : Nat) (a : Layout)

namespace Layout

/-- A step done `n` times, unless the automaton grows too large. -/
def iterate? (step : Size → Option Size) : Nat → Size → Option Size
  | 0, size => some size
  | n + 1, size =>
    match step size with
    | some size => iterate? step n size
    | none => none

/-- The size after the steps of a layout. -/
def grow? (d : Regex.Direction) : Layout → Size → Option Size
  | states more, size => size.add? more
  | chars sequences, size =>
    match d with
    | .forward => size.addForward? sequences
    | .backward => size.addBackward? sequences
  | andThen a b, size => (a.grow? d size).bind (b.grow? d)
  | copies n a, size => iterate? (a.grow? d) n size

/-- Several layouts one after the other. -/
def all (ls : List Layout) : Layout := ls.foldr andThen (states .zero)

/-- States with branches. -/
def branching (count branches : Nat) : Layout := states ⟨count, Size.branches branches⟩

/-- States without branches. -/
def plain (count : Nat) : Layout := branching count 0

end Layout

/-- The layout of an expression as a part of another one. -/
structure Piece where
  layout : Layout
  /-- Whether the piece ends in a state with branches, to which what follows adds one. -/
  branches : Bool := false
  /-- The bytes of a text, if the expression is one. -/
  bytes? : Option (List Nat) := none

namespace Piece

/-- How many branches are added behind the piece. -/
def exits (p : Piece) : Nat := if p.branches then 1 else 0

/-- A piece with its end led on to what follows. -/
def led (p : Piece) : Layout := .andThen p.layout (.branching 0 p.exits)

/-- A choice between pieces. The state with the branches is made behind the second piece. Texts
alone share what they begin with, or what they end with for the way back. -/
def choice (d : Regex.Direction) : List Piece → Piece
  | [] => ⟨.plain 1, false, none⟩
  | [p] => p
  | p :: q :: more =>
    match (p :: q :: more).mapM Piece.bytes? with
    | some texts =>
      let texts := match d with
        | .forward => texts
        | .backward => texts.map List.reverse
      ⟨.states (.ofTexts texts), false, none⟩
    | none =>
      let others := more.map fun r => Layout.andThen r.led (.branching 0 1)
      ⟨.all (p.led :: q.led :: .branching 2 2 :: others), false, none⟩

/-- A repetition of a piece. If the piece can match the empty text, an unbounded repetition that may
stop at once takes one more state with branches. -/
def repeated (p : Piece) (consumes : Bool) (count : Count) : Piece :=
  match count.least, count.greatest with
  | 0, some 1 => ⟨.all [.branching 1 2, p.led, .plain 1], false, none⟩
  | 0, none =>
    if consumes then ⟨.all [.branching 1 1, p.led], true, none⟩
    else ⟨.all [p.led, .branching 3 4], false, none⟩
  | least, none => ⟨.all [.copies least p.led, .branching 1 1], true, none⟩
  | least, some greatest =>
    if least = greatest then
      if least = 0 then ⟨.plain 1, false, none⟩
      else ⟨.andThen (.copies (least - 1) p.led) p.layout, p.branches, none⟩
    else
      let start := if least = 0 then .plain 1 else .copies least p.led
      let optional := Layout.andThen (.branching 1 2) p.led
      ⟨.all [start, .plain 1, .copies (greatest - least) optional], false, none⟩

end Piece

namespace Regex

/-- The pieces of the alternatives of an expression. -/
def pieces (d : Regex.Direction) : Regex → List Piece
  | empty | look _ => [⟨.plain 1, false, none⟩]
  | literal text =>
    let bytes := text.flatMap Utf8.bytesOf
    [⟨.plain bytes.length, false, some bytes⟩]
  | char set =>
    if set.isAscii then [⟨.states ⟨2, Size.links set.spans.length⟩, false, none⟩]
    else [⟨.chars set.byteSequences, false, none⟩]
  | group _ a =>
    let p := Piece.choice d (a.pieces d)
    match d with
    | .forward => [⟨.all [.plain 1, p.led, .plain 1], false, none⟩]
    | .backward => [⟨p.layout, p.branches, none⟩]
  | seq a rest =>
    let p := Piece.choice d (a.pieces d)
    let q := Piece.choice d (rest.pieces d)
    match d with
    | .forward => [⟨.andThen p.led q.layout, q.branches, none⟩]
    | .backward => [⟨.andThen q.led p.layout, p.branches, none⟩]
  | alt a rest => Piece.choice d (a.pieces d) :: rest.pieces d
  | repeated a count =>
    let consumes := match a.leastLength with
      | some n => 0 < n
      | none => false
    [(Piece.choice d (a.pieces d)).repeated consumes count]

/-- The layout of the automaton of an expression. If a match may begin, or end, anywhere, a loop over
any bytes stands in front. -/
def layout (d : Regex.Direction) (r : Regex) : Layout :=
  let p := Piece.choice d (r.pieces d)
  let anchored := match d with
    | .forward => r.startsAtStart
    | .backward => r.endsAtEnd
  let start := if anchored then .plain 1 else .states ⟨3, Size.links 1 + Size.branches 2⟩
  match d with
  | .forward => .all [start, .plain 1, p.led, .plain 2]
  | .backward => .all [start, p.led, .plain 1]

/-- Whether the automata of an expression are not too large. -/
def fits (r : Regex) : Bool :=
  ((r.layout .forward).grow? .forward .zero).isSome &&
    ((r.layout .backward).grow? .backward .zero).isSome

end Regex

end DocStore
