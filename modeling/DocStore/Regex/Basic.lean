import DocStore.Unicode.CharSet

/-!
# DocStore — regular expressions

A regular expression is a tree (`Regex`). It is built in a simplified form by `Regex.ofSet`,
`Regex.concat`, `Regex.either` and `Regex.times`: a sequence holds neither sequences nor empty parts
and no two texts side by side, a choice holds no choices, a set of one character is a text, and what
can only match the empty text is not repeated. The form decides how large the automaton of an
expression is, and with it whether a pattern is accepted.
-/

namespace DocStore

open Unicode

/-- A condition on a place between two characters of a text. -/
inductive Look where
  | textStart
  | textEnd
  /-- The start or the end of a line, which ends in a line feed. -/
  | lineStart
  | lineEnd
  /-- The start or the end of a line, which ends in a line feed, a carriage return, or both. -/
  | anyLineStart
  | anyLineEnd
  /-- Places at words, whose characters are those of the set. -/
  | wordBoundary (letters : CharSet)
  | notWordBoundary (letters : CharSet)
  | wordStart (letters : CharSet)
  | wordEnd (letters : CharSet)
  | noWordBefore (letters : CharSet)
  | noWordAfter (letters : CharSet)
deriving DecidableEq, Repr

/-- How often something is repeated. -/
structure Count where
  least : Nat
  /-- No bound if there is none. -/
  greatest : Option Nat
  /-- Whether fewer repetitions are preferred, which does not show in whether a text matches. -/
  fewest : Bool
deriving DecidableEq, Repr

/-- A regular expression. -/
inductive Regex where
  | empty
  /-- The characters of a text, one after the other. -/
  | literal (text : List Char)
  | char (set : CharSet)
  | look (l : Look)
  /-- A group with a number, which remembers what it matched. -/
  | group (number : Nat) (a : Regex)
  /-- A part, and the rest of the sequence that it begins. -/
  | seq (a rest : Regex)
  /-- An alternative, and the others behind it. -/
  | alt (a rest : Regex)
  | repeated (a : Regex) (count : Count)
deriving DecidableEq, Repr

namespace Regex

/-! ## What an expression can match -/

/-- Whether an expression matches nothing but the empty text. -/
def alwaysEmpty : Regex → Bool
  | empty | look _ => true
  | literal _ | char _ => false
  | group _ a => a.alwaysEmpty
  | seq a b | alt a b => a.alwaysEmpty && b.alwaysEmpty
  | repeated a count => count.greatest.isSome && a.alwaysEmpty

/-- A number of characters that every match has at least; none for an expression with a part that
matches nothing at all. -/
def leastLength : Regex → Option Nat
  | empty | look _ => some 0
  | literal text => some text.length
  | char set => if set.spans.isEmpty then none else some 1
  | group _ a => a.leastLength
  | seq a b => do return (← a.leastLength) + (← b.leastLength)
  | alt a b => do return min (← a.leastLength) (← b.leastLength)
  | repeated a count => a.leastLength.map (· * count.least)

/-- Whether every match begins at the start of the text, as far as the form of the expression
shows. -/
def startsAtStart : Regex → Bool
  | look .textStart => true
  | empty | look _ | literal _ | char _ => false
  | group _ a => a.startsAtStart
  | seq a b => a.startsAtStart || (a.alwaysEmpty && b.startsAtStart)
  | alt a b => a.startsAtStart && b.startsAtStart
  | repeated a count => 0 < count.least && a.startsAtStart

/-- Whether every match ends at the end of the text, as far as the form of the expression shows. -/
def endsAtEnd : Regex → Bool
  | look .textEnd => true
  | empty | look _ | literal _ | char _ => false
  | group _ a => a.endsAtEnd
  | seq a b => b.endsAtEnd || (b.alwaysEmpty && a.endsAtEnd)
  | alt a b => a.endsAtEnd && b.endsAtEnd
  | repeated a count => 0 < count.least && a.endsAtEnd

/-! ## Simplified forms -/

/-- One character of a set. -/
def ofSet (set : CharSet) : Regex :=
  match set.single? with
  | some c => literal [c]
  | none => char set

/-- The parts of a sequence; another expression is its only part. -/
def parts : Regex → List Regex
  | empty => []
  | seq a rest => a :: rest.parts
  | r => [r]

/-- The alternatives of a choice; another expression is its only alternative. -/
def alternatives : Regex → List Regex
  | alt a rest => a :: rest.alternatives
  | r => [r]

/-- Parts with neighbouring texts joined to one. -/
def joinLiterals : List Regex → List Regex
  | [] => []
  | literal s :: rs =>
    match joinLiterals rs with
    | literal t :: more => literal (s ++ t) :: more
    | rs => literal s :: rs
  | r :: rs => r :: joinLiterals rs

/-- The sequence of parts that are no sequences. -/
def ofParts : List Regex → Regex
  | [] => empty
  | [r] => r
  | r :: rs => seq r (ofParts rs)

/-- The choice between alternatives that are no choices. -/
def ofAlternatives : List Regex → Regex
  | [] => char .empty
  | [r] => r
  | r :: rs => alt r (ofAlternatives rs)

/-- Several expressions one after the other. -/
def concat (rs : List Regex) : Regex := ofParts (joinLiterals (rs.flatMap parts))

/-- The only character of a text. -/
def character? : Regex → Option Char
  | literal [c] => some c
  | _ => none

def set? : Regex → Option CharSet
  | char set => some set
  | _ => none

/-- The parts of a sequence of at least two. -/
def sequence? : Regex → Option (List Regex)
  | seq a rest => some (a :: rest.parts)
  | _ => none

/-- What two lists begin with. -/
def commonPrefix : List Regex → List Regex → List Regex
  | a :: as, b :: bs => if a = b then a :: commonPrefix as bs else []
  | _, _ => []

/-- The parts that all of several sequences begin with. -/
def sharedParts : List (List Regex) → List Regex
  | [] => []
  | s :: ss => ss.foldl commonPrefix s

/-- How many nodes a tree has. -/
def nodes : Regex → Nat
  | empty | literal _ | char _ | look _ => 1
  | group _ a | repeated a _ => a.nodes + 1
  | seq a b | alt a b => a.nodes + b.nodes + 1

/-- One of several expressions. Single characters make a set, and so do sets; what sequences begin
with in common stands in front of the choice between their rests. Every such step leaves fewer nodes
to choose between, and `fuel` bounds the steps. -/
def eitherWithin : Nat → List Regex → Regex
  | 0, rs => ofAlternatives rs
  | fuel + 1, rs =>
    let rs := rs.flatMap alternatives
    if rs.length ≤ 1 then ofAlternatives rs
    else
      match rs.mapM character?, rs.mapM set?, rs.mapM sequence? with
      | some cs, _, _ => ofSet (.ofSpans (cs.map fun c => ⟨c.toNat, c.toNat⟩))
      | none, some sets, _ => ofSet (.unionAll sets)
      | none, none, some sequences =>
        match sharedParts sequences with
        | [] => ofAlternatives rs
        | shared =>
          let rests := sequences.map fun ps => concat (ps.drop shared.length)
          concat (shared ++ [eitherWithin fuel rests])
      | none, none, none => ofAlternatives rs

/-- One of several expressions. -/
def either (rs : List Regex) : Regex := eitherWithin ((rs.map nodes).foldr (· + ·) 0 + 1) rs

/-- An expression repeated. -/
def times (a : Regex) (count : Count) : Regex :=
  let count := if a.alwaysEmpty then
      { count with least := min count.least 1, greatest := some (min (count.greatest.getD 1) 1) }
    else count
  if count.least = 0 ∧ count.greatest = some 0 then empty
  else if count.least = 1 ∧ count.greatest = some 1 then a
  else repeated a count

end Regex

end DocStore
