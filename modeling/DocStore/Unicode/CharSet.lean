/-!
# DocStore — sets of characters

A set of characters is a list of spans of code points, in rising order and as few as can be:
`CharSet.ofSpans` brings any list of spans into that form, and every operation keeps it. Surrogate
codes stand for no character. A span may run over them, and stepping from one character to the next
(`Code.next`, `Code.previous`) leaps them.

A table is written as a text: a span as its first and last code in hexadecimal with a hyphen between
them, a single code alone, and codes at equal distances with the distance behind a slash, as for the
letters that alternate between the cases.
-/

namespace DocStore

namespace Unicode

/-! ## Codes and spans -/

namespace Code

/-- The greatest code point. -/
def greatest : Nat := 0x10FFFF

/-- The last code before the surrogates, and the first one behind them. -/
def lastLow : Nat := 0xD7FF

def firstHigh : Nat := 0xE000

/-- The code of the next character. -/
def next (code : Nat) : Nat := if code = lastLow then firstHigh else code + 1

/-- The code of the character before. -/
def previous (code : Nat) : Nat := if code = firstHigh then lastLow else code - 1

end Code

/-- The numbers from `first` to `last`, both included. -/
structure Span where
  first : Nat
  last : Nat
deriving DecidableEq, Repr

namespace Span

def holds (s : Span) (code : Nat) : Bool := s.first ≤ code && code ≤ s.last

/-- The numbers between two, whichever is the lesser. -/
def between (a b : Nat) : Span := ⟨min a b, max a b⟩

/-- A span and those that follow it in the order of their beginnings, with those joined that overlap
or touch. -/
def joinTouching (s : Span) : List Span → List Span
  | [] => [s]
  | t :: ts =>
    if t.first ≤ s.last + 1 then joinTouching ⟨s.first, max s.last t.last⟩ ts
    else s :: joinTouching t ts

end Span

/-! ## Sets of characters -/

/-- A set of characters, by the spans of its codes. -/
structure CharSet where
  spans : List Span
deriving DecidableEq, Repr

namespace CharSet

/-- Spans in the order of their beginnings, joined where they overlap or touch. -/
def ofOrdered : List Span → CharSet
  | [] => ⟨[]⟩
  | s :: ss => ⟨s.joinTouching ss⟩

/-- The characters of several spans. -/
def ofSpans (spans : List Span) : CharSet := ofOrdered (spans.mergeSort (·.first ≤ ·.first))

def empty : CharSet := ⟨[]⟩

/-- Every character. -/
def full : CharSet := ⟨[⟨0, Code.greatest⟩]⟩

/-- The characters between two, both included. -/
def range (first last : Char) : CharSet := ⟨[⟨first.toNat, last.toNat⟩]⟩

def singleton (c : Char) : CharSet := range c c

/-- Whether the character of a code is in a set. -/
def holdsCode (set : CharSet) (code : Nat) : Bool := set.spans.any (·.holds code)

/-- Whether a character is in a set. -/
def contains (set : CharSet) (c : Char) : Bool := set.holdsCode c.toNat

/-- Whether a set has only characters below 128. -/
def isAscii (set : CharSet) : Bool := set.spans.all (·.last < 128)

/-- The only character of a set. -/
def single? (set : CharSet) : Option Char :=
  match set.spans with
  | [s] => if s.first = s.last then some (Char.ofNat s.first) else none
  | _ => none

/-- The characters of one set or the other. -/
def union (a b : CharSet) : CharSet := ofOrdered (a.spans.merge b.spans (·.first ≤ ·.first))

/-- The characters of several sets. -/
def unionAll (sets : List CharSet) : CharSet := ofSpans (sets.flatMap spans)

/-- What two lists of spans have in common. -/
def common : List Span → List Span → List Span
  | [], _ => []
  | _, [] => []
  | a :: as, b :: bs =>
    let rest := if a.last < b.last then common as (b :: bs) else common (a :: as) bs
    let first := max a.first b.first
    let last := min a.last b.last
    if first ≤ last then ⟨first, last⟩ :: rest else rest
termination_by as bs => as.length + bs.length

/-- The characters of both sets. -/
def inter (a b : CharSet) : CharSet := ⟨common a.spans b.spans⟩

/-- What one list of spans has outside of another. -/
def without : List Span → List Span → List Span
  | [], _ => []
  | as, [] => as
  | a :: as, b :: bs =>
    if b.last < a.first then without (a :: as) bs
    else if a.last < b.first then a :: without as (b :: bs)
    else
      let rest :=
        if b.last < a.last then without (⟨Code.next b.last, a.last⟩ :: as) bs
        else without as (b :: bs)
      if a.first < b.first then ⟨a.first, Code.previous b.first⟩ :: rest else rest
termination_by as bs => as.length + bs.length

/-- The characters of one set that are not in another. -/
def diff (a b : CharSet) : CharSet := ⟨without a.spans b.spans⟩

/-- The characters of exactly one of two sets. -/
def symmDiff (a b : CharSet) : CharSet := (union a b).diff (inter a b)

/-- The spans between a span and those that follow it, and the one behind the last. -/
def gaps (s : Span) : List Span → List Span
  | [] => if s.last < Code.greatest then [⟨Code.next s.last, Code.greatest⟩] else []
  | t :: ts => .between (Code.next s.last) (Code.previous t.first) :: gaps t ts

/-- The characters outside of a set. Two spans with nothing but surrogates between them leave the
gap whose ends are the characters on either side of the surrogates. -/
def compl (a : CharSet) : CharSet :=
  match a.spans with
  | [] => full
  | s :: ss => ⟨if 0 < s.first then ⟨0, Code.previous s.first⟩ :: gaps s ss else gaps s ss⟩

end CharSet

/-! ## Tables -/

namespace Table

/-- The number that upper-case hexadecimal digits denote. -/
def hexNat (ds : List Char) : Nat :=
  ds.foldl (fun n c => n * 16 + if c.isDigit then c.toNat - 48 else c.toNat - 55) 0

/-- The parts of a text between spaces and line breaks, some of them empty. -/
def splitBlanks : List Char → List (List Char)
  | [] => [[]]
  | c :: cs =>
    if c = ' ' || c = '\n' then [] :: splitBlanks cs
    else
      match splitBlanks cs with
      | [] => [[c]]
      | word :: words => (c :: word) :: words

/-- The words of a text. -/
def wordsOf (text : String) : List (List Char) :=
  (splitBlanks text.toList).filter (!·.isEmpty)

/-- The spans that a word of a table denotes. -/
def spansOfWord (word : List Char) : List Span :=
  let isHex := fun (c : Char) => c != '-' && c != '/'
  let first := hexNat (word.takeWhile isHex)
  match word.dropWhile isHex with
  | '-' :: rest =>
    let last := hexNat (rest.takeWhile isHex)
    match rest.dropWhile isHex with
    | '/' :: distance =>
      let distance := hexNat distance
      (List.range ((last - first) / distance + 1)).map fun i =>
        ⟨first + i * distance, first + i * distance⟩
    | _ => [⟨first, last⟩]
  | _ => [⟨first, first⟩]

end Table

namespace CharSet

/-- The set that a table denotes. -/
def ofText (text : String) : CharSet := ofSpans ((Table.wordsOf text).flatMap Table.spansOfWord)

/-- A set with the characters of a table added. -/
def also (set : CharSet) (text : String) : CharSet := union set (ofText text)

/-- A set with the characters of a table taken away. -/
def except (set : CharSet) (text : String) : CharSet := diff set (ofText text)

end CharSet

end Unicode

end DocStore
