import DocStore.Unicode.Utf8
import Std.Data.HashMap

/-!
# DocStore — sizes of automata

A pattern is matched by automata that read a text byte by byte: one forward, and one backward. Here
they are not built but measured (`Size`). A state takes 32 bytes, each of its links to a state by
bytes 8 more and each of its branches 4 more, and an automaton may not outgrow 10 MiB.

The automaton of a set of characters shares states. Forward, states with the same links are made
once; backward, single links with the same byte span and target. What has been made is remembered in
a number of slots, each of which holds the latest state that fell into it, so a state whose slot has
been taken is made again. Slots follow from a hash of the links, whose targets are the numbers of
states, so an automaton has to be measured from its first state on.
-/

namespace DocStore

open Unicode

/-- The size of an automaton under construction: how many states it has, and the bytes that their
links and branches take. -/
structure Size where
  states : Nat
  linkBytes : Nat
deriving DecidableEq, Repr

namespace Size

def zero : Size := ⟨0, 0⟩

def bytes (s : Size) : Nat := 32 * s.states + s.linkBytes

/-- The bytes of `n` links by bytes. -/
def links (n : Nat) : Nat := 8 * n

/-- The bytes of `n` branches. -/
def branches (n : Nat) : Nat := 4 * n

/-- The most bytes that an automaton may take. -/
def greatestBytes : Nat := 10 <<< 20

def plus (a b : Size) : Size := ⟨a.states + b.states, a.linkBytes + b.linkBytes⟩

/-- The size after an addition, unless it is too large. -/
def add? (s more : Size) : Option Size :=
  let sum := s.plus more
  if sum.bytes ≤ greatestBytes then some sum else none

end Size

/-! ## Slots -/

/-- The hash of a list of numbers: each is mixed in by an exclusive or and a multiplication, on 64
bits. -/
def hashOf (numbers : List Nat) : UInt64 :=
  numbers.foldl (fun h n => (h ^^^ n.toUInt64) * 1099511628211) 14695981039346656037

/-- What has been made, each with the number of its state, in the slots of their hashes. -/
structure Slots (α : Type) where
  count : Nat
  latest : Std.HashMap Nat (α × Nat)

namespace Slots

variable {α : Type} [DecidableEq α]

def empty (count : Nat) : Slots α := ⟨count, {}⟩

def slotOf (s : Slots α) (numbers : List Nat) : Nat := (hashOf numbers).toNat % s.count

/-- The state of what has been made, if its slot still holds it. -/
def find? (s : Slots α) (numbers : List Nat) (made : α) : Option Nat :=
  match s.latest[s.slotOf numbers]? with
  | some (other, state) => if other = made then some state else none
  | none => none

def insert (s : Slots α) (numbers : List Nat) (made : α) (state : Nat) : Slots α :=
  { s with latest := s.latest.insert (s.slotOf numbers) (made, state) }

end Slots

/-! ## Sets of characters, forward -/

/-- A link to a state, by the bytes of a span. -/
structure Link where
  bytes : Span
  target : Nat
deriving DecidableEq

/-- An automaton under construction, and what has been made for a set. -/
structure Making (α : Type) where
  size : Size
  slots : Slots α

/-- A state under construction: its finished links, the latest one first, and the byte span of the
link behind which the construction goes on. -/
structure OpenState where
  finished : List Link
  span : Span

namespace OpenState

/-- Open states behind each other, for a sequence of byte spans. -/
def chain (sequence : List Span) : List OpenState := sequence.map fun s => ⟨[], s⟩

end OpenState

namespace Making

/-- The state with these links. -/
def state (m : Making (List Link)) (links : List Link) : Option (Nat × Making (List Link)) :=
  let numbers := links.flatMap fun l => [l.bytes.first, l.bytes.last, l.target]
  match m.slots.find? numbers links with
  | some state => some (state, m)
  | none => do
    let size ← m.size.add? ⟨1, Size.links links.length⟩
    some (m.size.states, ⟨size, m.slots.insert numbers links m.size.states⟩)

/-- Finishes open states, the last one first, whose link leads to `target`. The result is the state
that the first one has become. -/
def finish (m : Making (List Link)) (target : Nat) :
    List OpenState → Option (Nat × Making (List Link))
  | [] => some (target, m)
  | s :: behind => do
    let (next, m) ← m.finish target behind
    m.state ((⟨s.span, next⟩ :: s.finished).reverse)

/-- Goes on with a sequence that is greater than those before it. Open states are kept as long as it
agrees with them; what is open behind them is finished. -/
def follow (m : Making (List Link)) (target : Nat) :
    List Span → List OpenState → Option (List OpenState × Making (List Link))
  | [], opened => some (opened, m)
  | sequence, [] => some (OpenState.chain sequence, m)
  | span :: spans, s :: behind =>
    if s.span = span then do
      let (behind, m) ← m.follow target spans behind
      some (s :: behind, m)
    else do
      let (next, m) ← m.finish target behind
      some (⟨⟨s.span, next⟩ :: s.finished, span⟩ :: OpenState.chain spans, m)

/-- Goes on with several sequences in rising order. -/
def followAll (m : Making (List Link)) (target : Nat) (opened : List OpenState) :
    List (List Span) → Option (List OpenState × Making (List Link))
  | [] => some (opened, m)
  | sequence :: more => do
    let (opened, m) ← m.follow target sequence opened
    m.followAll target opened more

end Making

/-- The size after the forward automaton of a set of characters, by its byte sequences. -/
def Size.addForward? (s : Size) (sequences : List (List Span)) : Option Size := do
  let target := s.states
  let s ← s.add? ⟨1, 0⟩
  let (opened, m) ← Making.followAll ⟨s, .empty 10000⟩ target [] sequences
  let (_, m) ← m.finish target opened
  some m.size

/-! ## Sets of characters, backward -/

namespace Making

/-- The state with one link. -/
def linkTo (m : Making Link) (link : Link) : Option (Nat × Making Link) :=
  let numbers := [link.target, link.bytes.first, link.bytes.last]
  match m.slots.find? numbers link with
  | some state => some (state, m)
  | none => do
    let size ← m.size.add? ⟨1, 0⟩
    some (m.size.states, ⟨size, m.slots.insert numbers link m.size.states⟩)

/-- States in front of `target` that read a sequence from its last byte to its first. -/
def readBack (m : Making Link) (target : Nat) : List Span → Option (Making Link)
  | [] => some m
  | span :: spans => do
    let (state, m) ← m.linkTo ⟨span, target⟩
    m.readBack state spans

/-- A branch for each of several sequences. -/
def readBackAll (m : Making Link) (target : Nat) : List (List Span) → Option (Making Link)
  | [] => some m
  | sequence :: more => do
    let m ← m.readBack target sequence
    let size ← m.size.add? ⟨0, Size.branches 1⟩
    readBackAll { m with size := size } target more

end Making

/-- The size after the backward automaton of a set of characters, by its byte sequences. -/
def Size.addBackward? (s : Size) (sequences : List (List Span)) : Option Size := do
  let s ← s.add? ⟨2, 0⟩
  let m ← Making.readBackAll ⟨s, .empty 1000⟩ (s.states - 1) sequences
  some m.size

/-! ## Choices between texts -/

/-- Texts by what they begin with. At each end of a text the links so far are closed off, so that
the order of preference between the texts is kept; the open links come behind them. -/
inductive Prefixes where
  | node (closed : List (List (Nat × Prefixes))) (opened : List (Nat × Prefixes))

namespace Prefixes

def leaf : Prefixes := node [] []

/-- The links of a node in groups, those that are open last. -/
def groups : Prefixes → List (List (Nat × Prefixes))
  | node closed opened => closed ++ [opened]

/-- Whether nothing follows. -/
def isLeaf (p : Prefixes) : Bool := p.groups.all (·.isEmpty)

/-- The link of a byte, and the others. -/
def takeLink (byte : Nat) : List (Nat × Prefixes) → Option Prefixes × List (Nat × Prefixes)
  | [] => (none, [])
  | (b, p) :: more =>
    if b = byte then (some p, more)
    else
      let (found, others) := takeLink byte more
      (found, (b, p) :: others)

/-- The texts with one more, which is preferred the least. -/
def insert : List Nat → Prefixes → Prefixes
  | [], node closed opened =>
    if !closed.isEmpty && (node closed opened).isLeaf then node closed opened
    else node (closed ++ [opened]) []
  | byte :: bytes, node closed opened =>
    let (found, others) := takeLink byte opened
    node closed ((byte, insert bytes (found.getD leaf)) :: others)

mutual

/-- The size of the states of a node and of those behind it. A group of links is a state, and so is
the choice between the groups and the ends of texts between them. Where nothing follows there is no
state. -/
def size : Prefixes → Size
  | node closed opened =>
    if closed.all (·.isEmpty) && opened.isEmpty then Size.zero
    else
      let groups := (sizesOfGroups closed).plus (sizeOfGroup opened)
      groups.plus ⟨1, Size.branches (closed.length +
        (closed ++ [opened]).countP (!·.isEmpty))⟩

/-- The size of the states of several groups of links and of those behind them. -/
def sizesOfGroups : List (List (Nat × Prefixes)) → Size
  | [] => Size.zero
  | g :: gs => (sizeOfGroup g).plus (sizesOfGroups gs)

/-- The size of the state of a group of links and of those behind it. A single link takes no room of
its own. -/
def sizeOfGroup : List (Nat × Prefixes) → Size
  | [] => Size.zero
  | [(_, p)] => (size p).plus ⟨1, 0⟩
  | (_, p) :: q :: more =>
    ((size p).plus (sizesOfLinks (q :: more))).plus ⟨1, Size.links (more.length + 2)⟩

/-- The size of the states behind several links. -/
def sizesOfLinks : List (Nat × Prefixes) → Size
  | [] => Size.zero
  | (_, p) :: more => (size p).plus (sizesOfLinks more)

end

end Prefixes

/-- The size of the automaton of a choice between texts, each by its bytes. -/
def Size.ofTexts (texts : List (List Nat)) : Size :=
  let p := texts.foldl (fun p bytes => p.insert bytes) Prefixes.leaf
  p.size.plus ⟨1, 0⟩

end DocStore
