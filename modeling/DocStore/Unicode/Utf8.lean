import DocStore.Unicode.CharSet

/-!
# DocStore — UTF-8 by bytes

The characters of a span are written with one to four bytes. `Utf8.sequences` describes them by
sequences of spans of bytes, one span for each byte: a text is in a sequence when each of its bytes
is in the span at its place. A span of characters is cut (`Utf8.cut?`) until the two ends of a piece
describe all of it, which is when they are of one length and, from the first byte at which they
differ on, take all that a byte can be.
-/

namespace DocStore

namespace Unicode

namespace Utf8

/-- The bytes of a character. -/
def bytesOf (c : Char) : List Nat := (String.utf8EncodeChar c).map UInt8.toNat

/-- The last code of each length, the longest one aside. -/
def lengthEnds : List Nat := [0x7F, 0x7FF, 0xFFFF]

/-- How many codes share all bytes but the last, the last two and the last three. -/
def blockSizes : List Nat := [0x40, 0x1000, 0x40000]

/-- Where to cut a span whose ends lie in different blocks of a size: behind the block of its first
code, unless the span has all of that, else in front of the block of its last code, unless the span
has all of that one too. -/
def cutAtBlock? (s : Span) (size : Nat) : Option (Nat × Nat) :=
  let block := s.first / size
  let lastBlock := s.last / size
  if block = lastBlock then none
  else if s.first % size != 0 then some ((block + 1) * size - 1, (block + 1) * size)
  else if s.last % size != size - 1 then some (lastBlock * size - 1, lastBlock * size)
  else none

/-- Where to cut a span: the last code of the lower piece and the first one of the upper piece. -/
def cut? (s : Span) : Option (Nat × Nat) :=
  if s.first ≤ Code.lastLow ∧ Code.firstHigh ≤ s.last then some (Code.lastLow, Code.firstHigh)
  else
    match lengthEnds.find? fun e => s.first ≤ e && e < s.last with
    | some e => some (e, e + 1)
    | none => if s.last ≤ 0x7F then none else blockSizes.findSome? (cutAtBlock? s)

/-- The sequences of byte spans of a span of characters, in rising order. -/
def sequences (s : Span) : List (List Span) :=
  match cut? s with
  | none =>
    [List.zipWith Span.mk (bytesOf (Char.ofNat s.first)) (bytesOf (Char.ofNat s.last))]
  | some (low, high) =>
    if low < high ∧ s.first ≤ low ∧ high ≤ s.last then
      sequences ⟨s.first, low⟩ ++ sequences ⟨high, s.last⟩
    else []
termination_by s.last - s.first

end Utf8

/-- The sequences of byte spans of a set of characters, in rising order. -/
def CharSet.byteSequences (set : CharSet) : List (List Span) := set.spans.flatMap Utf8.sequences

end Unicode

end DocStore
