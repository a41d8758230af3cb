import DocStore.Journal.Checksum

/-!
# DocStore — frames

A journal is frames one after the other. A frame is the length of a payload and the checksum of the
payload, each in four bytes with the lowest first, and then the payload. `Frame.split` takes the
first frame off a run of bytes, or says why there is none: the bytes end before the frame does, or
the checksum is not that of the payload.
-/

namespace DocStore

namespace Frame

/-- The bytes in front of a payload. -/
def headerLength : Nat := 8

/-- Four bytes, the lowest first. -/
def word (n : Nat) : List UInt8 :=
  [UInt8.ofNat n, UInt8.ofNat (n / 256), UInt8.ofNat (n / 65536), UInt8.ofNat (n / 16777216)]

/-- The number that four bytes stand for. -/
def ofWord (a b c d : UInt8) : Nat :=
  a.toNat + 256 * b.toNat + 65536 * c.toNat + 16777216 * d.toNat

/-- The frame of a payload. -/
def encode (payload : List UInt8) : List UInt8 :=
  word payload.length ++ word (checksum payload).toNat ++ payload

/-- The first frame of a run of bytes. -/
inductive Split where
  /-- The bytes end before a frame does. -/
  | torn
  /-- A complete frame with a wrong checksum. -/
  | damaged
  | frame (payload rest : List UInt8)
deriving DecidableEq, Repr

/-- Take the first frame off. -/
def split : List UInt8 → Split
  | a :: b :: c :: d :: e :: f :: g :: h :: rest =>
    let length := ofWord a b c d
    if rest.length < length then .torn
    else if (checksum (rest.take length)).toNat ≠ ofWord e f g h then .damaged
    else .frame (rest.take length) (rest.drop length)
  | _ => .torn

end Frame

end DocStore
