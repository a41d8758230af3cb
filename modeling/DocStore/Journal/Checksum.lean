/-!
# DocStore — the checksum of journal records

The 32-bit cyclic redundancy check with the reflected polynomial `0xEDB88320`, which starts from all
ones and is complemented at the end.
-/

namespace DocStore

namespace Checksum

/-- One bit leaves the register; the polynomial is added if it was set. -/
def shift (register : UInt32) : UInt32 :=
  if register &&& 1 = 1 then (register >>> 1) ^^^ 0xEDB88320 else register >>> 1

/-- `n` bits leave the register. -/
def shifts : Nat → UInt32 → UInt32
  | 0, register => register
  | n + 1, register => shifts n (shift register)

/-- One byte enters the register. -/
def enter (register : UInt32) (byte : UInt8) : UInt32 := shifts 8 (register ^^^ byte.toUInt32)

end Checksum

/-- The checksum of bytes. -/
def checksum (bytes : List UInt8) : UInt32 := bytes.foldl Checksum.enter 0xFFFFFFFF ^^^ 0xFFFFFFFF

end DocStore
