/-!
# DocStore — the journal's file

What the journal knows of the disk: the bytes of its file, whether the file can be reached at all,
and which writes and syncs fail. A write that fails may leave some of its bytes behind
(`Disk.write`).
-/

namespace DocStore

/-- The disk as the journal's file sees it. -/
structure Disk where
  /-- The bytes of the file; none while there is no file. -/
  file : Option (List UInt8) := none
  /-- Whether the directory of the file is there or can be made. -/
  reachable : Bool := true
  /-- Which writes fail, by their number, and after how many bytes. -/
  failsAfter : Nat → Option Nat := fun _ => none
  /-- Which syncs fail, by their number. -/
  syncFails : Nat → Bool := fun _ => false
  /-- How many writes and syncs there have been. -/
  writes : Nat := 0
  syncs : Nat := 0

namespace Disk

instance : Inhabited Disk := ⟨{}⟩

/-- The bytes of the file, none of them if there is no file. -/
def bytes (d : Disk) : List UInt8 := d.file.getD []

/-- The disk with other bytes in the file. -/
def withBytes (d : Disk) (bytes : List UInt8) : Disk := { d with file := some bytes }

/-- The disk with the file cut to a length. -/
def truncate (d : Disk) (length : Nat) : Disk := d.withBytes (d.bytes.take length)

/-- Write at the end of the file. The answer says whether all of the bytes got there. -/
def write (d : Disk) (bytes : List UInt8) : Bool × Disk :=
  let after := { d with writes := d.writes + 1 }
  match d.failsAfter d.writes with
  | none => (true, after.withBytes (d.bytes ++ bytes))
  | some n => (false, after.withBytes (d.bytes ++ bytes.take n))

/-- Make what was written last. The answer says whether it worked. -/
def sync (d : Disk) : Bool × Disk := (!d.syncFails d.syncs, { d with syncs := d.syncs + 1 })

end Disk

end DocStore
