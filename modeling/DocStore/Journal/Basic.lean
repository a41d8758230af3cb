import DocStore.Journal.Disk
import DocStore.Journal.Frame
import DocStore.Journal.Record

/-!
# DocStore — the journal

Changes of the catalog are appended to a file as frames and read back when an engine starts.
Appending that fails cuts the file back, so the frames stay whole (`Journal.append`). Reading the
frames back cuts off what does not make a frame at the end of the file, and changes nothing when it
fails (`Journal.replay`).
-/

namespace DocStore

/-- An open journal. The file itself is on the disk. -/
structure Journal where
  path : String
  /-- Whether something was appended that is not synced. -/
  dirty : Bool
deriving DecidableEq, Repr

namespace Journal

/-- Open a journal; the file and its directory are made if they are not there. -/
def «open» (path : String) (disk : Disk) : Except EngineError Journal × Disk :=
  if disk.reachable then (.ok ⟨path, false⟩, disk.withBytes disk.bytes) else (.error .io, disk)

/-- Append a record. The answer is the offset of its frame. -/
def append (j : Journal) (r : Record) (disk : Disk) : Except EngineError Nat × Journal × Disk :=
  let payload := r.payload
  if payload.length < 2 ^ 32 then
    let offset := disk.bytes.length
    match disk.write (Frame.encode payload) with
    | (true, disk) => (.ok offset, { j with dirty := true }, disk)
    | (false, disk) => (.error .io, j, disk.truncate offset)
  else (.error (.badValue (.recordTooLong payload.length)), j, disk)

/-- Sync the file if something was appended since the last time. The answer says whether. -/
def sync (j : Journal) (disk : Disk) : Except EngineError Bool × Journal × Disk :=
  if j.dirty then
    match disk.sync with
    | (true, disk) => (.ok true, { j with dirty := false }, disk)
    | (false, disk) => (.error .io, j, disk)
  else (.ok false, j, disk)

/-- The records of the frames at the front of some bytes, and how many bytes the frames take.
`offset` is where the bytes begin in the file; every frame spends one unit of fuel. -/
def scan (path : String) : Nat → Nat → List UInt8 → Except EngineError (List Record × Nat)
  | 0, _, _ => .ok ([], 0)
  | fuel + 1, offset, bytes =>
    match Frame.split bytes with
    | .torn => .ok ([], 0)
    | .damaged => .error (.corruption offset path)
    | .frame payload rest =>
      match Record.ofPayload? payload with
      | none => .error .serialization
      | some r =>
        let length := Frame.headerLength + payload.length
        match scan path fuel (offset + length) rest with
        | .ok (rs, kept) => .ok (r :: rs, length + kept)
        | .error e => .error e

/-- Read the records back. What is left behind the last complete frame is cut off. -/
def replay (j : Journal) (disk : Disk) : Except EngineError (List Record) × Disk :=
  let bytes := disk.bytes
  match scan j.path (bytes.length + 1) 0 bytes with
  | .ok (records, kept) =>
    (.ok records, if kept < bytes.length then disk.truncate kept else disk)
  | .error e => (.error e, disk)

end Journal

end DocStore
