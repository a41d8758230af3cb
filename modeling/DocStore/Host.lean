import DocStore.Document
import DocStore.Journal.Disk

/-!
# DocStore — the host

What an engine gets from outside: the disk its journal lies on, object ids, and the time. The host
outlives the engines that run on it, so an engine that starts again finds the disk as it was left.
-/

namespace DocStore

/-- The machine that engines run on. -/
structure Host where
  disk : Disk := {}
  /-- The object ids that the host generates, one after the other. -/
  ids : Nat → String
  /-- How many ids have been drawn. -/
  drawn : Nat := 0
  /-- The time, in seconds. -/
  now : Nat := 0
  /-- How the host writes a time. -/
  showTime : Nat → String

namespace Host

/-- Draw an object id. -/
def drawId (h : Host) : Value × Host :=
  (.object [("$oid", .string (h.ids h.drawn))], { h with drawn := h.drawn + 1 })

/-- Give a document an `_id` in front if it has none. -/
def ensureId (h : Host) (d : Document) : Document × Host :=
  if d.contains "_id" then (d, h)
  else
    let (id, h) := h.drawId
    (d.withId id, h)

/-- A document without an `_id` gets the one that is drawn. -/
theorem fst_ensureId (h : Host) (d : Document) : (h.ensureId d).1 = d.withId h.drawId.1 := by
  unfold ensureId Document.withId
  split <;> rfl

/-- Give every document of a list an `_id`. -/
def ensureIds : Host → List Document → List Document × Host
  | h, [] => ([], h)
  | h, d :: ds =>
    let (d, h) := h.ensureId d
    let (ds, h) := ensureIds h ds
    (d :: ds, h)

end Host

end DocStore
