import DocStore.Document
import DocStore.Json.Reader

/-!
# DocStore — journal records

A record says what a change did to the catalog. Its payload is a JSON object: `op` names the change,
the other fields hold its arguments. A payload is written in one way (`Record.payload`); read are
payloads with their fields in any order and with other fields beside them, as long as every field of
the record stands there once, and arrays of the change's name and its arguments
(`Record.ofPayload?`).
-/

namespace DocStore

/-- A change of the catalog. -/
inductive Record where
  | insert (db coll : String) (documents : List Value)
  | dropCollection (db coll : String)
  | dropDatabase (db : String)
deriving Repr

namespace Record

/-- A record as the object that stands for it. -/
def toValue : Record → Value
  | insert db coll documents =>
    .object [("op", .string "insert"), ("db", .string db), ("coll", .string coll),
      ("documents", .array documents)]
  | dropCollection db coll =>
    .object [("op", .string "dropCollection"), ("db", .string db), ("coll", .string coll)]
  | dropDatabase db => .object [("op", .string "dropDatabase"), ("db", .string db)]

/-- The text of a record. -/
def text (r : Record) : String := r.toValue.text

/-- The bytes of a record. -/
def payload (r : Record) : List UInt8 := r.text.toUTF8.toList

/-! ## Reading -/

/-- The value of a name that stands once among the entries. -/
def sole? (name : String) (entries : List (String × Value)) : Option Value :=
  match entries.filter fun e => e.1 = name with
  | [(_, v)] => some v
  | _ => none

/-- The text of a name that stands once among the entries. -/
def soleString? (name : String) (entries : List (String × Value)) : Option String :=
  (sole? name entries).bind Value.asString?

/-- The record that the entries of an object stand for. -/
def ofEntries? (entries : List (String × Value)) : Option Record := do
  let op ← soleString? "op" entries
  match op with
  | "insert" => do
    let db ← soleString? "db" entries
    let coll ← soleString? "coll" entries
    let documents ← (sole? "documents" entries).bind Value.asArray?
    some (insert db coll documents)
  | "dropCollection" => do
    let db ← soleString? "db" entries
    let coll ← soleString? "coll" entries
    some (dropCollection db coll)
  | "dropDatabase" => do
    let db ← soleString? "db" entries
    some (dropDatabase db)
  | _ => none

/-- The record that the items of an array stand for: the change's name and its arguments, in order. -/
def ofItems? : List Value → Option Record
  | [.string "insert", .string db, .string coll, .array documents] => some (insert db coll documents)
  | [.string "dropCollection", .string db, .string coll] => some (dropCollection db coll)
  | [.string "dropDatabase", .string db] => some (dropDatabase db)
  | _ => none

/-- The record that a value stands for. -/
def ofValue? : Value → Option Record
  | .object fs => ofEntries? fs
  | .array vs => ofItems? vs
  | _ => none

/-- The record that a text stands for. -/
def ofText? (text : String) : Option Record :=
  match Json.parseEntries? text with
  | some entries => ofEntries? entries
  | none => ((Value.parse? text).bind Value.asArray?).bind ofItems?

/-- The record that the bytes of a payload stand for. -/
def ofPayload? (bytes : List UInt8) : Option Record := do
  let text ← String.fromUTF8? ⟨bytes.toArray⟩
  ofText? text

end Record

end DocStore
