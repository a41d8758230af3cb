import DocStore.Error
import DocStore.Json.Printer

/-!
# DocStore — documents

A document is an ordered object. Fields of embedded documents and items of arrays are reached by
dotted paths (`Document.get?`); the `_id` field names a document within its collection, and its text
(`Document.idKey?`) is what uniqueness is decided by.
-/

namespace DocStore

/-- An ordered JSON object. -/
structure Document where
  fields : Fields Value
deriving Repr

/-! ## Paths -/

namespace Path

/-- The parts of a text between its points; a text without a point is one part. -/
def splitPoints : List Char → List (List Char)
  | [] => [[]]
  | c :: cs =>
    if c = '.' then [] :: splitPoints cs
    else
      match splitPoints cs with
      | [] => [[c]]
      | part :: parts => (c :: part) :: parts

/-- The segments of a dotted path. -/
def segments (path : String) : List String := (splitPoints path.toList).map String.ofList

/-- The number that decimal digits denote, when there are digits only and 64 bits hold it. One plus
sign may stand in front. -/
def natOfText? (s : String) : Option Nat :=
  let ds := match s.toList with
    | '+' :: rest => rest
    | cs => cs
  if ds.isEmpty || !ds.all Char.isDigit then none
  else
    let n := ds.foldl (fun n c => n * 10 + (c.toNat - 48)) 0
    if n < 2 ^ 64 then some n else none

end Path

/-- One step of a path: into a field of an object or to an item of an array. -/
def Value.step? (segment : String) : Value → Option Value
  | .object fs => Fields.find? fs segment
  | .array vs =>
    match Path.natOfText? segment with
    | some i => vs[i]?
    | none => none
  | _ => none

/-- The value at the end of a walk along segments. -/
def Value.walk? : List String → Value → Option Value
  | [], v => some v
  | segment :: rest, v =>
    match v.step? segment with
    | some w => w.walk? rest
    | none => none

namespace Document

instance : Inhabited Document := ⟨⟨[]⟩⟩

/-- The document without fields. -/
def empty : Document := ⟨[]⟩

/-- The document that a value is, which has to be an object. -/
def ofValue : Value → Except EngineError Document
  | .object fs => .ok ⟨fs⟩
  | other => .error (.badValue (.notADocument other.kind))

/-- The documents that values are; the first one that is none decides the error. -/
def ofValues : List Value → Except EngineError (List Document)
  | [] => .ok []
  | v :: vs => do
    let d ← ofValue v
    let ds ← ofValues vs
    .ok (d :: ds)

/-- A document as a value. -/
def toValue (d : Document) : Value := .object d.fields

/-- The compact text of a document. -/
def text (d : Document) : String := d.toValue.text

/-- Equality of documents as JSON objects. -/
def equal (a b : Document) : Bool := a.toValue.equal b.toValue

/-! ## Fields -/

/-- The value at a dotted path. -/
def get? (d : Document) (path : String) : Option Value := d.toValue.walk? (Path.segments path)

/-- The field of exactly this name. -/
def field? (d : Document) (name : String) : Option Value := Fields.find? d.fields name

/-- Whether there is a field of exactly this name. -/
def contains (d : Document) (name : String) : Bool := Fields.contains d.fields name

/-- Put a field: in its place if there is one of the name, else at the end. -/
def put (d : Document) (name : String) (v : Value) : Document := ⟨Fields.put name v d.fields⟩

/-- Take a field out. -/
def remove (d : Document) (name : String) : Document := ⟨Fields.remove name d.fields⟩

/-- The names of the fields, in order. -/
def names (d : Document) : List String := Fields.names d.fields

/-- The name of the first field. A command goes by it. -/
def firstName? (d : Document) : Option String := d.names.head?

def size (d : Document) : Nat := d.fields.length

def isEmpty (d : Document) : Bool := d.fields.isEmpty

/-! ## Identity -/

/-- The `_id` field. -/
def id? (d : Document) : Option Value := d.field? "_id"

/-- The text of the `_id`, by which documents of a collection are told apart. -/
def idKey? (d : Document) : Option String := d.id?.map Value.text

/-- The document with `id` in front as its `_id`, unless it has one. -/
def withId (id : Value) (d : Document) : Document :=
  if d.contains "_id" then d else ⟨("_id", id) :: d.fields⟩

/-! ## Fields of commands

The readers of command fields say what the field has to be when it is not that. -/

def stringField (d : Document) (name : String) : Except EngineError String :=
  match d.field? name with
  | some (.string s) => .ok s
  | _ => .error (.badValue (.stringRequired name))

def arrayField (d : Document) (name : String) : Except EngineError (List Value) :=
  match d.field? name with
  | some (.array vs) => .ok vs
  | _ => .error (.badValue (.arrayRequired name))

/-- An embedded document; null counts as absent. -/
def documentField? (d : Document) (name : String) : Except EngineError (Option Document) :=
  match d.field? name with
  | none | some .null => .ok none
  | some v => (ofValue v).map some

end Document

/-- A count: an integer that is not negative, or a double that is a whole number and not negative.
What 64 bits cannot hold counts as the greatest number they can. -/
def Value.asCount? : Value → Option Nat
  | .number (.int n) => if 0 ≤ n then some n.toNat else none
  | .number (.double x) =>
    match x.toInt? with
    | some n => if 0 ≤ n then some (min n.toNat (2 ^ 64 - 1)) else none
    | none => none
  | _ => none

/-- An optional count; null counts as absent. -/
def Document.countField? (d : Document) (name : String) : Except EngineError (Option Nat) :=
  match d.field? name with
  | none | some .null => .ok none
  | some v =>
    match v.asCount? with
    | some n => .ok (some n)
    | none => .error (.badValue (.countRequired name))

end DocStore
