import DocStore.Client.Error
import DocStore.Host

/-!
# DocStore — documents and values of a client

A client stores values that are JSON objects and gets documents back as values of a type that it
asks for. A `Decoder` reads such a value and is put together from the decoders of its fields; a
codec says whether documents get their `_id` from the client or from the engine.
-/

namespace DocStore

/-! ## Reading values -/

/-- How a value of a type is read. -/
structure Decoder (α : Type) where
  read? : Value → Option α

namespace Decoder

/-- Any value, as it is. -/
def value : Decoder Value := ⟨some⟩

/-- An object as a document. -/
def document : Decoder Document := ⟨fun v => v.asObject?.map Document.mk⟩

/-- A string. -/
def string : Decoder String := ⟨Value.asString?⟩

/-- An integer of 64 bits with a sign. A double is none, not even a whole one. -/
def int : Decoder Int := ⟨Value.asInt?⟩

/-- A field of an object, which has to be there. -/
def field (name : String) (d : Decoder α) : Decoder α :=
  ⟨fun v => ((v.asObject?.bind fun fs => Fields.find? fs name).bind d.read?)⟩

/-- Two readings of one value, put together. -/
def both (f : α → β → γ) (a : Decoder α) (b : Decoder β) : Decoder γ :=
  ⟨fun v => (a.read? v).bind fun x => (b.read? v).map (f x)⟩

/-- Read a document. -/
def decode (d : Decoder α) (document : Document) : Except ClientError α :=
  match d.read? document.toValue with
  | some a => .ok a
  | none => .error .codec

/-- Read documents, all of them. -/
def decodeAll (d : Decoder α) : List Document → Except ClientError (List α)
  | [] => .ok []
  | document :: rest =>
    match d.decode document with
    | .error e => .error e
    | .ok a => (d.decodeAll rest).map (a :: ·)

end Decoder

/-! ## Writing values -/

/-- How values become documents. -/
structure Codec where
  /-- Whether documents to be inserted get their `_id` from the client. -/
  generateIds : Bool := true
deriving DecidableEq, Repr

namespace Codec

/-- A value in words, for one that is no document. -/
def describe : Value → String
  | .null => "null"
  | .bool _ => "a boolean"
  | .number _ => "a number"
  | .string _ => "a string"
  | .array _ => "an array"
  | .object _ => "an object"

/-- The document that a value is. -/
def encode (v : Value) : Except ClientError Document :=
  match v with
  | .object fs => .ok ⟨fs⟩
  | v => .error (.invalidDocument (.notAnObject (describe v)))

/-- The documents that values are. -/
def encodeAll : List Value → Except ClientError (List Document)
  | [] => .ok []
  | v :: vs =>
    match encode v with
    | .error e => .error e
    | .ok d => (encodeAll vs).map (d :: ·)

/-- The document to be inserted for a value. -/
def encodeForInsert (c : Codec) (v : Value) (h : Host) : Except ClientError Document × Host :=
  match encode v with
  | .error e => (.error e, h)
  | .ok d =>
    if c.generateIds then
      let (d, h) := h.ensureId d
      (.ok d, h)
    else (.ok d, h)

end Codec

end DocStore
