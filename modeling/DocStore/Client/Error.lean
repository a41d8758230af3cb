import DocStore.Error

/-!
# DocStore — what can go wrong for a client

A client meets the errors of the engine, and errors of its own: a server that is closed, a cursor
that is used up, documents and names that it does not send, and replies that it does not understand.
-/

namespace DocStore

/-- Why a client does not send a document. -/
inductive DocumentFault where
  /-- A value that is no object, described. -/
  | notAnObject (description : String)
  | nothingToInsert
  | emptyCommand
  /-- A rule of the caller's own, in its words. -/
  | refused (reason : String)
deriving DecidableEq, Repr

/-- What a reply lacks. -/
inductive ReplyFault where
  | missingCursor
  | missingCursorId
  | missingField (name : String)
  | entryWithoutName
  /-- One document was sent, and this many were taken. -/
  | insertedCount (n : Nat)
deriving DecidableEq, Repr

/-- An error that a client reports. -/
inductive ClientError where
  | engine (e : EngineError)
  | serverClosed
  | cursorExhausted
  /-- A document is not of the type that was asked for. -/
  | codec
  | invalidDocument (fault : DocumentFault)
  | invalidNamespace (fault : NameFault)
  /-- The reply to a command is not what the command is answered with. -/
  | unexpectedReply (command : String) (fault : ReplyFault)
deriving DecidableEq, Repr

/-! ## Words -/

def DocumentFault.message : DocumentFault → String
  | notAnObject description => s!"expected an object, got {description}"
  | nothingToInsert => "insert requires at least one document"
  | emptyCommand => "command document is empty"
  | refused reason => reason

def ReplyFault.message : ReplyFault → String
  | missingCursor => "missing 'cursor' document"
  | missingCursorId => "missing cursor id"
  | missingField name => s!"missing '{name}'"
  | entryWithoutName => "entry without a name"
  | insertedCount n => s!"expected 1 inserted document, engine reported {n}"

namespace ClientError

/-- An error in words. -/
def message : ClientError → String
  | engine e => s!"Engine error: {e.message}"
  | serverClosed => "Embedded server has been closed"
  | cursorExhausted => "Cursor exhausted: no more results"
  | codec => "Codec error"
  | invalidDocument fault => s!"Invalid document: {fault.message}"
  | invalidNamespace fault => s!"Invalid namespace: {fault.message}"
  | unexpectedReply command fault => s!"Unexpected reply to '{command}': {fault.message}"

/-- The number of an error, which errors of the engine have. -/
def code? : ClientError → Option Nat
  | engine e => some e.code
  | _ => none

/-- Whether an error says that the server, or the engine under it, is shut down. -/
def isServerClosed : ClientError → Bool
  | serverClosed => true
  | engine .shutdownInProgress => true
  | _ => false

end ClientError

end DocStore
