/-!
# DocStore — what can go wrong in the engine

An error is the cause of a refusal, with the values it is about. `EngineError.message` puts it into
words and `EngineError.code` gives the number under which it is reported; no other module writes an
error text.
-/

namespace DocStore

/-- Why a filter is refused. -/
inductive FilterFault where
  /-- The filter is not an object. -/
  | notADocument (kind : String)
  | arrayRequired (operator : String)
  | unknownLogical (operator : String)
  | unknownOperator (operator : String)
  | existsOperand
  | typeOperand
  | regexOperand
  | optionsWithoutRegex
  | optionsOperand
  | optionsFlag (flag : Char)
  /-- The pattern is not a regular expression. -/
  | pattern (source : String)
deriving DecidableEq, Repr

/-- Why a pipeline is refused. -/
inductive PipelineFault where
  | notAnArray
  | stageNotAnObject
  | stageOperators
  | unknownStage (name : String)
  | countName
  /-- The operand of `$limit` or `$skip`. -/
  | countRequired (stage : String)
  | sortNotAnObject
  | sortEmpty
  | sortDirection
  | projectNotAnObject
  | projectField (field : String)
  | projectMixed
  | groupNotAnObject
  | groupWithoutId
  | accumulatorShape (field : String)
  | accumulatorOperand (operator : String)
  | unknownAccumulator (operator : String)
deriving DecidableEq, Repr

/-- What is wrong with a command, or with a value handed to the engine. -/
inductive CommandFault where
  | notADocument (kind : String)
  | stringRequired (field : String)
  | arrayRequired (field : String)
  | countRequired (field : String)
  | emptyCommand
  | nothingToInsert
  | cursorIdRequired
  | cursorIdsRequired
  /-- The cursor was opened over another collection than the one named. -/
  | foreignCursor (id : Int) (owner named : String)
  | recordTooLong (bytes : Nat)
deriving DecidableEq, Repr

/-- A name that no database or no collection can have. -/
inductive NameFault where
  | database (name : String)
  | collection (name : String)
deriving DecidableEq, Repr

/-- Why startup arguments are refused. -/
inductive ArgumentFault where
  | unexpected (argument : String)
  | repeated (option : String)
  | missingValue (option : String)
  | unwantedValue (option : String)
  | invalidValue (option value : String)
  | zeroBatchSize
deriving DecidableEq, Repr

/-- An error of the engine. -/
inductive EngineError where
  /-- The file could not be opened or written. -/
  | io
  /-- A journal record could not be read. -/
  | serialization
  | invalidArgument (fault : ArgumentFault)
  | shutdownInProgress
  | unknownConnection (id : Nat)
  | cursorNotFound (id : Int)
  | commandNotFound (name : String)
  | invalidNamespace (fault : NameFault)
  | badValue (fault : CommandFault)
  | duplicateKey (collection key : String)
  | invalidQuery (fault : FilterFault)
  | aggregation (fault : PipelineFault)
  /-- A complete journal record whose checksum is wrong. -/
  | corruption (offset : Nat) (path : String)
deriving DecidableEq, Repr

/-! ## Words -/

def FilterFault.message : FilterFault → String
  | notADocument kind => s!"filter must be a document, found {kind}"
  | arrayRequired operator => s!"{operator} requires array"
  | unknownLogical operator => s!"Unknown logical operator: {operator}"
  | unknownOperator operator => s!"Unknown operator: {operator}"
  | existsOperand => "$exists requires bool"
  | typeOperand => "$type requires string"
  | regexOperand => "$regex requires string"
  | optionsWithoutRegex => "$options requires $regex"
  | optionsOperand => "$options requires string"
  | optionsFlag flag => s!"invalid $options flag '{flag}'"
  | pattern _ => "invalid $regex"

def PipelineFault.message : PipelineFault → String
  | notAnArray => "Pipeline must be an array"
  | stageNotAnObject => "Stage must be an object"
  | stageOperators => "Each stage must have exactly one operator"
  | unknownStage name => s!"Unrecognized pipeline stage name: '{name}'"
  | countName => "$count requires a non-empty field name"
  | countRequired stage => s!"{stage} must be a non-negative integer"
  | sortNotAnObject => "$sort must be an object"
  | sortEmpty => "$sort stage must have at least one key"
  | sortDirection => "Sort direction must be 1 or -1"
  | projectNotAnObject => "$project must be an object"
  | projectField field => s!"Invalid $project specification for '{field}'"
  | projectMixed => "Cannot mix inclusion and exclusion in $project"
  | groupNotAnObject => "$group must be an object"
  | groupWithoutId => "a group specification must include an _id"
  | accumulatorShape field => s!"The field '{field}' must be an accumulator object"
  | accumulatorOperand operator => s!"{operator} requires a field reference"
  | unknownAccumulator operator => s!"Unknown group operator '{operator}'"

def CommandFault.message : CommandFault → String
  | notADocument kind => s!"expected a document, found {kind}"
  | stringRequired field => s!"'{field}' must be a string"
  | arrayRequired field => s!"'{field}' must be an array"
  | countRequired field => s!"'{field}' must be a non-negative integer"
  | emptyCommand => "empty command document"
  | nothingToInsert => "insert requires at least one document"
  | cursorIdRequired => "getMore requires a cursor id"
  | cursorIdsRequired => "cursor ids must be integers"
  | foreignCursor id owner named => s!"cursor {id} belongs to {owner}, not {named}"
  | recordTooLong bytes => s!"journal record of {bytes} bytes is too large"

def NameFault.message : NameFault → String
  | database name => s!"invalid database name '{name}'"
  | collection name => s!"invalid collection name '{name}'"

def ArgumentFault.message : ArgumentFault → String
  | unexpected argument => s!"unexpected argument '{argument}'"
  | repeated option => s!"{option} cannot be used multiple times"
  | missingValue option => s!"a value is required for {option}"
  | unwantedValue option => s!"{option} takes no value"
  | invalidValue option value => s!"invalid value '{value}' for {option}"
  | zeroBatchSize => "--batch-size must be positive"

namespace EngineError

/-- An error in words. -/
def message : EngineError → String
  | io => "IO error"
  | serialization => "Serialization error"
  | invalidArgument fault => s!"Invalid startup argument: {fault.message}"
  | shutdownInProgress => "Embedded engine has been shut down"
  | unknownConnection id => s!"Unknown connection id {id}"
  | cursorNotFound id => s!"Cursor {id} not found"
  | commandNotFound name => s!"No such command: '{name}'"
  | invalidNamespace fault => s!"Invalid namespace: {fault.message}"
  | badValue fault => s!"Bad command: {fault.message}"
  | duplicateKey collection key =>
    "E11000 duplicate key error collection: " ++ collection ++
      " dup key: \x7b _id: " ++ key ++ " \x7d"
  | invalidQuery fault => s!"Invalid query: {fault.message}"
  | aggregation fault => s!"Aggregation error: {fault.message}"
  | corruption offset path =>
    s!"Journal corruption: checksum mismatch at offset {offset} in {path}"

/-- The number under which an error is reported. -/
def code : EngineError → Nat
  | io => 1
  | serialization => 2
  | invalidArgument _ => 2
  | badValue _ => 2
  | invalidQuery _ => 2
  | unknownConnection _ => 6
  | corruption _ _ => 14
  | cursorNotFound _ => 43
  | commandNotFound _ => 59
  | invalidNamespace _ => 73
  | shutdownInProgress => 91
  | duplicateKey _ _ => 11000
  | aggregation _ => 40324

end EngineError

end DocStore
