import DocStore.Document

/-!
# DocStore — startup options

How an engine is started: where its journal lies, how many documents a batch holds when a command
does not say, and after how many idle seconds a cursor is given up. Options come from arguments,
written as `--name=value` or as `--name value`, and where an option is not given, from a variable of
the environment (`Options.ofEnvironment`).
-/

namespace DocStore

/-- Startup options. -/
structure Options where
  /-- The directory of the journal; without one nothing is kept on disk. -/
  dbpath : Option String := none
  /-- Documents per batch when a command does not ask for a number. -/
  batchSize : Nat := 101
  /-- Idle seconds after which an open cursor is given up. -/
  cursorTimeout : Nat := 600
  /-- Keep nothing on disk even when there is a directory. -/
  noJournal : Bool := false
deriving DecidableEq, Repr

namespace Options

/-- The file name of a directory's entry: one slash stands between the two. -/
def joinPath (dir name : String) : String :=
  if dir.toList.getLast? = some '/' then dir ++ name else dir ++ "/" ++ name

/-- Where the journal lies, if there is one. -/
def journalPath? (o : Options) : Option String :=
  match o.dbpath, o.noJournal with
  | some dir, false => some (joinPath dir "journal.emj")
  | _, _ => none

/-! ## Arguments -/

/-- The options that take a value. -/
inductive Name where
  | dbpath
  | batchSize
  | cursorTimeout
deriving DecidableEq, Repr

/-- How an option is written. -/
def Name.text : Name → String
  | dbpath => "--dbpath"
  | batchSize => "--batch-size"
  | cursorTimeout => "--cursor-timeout-secs"

/-- How the option without a value is written. -/
def noJournalText : String := "--no-journal"

/-- What the name of every variable of the environment begins with that stands in for an option. -/
def variablePrefix : String := "EMBERLITE_"

/-- The name of the variable that stands in for an option, behind what all of them begin with. -/
def Name.key : Name → String
  | dbpath => "DBPATH"
  | batchSize => "BATCH_SIZE"
  | cursorTimeout => "CURSOR_TIMEOUT_SECS"

def noJournalKey : String := "NO_JOURNAL"

/-- The name of the variable that stands in for an option. -/
def Name.variable (name : Name) : String := variablePrefix ++ name.key

def noJournalVariable : String := variablePrefix ++ noJournalKey

example : Name.cursorTimeout.variable = "EMBERLITE_CURSOR_TIMEOUT_SECS" := by decide

def Name.ofText? (s : String) : Option Name :=
  [dbpath, batchSize, cursorTimeout].find? (·.text = s)

/-- The options that arguments give, as texts. -/
structure Given where
  value : Name → Option String
  noJournal : Bool

def Given.none : Given := ⟨fun _ => Option.none, false⟩

/-- Give an option a value. No option is given twice, and no value is empty. -/
def Given.put (g : Given) (name : Name) (value : String) : Except ArgumentFault Given :=
  match g.value name with
  | some _ => .error (.repeated name.text)
  | Option.none =>
    if value.isEmpty then .error (.missingValue name.text)
    else .ok { g with value := fun n => if n = name then some value else g.value n }

/-- An argument's name and the value behind an equals sign, if there is one. -/
def splitArgument (arg : String) : String × Option String :=
  let cs := arg.toList
  let name := cs.takeWhile (· != '=')
  match cs.drop name.length with
  | _ :: value => (String.ofList name, some (String.ofList value))
  | [] => (arg, none)

/-- Whether an argument of its own can be a value: it does not begin with a hyphen, or is just
one. -/
def isValue (arg : String) : Bool := arg = "-" || arg.toList.head? != some '-'

/-- The options that arguments give. Two hyphens may stand at the end. -/
def readArguments : Given → List String → Except ArgumentFault Given
  | g, [] => .ok g
  | g, arg :: rest =>
    if arg = "--" then
      match rest with
      | [] => .ok g
      | next :: _ => .error (.unexpected next)
    else if arg = noJournalText then
      if g.noJournal then .error (.repeated arg)
      else readArguments { g with noJournal := true } rest
    else
      let (text, value) := splitArgument arg
      match Name.ofText? text, value with
      | some name, some value =>
        match g.put name value with
        | .ok g => readArguments g rest
        | .error e => .error e
      | some name, none =>
        match rest with
        | [] => .error (.missingValue text)
        | next :: rest =>
          if isValue next then
            match g.put name next with
            | .ok g => readArguments g rest
            | .error e => .error e
          else .error (.missingValue text)
      | none, _ =>
        if text = noJournalText then .error (.unwantedValue text) else .error (.unexpected arg)

/-! ## Values -/

/-- The text of an option: the given one, else that of its variable. -/
def textOf (g : Given) (lookup : String → Option String) (name : Name) :
    Except ArgumentFault (Option String) :=
  match g.value name with
  | some value => .ok (some value)
  | none =>
    match lookup name.key with
    | some value => if value.isEmpty then .error (.missingValue name.text) else .ok (some value)
    | none => .ok none

/-- The number of an option, or what it is when nothing is said. -/
def numberOf (g : Given) (lookup : String → Option String) (name : Name) (unsaid : Nat) :
    Except ArgumentFault Nat := do
  match ← textOf g lookup name with
  | none => .ok unsaid
  | some value =>
    match Path.natOfText? value with
    | some n => .ok n
    | none => .error (.invalidValue name.text value)

/-- Whether the option without a value is set: given, or `true` in its variable. -/
def flagOf (g : Given) (lookup : String → Option String) : Except ArgumentFault Bool :=
  if g.noJournal then .ok true
  else
    match lookup noJournalKey with
    | none => .ok false
    | some "true" => .ok true
    | some "false" => .ok false
    | some value => .error (.invalidValue noJournalText value)

/-- The options that arguments and variables give; a variable is looked up by its key. -/
def read (lookup : String → Option String) (args : List String) :
    Except ArgumentFault Options := do
  let g ← readArguments .none args
  let dbpath ← textOf g lookup .dbpath
  let batchSize ← numberOf g lookup .batchSize 101
  let cursorTimeout ← numberOf g lookup .cursorTimeout 600
  let noJournal ← flagOf g lookup
  if batchSize = 0 then .error .zeroBatchSize
  else .ok { dbpath, batchSize, cursorTimeout, noJournal }

/-- The options that arguments and variables give, or the error that the engine reports. A batch has to
hold at least one document. -/
def ofArguments (lookup : String → Option String) (args : List String) :
    Except EngineError Options :=
  (read lookup args).mapError .invalidArgument

/-- The options that an engine is started with by arguments, in an environment. -/
def ofEnvironment (environment : String → Option String) (args : List String) :
    Except EngineError Options :=
  ofArguments (fun key => environment (variablePrefix ++ key)) args

end Options

end DocStore
