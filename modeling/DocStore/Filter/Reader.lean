import DocStore.Filter.Basic
import DocStore.Regex.Reader

/-!
# DocStore — reading filters

A filter is written as an object (`Filter.ofValue`). A name that begins with a dollar sign combines
filters; every other name is a path, with either an object of operators or a value to be equal to.
What is wrong with a filter is found in the order in which it is written.
-/

namespace DocStore

/-- Whether a name is that of an operator. -/
def isOperatorName (name : String) : Bool := name.toList.head? == some '$'

/-- Whether an object is one of operators, by its first name. -/
def isOperatorObject : List (String × Value) → Bool
  | [] => false
  | (name, _) :: _ => isOperatorName name

/-- The flags that the letters of `$options` stand for. -/
def regexFlags : Regex.Flags → List Char → Except FilterFault Regex.Flags
  | f, [] => .ok f
  | f, c :: cs =>
    match c with
    | 'i' => regexFlags { f with anyCase := true } cs
    | 'm' => regexFlags { f with multiLine := true } cs
    | 's' => regexFlags { f with dotAll := true } cs
    | 'x' => regexFlags { f with spaced := true } cs
    | _ => .error (.optionsFlag c)

/-- The expression of `$regex`, under the `$options` beside it. -/
def readPattern (pattern : String) (options : Option Value) : Except FilterFault Regex := do
  let letters ← match options with
    | none => .ok []
    | some (.string s) => .ok s.toList
    | some _ => .error .optionsOperand
  let flags ← regexFlags {} letters
  match Regex.ofPattern? flags pattern with
  | some r => .ok r
  | none => .error (.pattern pattern)

/-- The operand of an operator on several values. -/
def readTargets (operator : String) : Value → Except FilterFault (List Value)
  | .array vs => .ok vs
  | _ => .error (.arrayRequired operator)

/-- The operand of `$exists`: a truth value, or a number that is not zero for true. -/
def readPresence : Value → Except FilterFault Bool
  | .bool b => .ok b
  | .number n => .ok (n.value.units != 0)
  | _ => .error .existsOperand

namespace FieldTest

/-- The test of an operator other than `$not`; `siblings` are all the operators of the object it is
in. `$options` makes no test of its own: it belongs to the `$regex` beside it. -/
def ofOperator (siblings : List (String × Value)) (operator : String) (operand : Value) :
    Except FilterFault (Option FieldTest) :=
  match operator with
  | "$eq" => .ok (some (.eq operand))
  | "$ne" => .ok (some (.ne operand))
  | "$gt" => .ok (some (.gt operand))
  | "$gte" => .ok (some (.gte operand))
  | "$lt" => .ok (some (.lt operand))
  | "$lte" => .ok (some (.lte operand))
  | "$in" => (readTargets operator operand).map fun vs => some (.oneOf vs)
  | "$nin" => (readTargets operator operand).map fun vs => some (.noneOf vs)
  | "$exists" => (readPresence operand).map fun b => some (.present b)
  | "$type" =>
    match operand with
    | .string s => .ok (some (.kind s))
    | _ => .error .typeOperand
  | "$regex" =>
    match operand with
    | .string s => (readPattern s (Fields.find? siblings "$options")).map (some <| .pattern ·)
    | _ => .error .regexOperand
  | "$options" =>
    if Fields.contains siblings "$regex" then .ok none else .error .optionsWithoutRegex
  | _ => .error (.unknownOperator operator)

mutual

/-- The tests that a value of a field condition stands for: the operators of an object of operators,
else equality with the value. -/
def ofValue : Value → Except FilterFault (List FieldTest)
  | .object fs => if isOperatorObject fs then ofOperators fs fs else .ok [.eq (.object fs)]
  | .null => .ok [.eq .null]
  | .bool b => .ok [.eq (.bool b)]
  | .number n => .ok [.eq (.number n)]
  | .string s => .ok [.eq (.string s)]
  | .array vs => .ok [.eq (.array vs)]

/-- The tests of operators; the operand of `$not` is itself a field condition. -/
def ofOperators (siblings : List (String × Value)) :
    List (String × Value) → Except FilterFault (List FieldTest)
  | [] => .ok []
  | (operator, operand) :: rest => do
    let test ← if operator = "$not" then (ofValue operand).map fun tests => some (.not tests)
      else ofOperator siblings operator operand
    let tests ← ofOperators siblings rest
    .ok (test.toList ++ tests)

end

end FieldTest

namespace Filter

/-- The filter that a logical operator makes of others. -/
def combine (operator : String) (filters : List Filter) : Except FilterFault Filter :=
  match operator with
  | "$and" => .ok (.every filters)
  | "$or" => .ok (.any filters)
  | "$nor" => .ok (.none filters)
  | _ => .error (.unknownLogical operator)

mutual

/-- The filter that a value stands for; null stands for the one without conditions. -/
def read : Value → Except FilterFault Filter
  | .null => .ok .all
  | .object fs => (readEntries fs).map .every
  | .bool b => .error (.notADocument (Value.bool b).kind)
  | .number n => .error (.notADocument (Value.number n).kind)
  | .string s => .error (.notADocument (Value.string s).kind)
  | .array vs => .error (.notADocument (Value.array vs).kind)

/-- The conditions of a filter object. -/
def readEntries : List (String × Value) → Except FilterFault (List Filter)
  | [] => .ok []
  | (name, v) :: rest => do
    let f ← if isOperatorName name then readLogical name v
      else (FieldTest.ofValue v).map (.field name ·)
    let fs ← readEntries rest
    .ok (f :: fs)

/-- The condition of a logical operator, whose operand is an array of filters. -/
def readLogical (operator : String) : Value → Except FilterFault Filter
  | .array vs => do
    let fs ← readItems vs
    combine operator fs
  | _ => .error (.arrayRequired operator)

/-- The filters of an array. -/
def readItems : List Value → Except FilterFault (List Filter)
  | [] => .ok []
  | v :: vs => do
    let f ← read v
    let fs ← readItems vs
    .ok (f :: fs)

end

/-- The filter that a value stands for, or the error that the engine reports. -/
def ofValue (v : Value) : Except EngineError Filter := (read v).mapError .invalidQuery

end Filter

end DocStore
