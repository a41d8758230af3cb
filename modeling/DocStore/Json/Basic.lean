import DocStore.Binary64.Basic
import DocStore.Fields

/-!
# DocStore — JSON values

A value is what a field of a document holds. A number remembers its kind: an integer, or a double.
The two kinds meet only in `Number.value`, the double nearest to the number, through which numbers
of either kind are compared; under JSON equality (`Value.equal`) numbers of different kinds differ,
and the order of the fields of an object does not count.
-/

namespace DocStore

/-- A JSON number. A text without point and exponent is an integer when 64 bits, signed or
unsigned, hold it; all others are doubles. -/
inductive Number where
  | int (n : Int)
  | double (x : Binary64.Finite)
deriving DecidableEq, Repr

/-- A JSON value. -/
inductive Value where
  | null
  | bool (b : Bool)
  | number (n : Number)
  | string (s : String)
  | array (items : List Value)
  | object (fields : List (String × Value))
deriving Repr, Inhabited

namespace Number

/-- The double nearest to a number: itself for a double. -/
def value : Number → Binary64.Finite
  | int n => .ofInt n
  | double x => x

/-- The order of two numbers by their doubles. -/
def compare (a b : Number) : Ordering := a.value.compare b.value

/-- Whether the doubles of two numbers are equal. -/
def sameValue (a b : Number) : Bool := a.value.equal b.value

/-- Whether two numbers are equal and of one kind. -/
def equal : Number → Number → Bool
  | int m, int n => m == n
  | double x, double y => x.equal y
  | _, _ => false

/-- The number of an integer: past 64 bits it is a double. -/
def ofInt (n : Int) : Number :=
  if -(2 ^ 63) ≤ n ∧ n < 2 ^ 64 then int n else double (.ofInt n)

end Number

namespace Value

/-- The value of a count. -/
def ofNat (n : Nat) : Value := number (.int n)

/-- The value of an integer of 64 bits. -/
def ofInt (n : Int) : Value := number (.int n)

/-! ## The kinds of values -/

/-- The name of a value's kind, by which `$type` knows it. -/
def kind : Value → String
  | null => "null"
  | bool _ => "bool"
  | number (.double _) => "double"
  | number (.int _) => "long"
  | string _ => "string"
  | array _ => "array"
  | object _ => "object"

def isNull : Value → Bool
  | null => true
  | _ => false

def isArray : Value → Bool
  | array _ => true
  | _ => false

def asBool? : Value → Option Bool
  | bool b => some b
  | _ => none

def asString? : Value → Option String
  | string s => some s
  | _ => none

def asArray? : Value → Option (List Value)
  | array vs => some vs
  | _ => none

def asObject? : Value → Option (Fields Value)
  | object fs => some fs
  | _ => none

/-- The double of a number. -/
def asDouble? : Value → Option Binary64.Finite
  | number n => some n.value
  | _ => none

/-- An integer of 64 bits with a sign. -/
def asInt? : Value → Option Int
  | number (.int n) => if n < 2 ^ 63 then some n else none
  | _ => none

/-- An integer of 64 bits without a sign. -/
def asNat? : Value → Option Nat
  | number (.int n) => if 0 ≤ n then some n.toNat else none
  | _ => none

/-! ## JSON equality -/

mutual

/-- Equality of values: numbers of one kind by their value, arrays item by item, objects by their
fields in any order. -/
def equal : Value → Value → Bool
  | null, null => true
  | bool a, bool b => a == b
  | number m, number n => m.equal n
  | string s, string t => s == t
  | array vs, array ws => equalItems vs ws
  | object fs, object gs => fs.length == gs.length && fieldsWithin fs gs
  | _, _ => false

/-- Equality of two lists of values, item by item. -/
def equalItems : List Value → List Value → Bool
  | [], [] => true
  | v :: vs, w :: ws => v.equal w && equalItems vs ws
  | _, _ => false

/-- Whether every field of the first object is in the second one with an equal value. -/
def fieldsWithin : List (String × Value) → List (String × Value) → Bool
  | [], _ => true
  | (name, v) :: rest, gs =>
    (match gs.lookup name with
      | some w => v.equal w
      | none => false) && fieldsWithin rest gs

end

end Value

end DocStore
