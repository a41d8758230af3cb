import DocStore.Binary64.Basic
import DocStore.Json.Basic

/-!
# DocStore — reading JSON

`Value.parse?` reads one value with blanks around it, and `Json.parseEntries?` an object whose
repeated names are still to be judged by the caller. Inside a value a repeated name counts once:
the last entry of the name, in the first one's place. A double is read in two steps, its digits and then
the power of ten, each with a rounding of its own (`Json.scale`), so it need not be the nearest one.

The readers take characters from the front of a list and return what they read with the characters
that are left. Each call spends one
unit of fuel, of which the text's length gives more than enough, so they are total by the structure
of the fuel. Arrays and objects nest at most `Json.greatestDepth` deep.
-/

namespace DocStore

namespace Json

/-- The deepest nesting of arrays and objects that is read. -/
def greatestDepth : Nat := 127

/-- The blanks that may stand between the parts of a value. -/
def isBlank (c : Char) : Bool := c = ' ' || c = '\n' || c = '\t' || c = '\r'

def skipBlanks (cs : List Char) : List Char := cs.dropWhile isBlank

/-! ## Strings -/

/-- The value of a hexadecimal digit of either case. -/
def hexValue? (c : Char) : Option Nat :=
  if c.isDigit then some (c.toNat - 48)
  else if 'a' ≤ c ∧ c ≤ 'f' then some (c.toNat - 87)
  else if 'A' ≤ c ∧ c ≤ 'F' then some (c.toNat - 55)
  else none

/-- Four hexadecimal digits. -/
def hexQuad : List Char → Option (Nat × List Char)
  | a :: b :: c :: d :: rest => do
    let a ← hexValue? a
    let b ← hexValue? b
    let c ← hexValue? c
    let d ← hexValue? d
    some (((a * 16 + b) * 16 + c) * 16 + d, rest)
  | _ => none

/-- The character of an escape `\u`, after the `u`. A code beyond the sixteen bits is a pair of
surrogates; a surrogate on its own is refused. -/
def unicodeEscape (cs : List Char) : Option (Char × List Char) := do
  let (hi, rest) ← hexQuad cs
  if 0xD800 ≤ hi ∧ hi < 0xDC00 then
    match rest with
    | '\\' :: 'u' :: rest =>
      let (lo, rest) ← hexQuad rest
      if 0xDC00 ≤ lo ∧ lo < 0xE000 then
        some (Char.ofNat (0x10000 + (hi - 0xD800) * 0x400 + (lo - 0xDC00)), rest)
      else none
    | _ => none
  else if 0xDC00 ≤ hi ∧ hi < 0xE000 then none
  else some (Char.ofNat hi, rest)

/-- The character of an escape, after the backslash. -/
def escaped : List Char → Option (Char × List Char)
  | '"' :: rest => some ('"', rest)
  | '\\' :: rest => some ('\\', rest)
  | '/' :: rest => some ('/', rest)
  | 'b' :: rest => some ('\x08', rest)
  | 'f' :: rest => some ('\x0c', rest)
  | 'n' :: rest => some ('\n', rest)
  | 'r' :: rest => some ('\r', rest)
  | 't' :: rest => some ('\t', rest)
  | 'u' :: rest => unicodeEscape rest
  | _ => none

/-- The rest of a string after its opening quote; `read` holds the characters so far, the last one
first. A character below the space has to be escaped. -/
def stringTail : Nat → List Char → List Char → Option (String × List Char)
  | 0, _, _ => none
  | fuel + 1, read, cs =>
    match cs with
    | [] => none
    | '"' :: rest => some (String.ofList read.reverse, rest)
    | '\\' :: rest =>
      match escaped rest with
      | some (c, rest) => stringTail fuel (c :: read) rest
      | none => none
    | c :: rest => if c.toNat < 32 then none else stringTail fuel (c :: read) rest

/-- A string, from its opening quote. -/
def stringAt : List Char → Option (String × List Char)
  | '"' :: rest => stringTail (rest.length + 1) [] rest
  | _ => none

/-! ## Numbers -/

/-- The number that a run of decimal digits denotes. -/
def natOfDigits (ds : List Char) : Nat := ds.foldl (fun n c => n * 10 + (c.toNat - 48)) 0

/-- The integer part: no zero stands in front of another digit. -/
def integerDigits (cs : List Char) : Option (List Char × List Char) :=
  let ds := cs.takeWhile Char.isDigit
  match ds with
  | [] => none
  | '0' :: _ :: _ => none
  | _ => some (ds, cs.drop ds.length)

/-- The digits behind a point, if there is a point. -/
def fractionDigits : List Char → Option (Option (List Char) × List Char)
  | '.' :: rest =>
    let ds := rest.takeWhile Char.isDigit
    if ds.isEmpty then none else some (some ds, rest.drop ds.length)
  | cs => some (none, cs)

/-- The exponent, if there is one. -/
def exponent (cs : List Char) : Option (Option Int × List Char) :=
  match cs with
  | mark :: rest =>
    if mark = 'e' || mark = 'E' then
      let (negative, rest) := match rest with
        | '-' :: rest => (true, rest)
        | '+' :: rest => (false, rest)
        | _ => (false, rest)
      let ds := rest.takeWhile Char.isDigit
      if ds.isEmpty then none
      else
        let n : Int := natOfDigits ds
        some (some (if negative then -n else n), rest.drop ds.length)
    else some (none, cs)
  | [] => some (none, cs)

/-- Digits, put behind those of a number as long as 64 bits hold it. The answer is the number, and how
many digits are left over. -/
def holdDigits : Nat → List Char → Nat × Nat
  | n, [] => (n, 0)
  | n, c :: cs =>
    let next := n * 10 + (c.toNat - 48)
    if next < 2 ^ 64 then holdDigits next cs else (n, cs.length + 1)

/-- The greatest power of ten that is a double. -/
def greatestPower : Nat := 308

/-- The double nearest to a power of ten. -/
def powerOfTen (n : Nat) : Binary64.Finite :=
  match Binary64.ofDecimal false 1 n with
  | .finite x => x
  | _ => .greatest false

/-- Divide by the greatest power of ten so many times, or until nothing is left. -/
def divideDown : Nat → Binary64 → Binary64
  | 0, x => x
  | times + 1, x =>
    if x = .finite (.zero false) then x
    else divideDown times (x.divFinite (powerOfTen greatestPower))

/--
The double that a number of 64 bits is read as, with a power of ten behind it. Both are rounded to
doubles, and their product or quotient is rounded again, so this may be a neighbour of the nearest double.
-/
def scale (held : Nat) (exp10 : Int) : Binary64 :=
  let x := Binary64.Finite.ofInt held
  if 0 ≤ exp10 then
    if exp10 ≤ greatestPower then x.mul (powerOfTen exp10.toNat)
    else if held = 0 then .finite x
    else .infinite false
  else
    let times := (exp10.natAbs - 1) / greatestPower
    (divideDown times (.finite x)).divFinite (powerOfTen (exp10.natAbs - greatestPower * times))

/-- The double of a decimal text, unless it lies beyond the finite ones. -/
def doubleOf (negative : Bool) (held : Nat) (exp10 : Int) : Option Number :=
  match scale held exp10 with
  | .finite x => some (.double { x with negative := negative })
  | _ => none

/-- The number of an integer text. The negative zero is a double. -/
def integerOf (negative : Bool) (held left : Nat) : Option Number :=
  if left ≠ 0 then doubleOf negative held left
  else if negative then
    if held = 0 ∨ 2 ^ 63 < held then doubleOf true held 0 else some (.int (-(held : Int)))
  else some (.int held)

/-- The number of a text with these parts. -/
def numberOf (negative : Bool) (whole : List Char) (fraction : Option (List Char))
    (exp10 : Option Int) : Option Number :=
  let (held, left) := holdDigits 0 whole
  match fraction, exp10 with
  | none, none => integerOf negative held left
  | _, _ =>
    let behind := fraction.getD []
    let (held, dropped) := holdDigits held behind
    doubleOf negative held (exp10.getD 0 + left - (behind.length - dropped : Nat))

/-- A number, from its sign or first digit. -/
def numberAt (cs : List Char) : Option (Number × List Char) := do
  let (negative, cs) := match cs with
    | '-' :: rest => (true, rest)
    | _ => (false, cs)
  let (whole, cs) ← integerDigits cs
  let (fraction, cs) ← fractionDigits cs
  let (exp10, cs) ← exponent cs
  let n ← numberOf negative whole fraction exp10
  some (n, cs)

/-! ## Values -/

mutual

/-- One value, with blanks before it allowed; `depth` is how much deeper it may nest. -/
def valueAt : Nat → Nat → List Char → Option (Value × List Char)
  | 0, _, _ => none
  | fuel + 1, depth, cs =>
    match skipBlanks cs with
    | 'n' :: 'u' :: 'l' :: 'l' :: rest => some (.null, rest)
    | 't' :: 'r' :: 'u' :: 'e' :: rest => some (.bool true, rest)
    | 'f' :: 'a' :: 'l' :: 's' :: 'e' :: rest => some (.bool false, rest)
    | '"' :: rest => (stringAt ('"' :: rest)).map fun (s, rest) => (.string s, rest)
    | '[' :: rest =>
      match depth with
      | 0 => none
      | depth + 1 =>
        match skipBlanks rest with
        | ']' :: rest => some (.array [], rest)
        | rest => (itemsAt fuel depth rest).map fun (vs, rest) => (.array vs, rest)
    | '{' :: rest =>
      match depth with
      | 0 => none
      | depth + 1 =>
        (bodyAt fuel depth rest).map fun (es, rest) => (.object (Fields.ofEntries es), rest)
    | rest => (numberAt rest).map fun (n, rest) => (.number n, rest)
termination_by structural fuel => fuel

/-- The items of an array up to its closing bracket; there is at least one. -/
def itemsAt : Nat → Nat → List Char → Option (List Value × List Char)
  | 0, _, _ => none
  | fuel + 1, depth, cs =>
    match valueAt fuel depth cs with
    | none => none
    | some (v, rest) =>
      match skipBlanks rest with
      | ']' :: rest => some ([v], rest)
      | ',' :: rest => (itemsAt fuel depth rest).map fun (vs, rest) => (v :: vs, rest)
      | _ => none

/-- The entries of an object after its opening brace, up to the closing one. -/
def bodyAt : Nat → Nat → List Char → Option (List (String × Value) × List Char)
  | 0, _, _ => none
  | fuel + 1, depth, cs =>
    match skipBlanks cs with
    | '}' :: rest => some ([], rest)
    | rest => entriesAt fuel depth rest

/-- The entries of an object up to its closing brace; there is at least one. Repeated names are
kept. -/
def entriesAt : Nat → Nat → List Char → Option (List (String × Value) × List Char)
  | 0, _, _ => none
  | fuel + 1, depth, cs =>
    match stringAt (skipBlanks cs) with
    | none => none
    | some (name, rest) =>
      match skipBlanks rest with
      | ':' :: rest =>
        match valueAt fuel depth rest with
        | none => none
        | some (v, rest) =>
          match skipBlanks rest with
          | '}' :: rest => some ([(name, v)], rest)
          | ',' :: rest => (entriesAt fuel depth rest).map fun (es, rest) => ((name, v) :: es, rest)
          | _ => none
      | _ => none

end

/-- What a reader read, when only blanks are left. -/
def complete {α : Type} : Option (α × List Char) → Option α
  | some (a, rest) => if (skipBlanks rest).isEmpty then some a else none
  | none => none

/-- More fuel than reading the characters can spend. -/
def enoughFuel (cs : List Char) : Nat := 2 * cs.length + 2

/-- The entries of a text that is one object, in order and with repeated names. -/
def parseEntries? (s : String) : Option (List (String × Value)) :=
  let cs := s.toList
  match skipBlanks cs with
  | '{' :: rest => complete (bodyAt (enoughFuel cs) (greatestDepth - 1) rest)
  | _ => none

end Json

/-- The value that a text denotes. -/
def Value.parse? (s : String) : Option Value :=
  let cs := s.toList
  Json.complete (Json.valueAt (Json.enoughFuel cs) Json.greatestDepth cs)

end DocStore
