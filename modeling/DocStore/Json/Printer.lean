import DocStore.Binary64.Decimal
import DocStore.Json.Basic

/-!
# DocStore — the compact text of a JSON value

`Value.text` writes a value without spaces, the fields of objects in their order. The same text is
the key by which `_id`s are told apart, the key of a group, and the payload of a journal record, so
every other module that needs a text takes it from here.
-/

namespace DocStore

namespace Json

/-- A hexadecimal digit, in lower case. -/
def hexDigit (n : Nat) : Char :=
  if n < 10 then Char.ofNat (n + 48) else Char.ofNat (n + 87)

/-- How one character is written inside a string. Only the quote, the backslash and the characters
below the space are escaped; those with a short escape use it. -/
def escape (c : Char) : List Char :=
  if c = '"' then ['\\', '"']
  else if c = '\\' then ['\\', '\\']
  else if c = '\x08' then ['\\', 'b']
  else if c = '\x0c' then ['\\', 'f']
  else if c = '\n' then ['\\', 'n']
  else if c = '\r' then ['\\', 'r']
  else if c = '\t' then ['\\', 't']
  else if c.toNat < 32 then
    ['\\', 'u', '0', '0', hexDigit (c.toNat / 16), hexDigit (c.toNat % 16)]
  else [c]

/-- A string between quotes. -/
def quoted (s : String) : List Char := '"' :: (s.toList.flatMap escape ++ ['"'])

end Json

/-- The text of a number: an integer in decimal, a double as `Layout.json` lays it out. -/
def Number.chars : Number → List Char
  | .int n => if n < 0 then '-' :: Binary64.digitChars n.natAbs else Binary64.digitChars n.natAbs
  | .double x => x.chars .json

namespace Value

open Json

mutual

/-- The characters of a value's text. -/
def chars : Value → List Char
  | null => ['n', 'u', 'l', 'l']
  | bool true => ['t', 'r', 'u', 'e']
  | bool false => ['f', 'a', 'l', 's', 'e']
  | number n => n.chars
  | string s => quoted s
  | array vs => '[' :: (itemChars vs ++ [']'])
  | object fs => '{' :: (fieldChars fs ++ ['}'])

/-- Values with commas between them. -/
def itemChars : List Value → List Char
  | [] => []
  | v :: [] => v.chars
  | v :: w :: rest => v.chars ++ ',' :: itemChars (w :: rest)

/-- Named values with commas between them. -/
def fieldChars : List (String × Value) → List Char
  | [] => []
  | (name, v) :: [] => quoted name ++ ':' :: v.chars
  | (name, v) :: f :: rest => quoted name ++ ':' :: (v.chars ++ ',' :: fieldChars (f :: rest))

end

/-- The compact text of a value. -/
def text (v : Value) : String := String.ofList v.chars

end Value

end DocStore
