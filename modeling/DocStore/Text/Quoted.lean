import DocStore.Unicode.CaseFold
import DocStore.Unicode.Property

/-!
# DocStore — quoted text

A text between double quotes, with everything in it visible. A quote and a backslash are escaped,
line breaks, tabs and the null character have letters, and what has no shape of its own is written
by its code in hexadecimal digits. Everything else stands as it is.
-/

namespace DocStore

namespace Text

/-- Characters without a shape: controls, formats, private and unassigned codes, separators other
than the space, and marks that extend the character before them. -/
def shapeless : Unicode.CharSet :=
  .unionAll [Unicode.Category.other, Unicode.Category.separator, Unicode.Property.graphemeExtend]

/-- Whether a character is written as it is. -/
def isShown (c : Char) : Bool :=
  if c.toNat < 0x7f then ' ' ≤ c && c != '"' && c != '\\' else !shapeless.contains c

/-- A character inside quotes. -/
def quotedChar (c : Char) : List Char :=
  if isShown c then [c]
  else
    match c with
    | '"' => ['\\', '"']
    | '\\' => ['\\', '\\']
    | '\n' => ['\\', 'n']
    | '\r' => ['\\', 'r']
    | '\t' => ['\\', 't']
    | '\x00' => ['\\', '0']
    | c => ['\\', 'u', '\x7b'] ++ Nat.toDigits 16 c.toNat ++ ['\x7d']

/-- A text between quotes. -/
def quoted (s : String) : String :=
  String.ofList (['"'] ++ s.toList.flatMap quotedChar ++ ['"'])

end Text

end DocStore
