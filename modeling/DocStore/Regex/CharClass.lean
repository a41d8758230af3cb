import DocStore.Regex.Basic
import DocStore.Unicode.Age
import DocStore.Unicode.Break
import DocStore.Unicode.CaseFold
import DocStore.Unicode.ScriptExtension

/-!
# DocStore — escapes and character classes of patterns

The parts of a pattern's text that stand for one character or for a place: escapes, and classes
between brackets. Each reader takes characters from the front and returns what it read with the
rest; `none` refuses the pattern.

Under the flag `u`, which is on unless a pattern takes it back, sets range over all characters.
Without it they range over bytes, and a set that would hold bytes beyond ASCII is refused, because a
text is not made of such bytes.
-/

namespace DocStore

open Unicode

namespace Regex

/-- The flags of a pattern. -/
structure Flags where
  /-- `i`: letters match in either case. -/
  anyCase : Bool := false
  /-- `m`: `^` and `$` match at lines. -/
  multiLine : Bool := false
  /-- `s`: the point matches line ends too. -/
  dotAll : Bool := false
  /-- `U`: repetitions prefer fewer, unless marked otherwise. -/
  fewest : Bool := false
  /-- `x`: blanks and comments do not count. -/
  spaced : Bool := false
  /-- `u`: sets range over all characters. -/
  unicode : Bool := true
  /-- `R`: carriage returns end lines too. -/
  anyLine : Bool := false
deriving DecidableEq, Repr

/-! ## Blanks and comments -/

def isBlank (c : Char) : Bool := Property.whiteSpace.contains c

mutual

/-- The text without the blanks and comments in front. -/
def dropSpaced : List Char → List Char
  | [] => []
  | c :: cs => if isBlank c then dropSpaced cs else if c = '#' then dropComment cs else c :: cs

/-- The text after a comment, which the line feed ends. -/
def dropComment : List Char → List Char
  | [] => []
  | c :: cs => if c = '\n' then dropSpaced cs else dropComment cs

end

/-- The text from the next part that counts. -/
def skip (f : Flags) (cs : List Char) : List Char := if f.spaced then dropSpaced cs else cs

/-! ## Sets under the flags -/

/-- A set with the letters of both cases if the flags say so, and taken the other way round if it is
negated. -/
def closeSet (f : Flags) (negated : Bool) (set : CharSet) : Option CharSet :=
  let set := if f.anyCase then
      if f.unicode then set.anyCase
      else set.anyCase.inter (.range '\x00' '\x7f')
    else set
  if negated then if f.unicode then some set.compl else none
  else some set

def asciiDigit : CharSet := .range '0' '9'

def asciiSpace : CharSet := .ofText "9-D 20"

def asciiWord : CharSet := .ofText "30-39 41-5A 5F 61-7A"

/-- The letters that words are made of. -/
def wordLetters (f : Flags) : CharSet := if f.unicode then Property.word else asciiWord

/-- The set of a letter escape, in lower case. -/
def letterSet (f : Flags) : Char → CharSet
  | 'd' => if f.unicode then Category.nd else asciiDigit
  | 's' => if f.unicode then Property.whiteSpace else asciiSpace
  | _ => wordLetters f

/-- The sets with a name between colons. -/
def posixSet? : String → Option CharSet
  | "alnum" => some (.ofText "30-39 41-5A 61-7A")
  | "alpha" => some (.ofText "41-5A 61-7A")
  | "ascii" => some (.ofText "0-7F")
  | "blank" => some (.ofText "9 20")
  | "cntrl" => some (.ofText "0-1F 7F")
  | "digit" => some (.ofText "30-39")
  | "graph" => some (.ofText "21-7E")
  | "lower" => some (.ofText "61-7A")
  | "print" => some (.ofText "20-7E")
  | "punct" => some (.ofText "21-2F 3A-40 5B-60 7B-7E")
  | "space" => some (.ofText "9-D 20")
  | "upper" => some (.ofText "41-5A")
  | "word" => some (.ofText "30-39 41-5A 5F 61-7A")
  | "xdigit" => some (.ofText "30-39 41-46 61-66")
  | _ => none

/-! ## Properties -/

/-- A name as it is looked up: in lower case, without separators and without `is` in front. -/
def looseName (name : List Char) : String :=
  let (hasIs, rest) := match name with
    | i :: s :: rest =>
      if (i = 'i' || i = 'I') && (s = 's' || s = 'S') then (true, rest) else (false, name)
    | _ => (false, name)
  let kept := rest.filter fun c => c != ' ' && c != '_' && c != '-' && c.toNat < 128
  let low := String.ofList (kept.map Char.toLower)
  if hasIs && low = "c" then "isc" else low

/-- The set of a property, a category or a script. A few category names are properties' names
too, and are taken for the category. -/
def namedSet? (name : List Char) : Option CharSet :=
  let name := looseName name
  let property := if name = "cf" || name = "sc" || name = "lc" then none
    else NamedSet.find? Property.all name
  match property with
  | some set => some set
  | none =>
    match NamedSet.find? Category.all name with
    | some set => some set
    | none => NamedSet.find? Script.all name

/-- The sets of one kind, by the name of the kind. -/
def setsOfKind : String → List NamedSet
  | "gc" | "generalcategory" => Category.all
  | "sc" | "script" => Script.all
  | "scx" | "scriptextensions" => ScriptExtension.all
  | "age" => Age.all
  | "gcb" | "graphemeclusterbreak" => ClusterBreak.all
  | "wb" | "wordbreak" => WordBreak.all
  | "sb" | "sentencebreak" => SentenceBreak.all
  | _ => []

/-- The set that is given with the kind of its name. -/
def valueSet? (kind value : List Char) : Option CharSet :=
  NamedSet.find? (setsOfKind (looseName kind)) (looseName value)

/-- The text split at the first place where `sep` stands. -/
def splitAt? (sep : List Char) : List Char → Option (List Char × List Char)
  | [] => none
  | c :: cs =>
    if sep.isPrefixOf (c :: cs) then some ([], (c :: cs).drop sep.length)
    else
      match splitAt? sep cs with
      | some (before, after) => some (c :: before, after)
      | none => none

/-- The set of a property's text between braces, and whether the text negates it. -/
def propertySet? (text : List Char) : Option (CharSet × Bool) :=
  match splitAt? ['!', '='] text with
  | some (kind, value) => (valueSet? kind value).map fun set => (set, true)
  | none =>
    match splitAt? [':'] text with
    | some (kind, value) => (valueSet? kind value).map fun set => (set, false)
    | none =>
      match splitAt? ['='] text with
      | some (kind, value) => (valueSet? kind value).map fun set => (set, false)
      | none => (namedSet? text).map fun set => (set, false)

/-- The characters up to a closing brace, blanks left out if the flags say so. -/
def braced (f : Flags) : Nat → List Char → Option (List Char × List Char)
  | 0, _ => none
  | fuel + 1, cs =>
    match skip f cs with
    | [] => none
    | '}' :: rest => some ([], rest)
    | c :: rest => (braced f fuel rest).map fun (cs, rest) => (c :: cs, rest)

/-- A property, after `\p` or `\P`. -/
def property (f : Flags) (negated : Bool) (cs : List Char) : Option (CharSet × List Char) := do
  let (set, other, rest) ← match skip f cs with
    | [] => none
    | '{' :: rest => do
      let (text, rest) ← braced f (rest.length + 1) rest
      let (set, other) ← propertySet? text
      some (set, other, rest)
    | c :: rest => do
      if c = '\\' then none
      let set ← namedSet? [c]
      some (set, false, skip f rest)
  if f.unicode then
    let set ← closeSet f (negated != other) set
    some (set, rest)
  else none

/-! ## Escapes -/

/-- What an escape or a plain character of a class stands for. -/
inductive Primitive where
  | literal (c : Char)
  | set (s : CharSet)
  | look (l : Look)

/-- The character of a code. -/
def charOfCode? (code : Nat) : Option Char :=
  if code.isValidChar then some (Char.ofNat code) else none

/-- The value of a hexadecimal digit. -/
def hexValue? (c : Char) : Option Nat :=
  if c.isDigit then some (c.toNat - 48)
  else if 'a' ≤ c ∧ c ≤ 'f' then some (c.toNat - 87)
  else if 'A' ≤ c ∧ c ≤ 'F' then some (c.toNat - 55)
  else none

/-- `n` hexadecimal digits, behind the number that those before them denote. -/
def hexDigits (f : Flags) : Nat → Nat → List Char → Option (Nat × List Char)
  | 0, code, cs => some (code, cs)
  | n + 1, code, cs =>
    match cs with
    | [] => none
    | c :: rest =>
      match hexValue? c with
      | some d => hexDigits f n (code * 16 + d) (skip f rest)
      | none => none

/-- A character by its code, after `x`, `u` or `U`: in braces, or in as many digits as the letter
asks for. Without the flag `u`, two digits stand for a byte, which has to be ASCII. -/
def hexEscape (f : Flags) (letter : Char) (cs : List Char) : Option (Char × List Char) :=
  match skip f cs with
  | [] => none
  | '{' :: rest => do
    let (digits, rest) ← braced f (rest.length + 1) rest
    if digits.isEmpty then none
    let (code, _) ← hexDigits f digits.length 0 digits
    let c ← charOfCode? code
    some (c, skip f rest)
  | rest => do
    let count := if letter = 'x' then 2 else if letter = 'u' then 4 else 8
    let (code, rest) ← hexDigits f count 0 rest
    let c ← charOfCode? code
    if letter = 'x' && !f.unicode && 127 < code then none
    some (c, rest)

/-- Whether a character has a meaning of its own in patterns. -/
def isMeta (c : Char) : Bool :=
  ['\\', '.', '+', '*', '?', '(', ')', '|', '[', ']', '{', '}', '^', '$', '#', '&', '-',
    '~'].contains c

/-- Whether a character may be escaped to stand for itself. -/
def isEscapable (c : Char) : Bool :=
  isMeta c || (c.toNat < 128 && !c.isAlphanum && c != '<' && c != '>')

/-- Letters and hyphens, each followed by blanks if the flags say so. -/
def boundaryName (f : Flags) : Nat → List Char → List Char × List Char
  | 0, cs => ([], cs)
  | fuel + 1, cs =>
    match cs with
    | [] => ([], [])
    | c :: rest =>
      if c.isAlpha || c = '-' then
        let (name, rest) := boundaryName f fuel (skip f rest)
        (c :: name, rest)
      else ([], cs)

/-- The word boundary after `\b`. A name in braces may say which; braces with anything but a name
in them are left to the repetition that they are. -/
def boundary (f : Flags) (cs : List Char) : Option (Look × List Char) :=
  let letters := wordLetters f
  match cs with
  | '{' :: rest =>
    match skip f rest with
    | [] => none
    | c :: rest =>
      if c.isAlpha || c = '-' then
        match boundaryName f (rest.length + 1) (c :: rest) with
        | (name, '}' :: rest) =>
          match String.ofList name with
          | "start" => some (.wordStart letters, rest)
          | "end" => some (.wordEnd letters, rest)
          | "start-half" => some (.noWordBefore letters, rest)
          | "end-half" => some (.noWordAfter letters, rest)
          | _ => none
        | _ => none
      else some (.wordBoundary letters, cs)
  | _ => some (.wordBoundary letters, cs)

/-- An escape, after its backslash. -/
def escape (f : Flags) : List Char → Option (Primitive × List Char)
  | [] => none
  | c :: rest =>
    if c = 'x' || c = 'u' || c = 'U' then
      (hexEscape f c rest).map fun (c, rest) => (.literal c, rest)
    else if c = 'p' || c = 'P' then
      (property f (c = 'P') rest).map fun (set, rest) => (.set set, rest)
    else if c = 'd' || c = 's' || c = 'w' then some (.set (letterSet f c), rest)
    else if c = 'D' || c = 'S' || c = 'W' then
      if f.unicode then some (.set (letterSet f c.toLower).compl, rest) else none
    else if isEscapable c then some (.literal c, rest)
    else
      match c with
      | 'a' => some (.literal '\x07', rest)
      | 'f' => some (.literal '\x0c', rest)
      | 't' => some (.literal '\t', rest)
      | 'n' => some (.literal '\n', rest)
      | 'r' => some (.literal '\r', rest)
      | 'v' => some (.literal '\x0b', rest)
      | 'A' => some (.look .textStart, rest)
      | 'z' => some (.look .textEnd, rest)
      | 'b' => (boundary f rest).map fun (l, rest) => (.look l, rest)
      | 'B' => some (.look (.notWordBoundary (wordLetters f)), rest)
      | '<' => some (.look (.wordStart (wordLetters f)), rest)
      | '>' => some (.look (.wordEnd (wordLetters f)), rest)
      | _ => none

/-! ## Classes -/

/-- How two sets of a class are combined. -/
inductive SetOperator where
  | inter
  | diff
  | symmDiff

/-- A part of a class, and how deep expressions nest in it. -/
structure ClassPart where
  set : CharSet
  depth : Nat

namespace ClassPart

/-- The members of a class together, the last one first. Several of them nest one deeper than the
deepest of them. -/
def ofMembers : List ClassPart → ClassPart
  | [] => ⟨.empty, 0⟩
  | [m] => m
  | ms => ⟨.unionAll (ms.map ClassPart.set), ms.foldl (fun n m => max n m.depth) 0 + 1⟩

/-- A combination of two parts, each with the letters of both cases if the flags say so. -/
def combine (f : Flags) (op : SetOperator) (a b : ClassPart) : Option ClassPart := do
  let set ← closeSet f false a.set
  let other ← closeSet f false b.set
  let combined := match op with
    | .inter => set.inter other
    | .diff => set.diff other
    | .symmDiff => set.symmDiff other
  some ⟨combined, max a.depth b.depth + 1⟩

end ClassPart

/-- One member of a class, or one end of a range. -/
def classPrimitive (f : Flags) : List Char → Option (Primitive × List Char)
  | [] => none
  | '\\' :: rest => escape f rest
  | c :: rest => some (.literal c, rest)

/-- The set of one member. Without the flag `u` only ASCII is allowed; a place is no member. -/
def memberSet (f : Flags) : Primitive → Option CharSet
  | .literal c => if f.unicode || c.toNat < 128 then some (.singleton c) else none
  | .set s => some s
  | .look _ => none

/-- The character that decides whether a hyphen makes a range: the next one, and if the flags say so
the next one that is not blank, with one number sign passed over. -/
def behindHyphen (f : Flags) (cs : List Char) : Option Char :=
  if f.spaced then
    match cs.dropWhile isBlank with
    | '#' :: comment => (comment.dropWhile isBlank).head?
    | rest => rest.head?
  else cs.head?

/-- A member or a range. A hyphen makes a range unless a closing bracket or another hyphen follows
it. -/
def classRange (f : Flags) (cs : List Char) : Option (CharSet × List Char) := do
  let (first, rest) ← classPrimitive f cs
  let single : Option (CharSet × List Char) := do
    let set ← memberSet f first
    some (set, skip f rest)
  match skip f rest with
  | [] => none
  | '-' :: behind =>
    let decisive := behindHyphen f behind
    if decisive == some ']' || decisive == some '-' then single
    else
      let (last, rest) ← classPrimitive f (skip f behind)
      match first, last with
      | .literal a, .literal b =>
        if a ≤ b && (f.unicode || b.toNat < 128) then some (.range a b, rest) else none
      | _, _ => none
  | _ => single

/-- A set between `[:` and `:]`, after its bracket; `none` leaves the bracket to open a class. -/
def posix? : List Char → Option (CharSet × Bool × List Char)
  | ':' :: rest =>
    let (negated, rest) := match rest with
      | '^' :: rest => (true, rest)
      | _ => (false, rest)
    let name := rest.takeWhile (· != ':')
    match rest.drop name.length with
    | ':' :: ']' :: rest => (posixSet? (String.ofList name)).map fun set => (set, negated, rest)
    | _ => none
  | _ => none

/-- Hyphens at the front of a class, which stand for themselves, and the rest. -/
def leadingHyphens (f : Flags) : Nat → List Char → List ClassPart × List Char
  | 0, cs => ([], cs)
  | fuel + 1, cs =>
    match cs with
    | '-' :: rest =>
      let (hyphens, rest) := leadingHyphens f fuel (skip f rest)
      (⟨.singleton '-', 0⟩ :: hyphens, rest)
    | _ => ([], cs)

/-- The beginning of a class, after its bracket: whether it is negated, the members that are read
already, and the rest. A closing bracket in front of all members stands for itself. -/
def classStart (f : Flags) (cs : List Char) : Bool × List ClassPart × List Char :=
  let cs := skip f cs
  let (negated, cs) := match cs with
    | '^' :: rest => (true, skip f rest)
    | _ => (false, cs)
  match leadingHyphens f (cs.length + 1) cs with
  | ([], ']' :: rest) => (negated, [⟨.singleton ']', 0⟩], skip f rest)
  | (hyphens, rest) => (negated, hyphens, rest)

mutual

/-- A class, after its opening bracket. -/
def charClass (f : Flags) : Nat → List Char → Option (ClassPart × List Char)
  | 0, _ => none
  | fuel + 1, cs => do
    let (negated, members, rest) := classStart f cs
    let (content, rest) ← classBody f fuel none members rest
    let set ← closeSet f negated content.set
    some (⟨set, content.depth + 1⟩, rest)

/-- The rest of a class up to its closing bracket. `left` is what stands left of the last operator,
`members` what has been read behind it, the last one first. -/
def classBody (f : Flags) :
    Nat → Option (SetOperator × ClassPart) → List ClassPart → List Char →
      Option (ClassPart × List Char)
  | 0, _, _, _ => none
  | fuel + 1, left, members, cs =>
    let combined : Option ClassPart := match left with
      | none => some (.ofMembers members)
      | some (op, a) => ClassPart.combine f op a (.ofMembers members)
    let operator (op : SetOperator) (rest : List Char) : Option (ClassPart × List Char) := do
      let a ← combined
      classBody f fuel (some (op, a)) [] rest
    match skip f cs with
    | [] => none
    | ']' :: rest => combined.map fun part => (part, rest)
    | '&' :: '&' :: rest => operator .inter rest
    | '-' :: '-' :: rest => operator .diff rest
    | '~' :: '~' :: rest => operator .symmDiff rest
    | '[' :: rest =>
      match posix? rest with
      | some (set, negated, rest) =>
        match closeSet f negated set with
        | some set => classBody f fuel left (⟨set, 0⟩ :: members) rest
        | none => none
      | none =>
        match charClass f fuel rest with
        | some (inner, rest) => classBody f fuel left (inner :: members) rest
        | none => none
    | cs =>
      match classRange f cs with
      | some (set, rest) => classBody f fuel left (⟨set, 0⟩ :: members) rest
      | none => none

end

end Regex

end DocStore
