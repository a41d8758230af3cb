import DocStore.Regex.CharClass
import DocStore.Regex.Layout

/-!
# DocStore — reading patterns

`Regex.ofPattern?` reads the text of a pattern under flags, or refuses it. A pattern is read from
left to right with the flags that are in force: a group of flags alone, as `(?i)`, changes them up
to the end of the group it stands in. Repetitions need something to repeat; names of groups are used
once; back references and look-around are no part of the syntax. Nor may a pattern nest too deep, or
its automata grow too large.
-/

namespace DocStore

open Unicode

namespace Regex

/-- Where the reader stands: the text that is left, the flags in force, the names of groups that are
taken, and how many groups there are. -/
structure Reading where
  rest : List Char
  flags : Flags
  names : List String
  groups : Nat

/-- A part of a sequence, and how deep expressions nest in it. Flags alone make a part without
expression, which cannot be repeated. -/
structure Part where
  expr? : Option Regex
  depth : Nat

/-- The deepest nesting of a pattern. -/
def greatestDepth : Nat := 250

/-! ## Characters and places -/

/-- The expression of a single character. -/
def ofChar (f : Flags) (c : Char) : Regex :=
  if f.anyCase && (f.unicode || c.toNat < 128) then
    match closeSet f false (.singleton c) with
    | some set => ofSet set
    | none => literal [c]
  else literal [c]

/-- The point: any character, but for line ends unless the flags say so. -/
def anyChar (f : Flags) : Option Regex :=
  if !f.unicode then none
  else if f.dotAll then some (char .full)
  else if f.anyLine then some (char (CharSet.ofText "A D").compl)
  else some (char (CharSet.ofText "A").compl)

def lineStart (f : Flags) : Look :=
  if f.multiLine then if f.anyLine then .anyLineStart else .lineStart else .textStart

def lineEnd (f : Flags) : Look :=
  if f.multiLine then if f.anyLine then .anyLineEnd else .lineEnd else .textEnd

/-- An escape outside of classes. -/
def escapeExpr (f : Flags) (cs : List Char) : Option (Regex × List Char) := do
  let (p, rest) ← Regex.escape f cs
  match p with
  | .literal c => some (ofChar f c, rest)
  | .set s => some (ofSet s, rest)
  | .look l => some (look l, rest)

/-! ## Repetitions -/

/-- The repetition of an expression. A question mark behind it turns round whether more or fewer
repetitions are preferred. -/
def repetition (f : Flags) (a : Regex) (least : Nat) (greatest : Option Nat) :
    List Char → Regex × List Char
  | '?' :: rest => (a.times ⟨least, greatest, !f.fewest⟩, rest)
  | rest => (a.times ⟨least, greatest, f.fewest⟩, rest)

/-- Decimal digits with blanks between them if the flags say so. -/
def digitRun (f : Flags) : Nat → List Char → List Char × List Char
  | 0, cs => ([], cs)
  | fuel + 1, cs =>
    match cs with
    | [] => ([], [])
    | c :: rest =>
      if c.isDigit then
        let (ds, rest) := digitRun f fuel (skip f rest)
        (c :: ds, rest)
      else ([], cs)

/-- A number of a repetition, with blanks around it: none if there are no digits. A number that 32
bits cannot hold refuses the pattern. -/
def bound (f : Flags) (cs : List Char) : Option (Option Nat × List Char) :=
  let cs := cs.dropWhile isBlank
  let (ds, rest) := digitRun f (cs.length + 1) cs
  let rest := skip f (rest.dropWhile isBlank)
  if ds.isEmpty then some (none, rest)
  else
    let n := ds.foldl (fun n c => n * 10 + (c.toNat - 48)) 0
    if n < 1 <<< 32 then some (some n, rest) else none

/-- A repetition between braces, after the opening one. -/
def counted (f : Flags) (a : Regex) (cs : List Char) : Option (Regex × List Char) := do
  let (least, rest) ← match skip f cs with
    | [] => none
    | cs => bound f cs
  let (greatest, rest) ← match rest with
    | [] => none
    | ',' :: rest =>
      match skip f rest with
      | [] => none
      | '}' :: rest => some (none, '}' :: rest)
      | cs => do
        let (n, rest) ← bound f cs
        let n ← n
        some (some n, rest)
    | _ => some (least, rest)
  let least ← least
  match rest with
  | '}' :: rest =>
    let valid : Bool := match greatest with
      | some n => least ≤ n
      | none => true
    if valid then some (repetition f a least greatest (skip f rest)) else none
  | _ => none

/-- The repetition of the last part of a sequence, whose parts are listed from the last one on. -/
def repeatLast (parts : List Part) (make : Regex → Option (Regex × List Char)) :
    Option (List Part × List Char) :=
  match parts with
  | ⟨some a, depth⟩ :: before => do
    let (r, rest) ← make a
    some (⟨some r, depth + 1⟩ :: before, rest)
  | _ => none

/-! ## Groups -/

/-- One flag, switched on or off. -/
def Flags.switch? (f : Flags) (on : Bool) : Char → Option Flags
  | 'i' => some { f with anyCase := on }
  | 'm' => some { f with multiLine := on }
  | 's' => some { f with dotAll := on }
  | 'U' => some { f with fewest := on }
  | 'u' => some { f with unicode := on }
  | 'R' => some { f with anyLine := on }
  | 'x' => some { f with spaced := on }
  | _ => none

/-- Flags up to a colon or a closing parenthesis, which stays in front of the rest. `seen` holds the
letters so far, the last one first; none comes twice, and the hyphen not at the end. -/
def flagRun (f : Flags) (on : Bool) (seen : List Char) :
    List Char → Option (Flags × List Char × List Char)
  | [] => none
  | c :: rest =>
    if c = ':' || c = ')' then
      if seen.head? == some '-' then none else some (f, seen, c :: rest)
    else if seen.contains c then none
    else if c = '-' then flagRun f false (c :: seen) rest
    else
      match f.switch? on c with
      | some g => flagRun g on (c :: seen) rest
      | none => none

/-- The name of a group, up to its closing angle. -/
def groupName (cs : List Char) : Option (String × List Char) :=
  let name := cs.takeWhile (· != '>')
  let valid := match name with
    | [] => false
    | c :: rest =>
      (c = '_' || Property.alphabetic.contains c) &&
        rest.all fun c =>
          c = '_' || c = '.' || c = '[' || c = ']' || Property.alphanumeric.contains c
  match cs.drop name.length with
  | '>' :: rest => if valid then some (String.ofList name, rest) else none
  | _ => none

/-- What an opening parenthesis begins. -/
inductive Opening where
  /-- Flags alone, which hold from there on. -/
  | flags (f : Flags)
  /-- A group, which is read under its own flags; one that remembers what it matched has a
  number. -/
  | group (f : Flags) (names : List String) (number : Option Nat)

/-- The text behind an opening parenthesis up to the body of the group. -/
def opening (s : Reading) : Option (Opening × List Char) :=
  let number := some (s.groups + 1)
  let named (cs : List Char) : Option (Opening × List Char) := do
    let (name, rest) ← groupName cs
    if s.names.contains name then none else some (.group s.flags (name :: s.names) number, rest)
  match skip s.flags s.rest with
  | '?' :: '=' :: _ | '?' :: '!' :: _ => none
  | '?' :: '<' :: '=' :: _ | '?' :: '<' :: '!' :: _ => none
  | '?' :: 'P' :: '<' :: rest => named rest
  | '?' :: '<' :: rest => named rest
  | '?' :: rest => do
    let (f, seen, rest) ← flagRun s.flags true [] rest
    match rest with
    | ')' :: rest => if seen.isEmpty then none else some (.flags f, rest)
    | _ => some (.group f s.names none, rest.drop 1)
  | rest => some (.group s.flags s.names number, rest)

/-! ## Expressions -/

/-- The expression of a sequence, from its parts with the last one first. -/
def joinParts (parts : List Part) : Regex × Nat :=
  let depth := parts.foldl (fun n p => max n p.depth) 0
  (concat (parts.reverse.filterMap Part.expr?), if 1 < parts.length then depth + 1 else depth)

/-- The expression of the alternatives, the last one first. -/
def joinAlternatives (alts : List (Regex × Nat)) : Regex × Nat :=
  let depth := alts.foldl (fun n a => max n a.2) 0
  match alts with
  | [a] => a
  | _ => (either (alts.reverse.map Prod.fst), depth + 1)

/-- The body of a group, or of the whole pattern, up to the parenthesis that closes it or the end of
the text; either is left to the caller. `parts` is the sequence so far and `alts` the alternatives
before it, both with the last one first.
-/
def body : Nat → List Part → List (Regex × Nat) → Reading → Option ((Regex × Nat) × Reading)
  | 0, _, _, _ => none
  | fuel + 1, parts, alts, s =>
    let f := s.flags
    let next (r : Regex) (depth : Nat) (rest : List Char) : Option ((Regex × Nat) × Reading) :=
      body fuel (⟨some r, depth⟩ :: parts) alts { s with rest := rest }
    let done := (joinAlternatives (joinParts parts :: alts))
    match skip f s.rest with
    | [] => some (done, { s with rest := [] })
    | ')' :: rest => some (done, { s with rest := ')' :: rest })
    | '|' :: rest => body fuel [] (joinParts parts :: alts) { s with rest := rest }
    | '(' :: rest =>
      match opening { s with rest := rest } with
      | none => none
      | some (.flags g, rest) =>
        body fuel (⟨none, 0⟩ :: parts) alts { s with rest := rest, flags := g }
      | some (.group g names number, rest) =>
        let groups := number.getD s.groups
        match body fuel [] [] { rest := rest, flags := g, names := names, groups := groups } with
        | some ((r, depth), inner) =>
          match inner.rest with
          | ')' :: rest =>
            let r := match number with
              | some n => group n r
              | none => r
            body fuel (⟨some r, depth + 1⟩ :: parts) alts { inner with rest := rest, flags := f }
          | _ => none
        | none => none
    | '[' :: rest =>
      match charClass f (2 * rest.length + 2) rest with
      | some (part, rest) => next (ofSet part.set) part.depth rest
      | none => none
    | '?' :: rest =>
      match repeatLast parts fun a => some (repetition f a 0 (some 1) rest) with
      | some (parts, rest) => body fuel parts alts { s with rest := rest }
      | none => none
    | '*' :: rest =>
      match repeatLast parts fun a => some (repetition f a 0 none rest) with
      | some (parts, rest) => body fuel parts alts { s with rest := rest }
      | none => none
    | '+' :: rest =>
      match repeatLast parts fun a => some (repetition f a 1 none rest) with
      | some (parts, rest) => body fuel parts alts { s with rest := rest }
      | none => none
    | '{' :: rest =>
      match repeatLast parts fun a => counted f a rest with
      | some (parts, rest) => body fuel parts alts { s with rest := rest }
      | none => none
    | '\\' :: rest =>
      match escapeExpr f rest with
      | some (r, rest) => next r 0 rest
      | none => none
    | '.' :: rest =>
      match anyChar f with
      | some r => next r 0 rest
      | none => none
    | '^' :: rest => next (look (lineStart f)) 0 rest
    | '$' :: rest => next (look (lineEnd f)) 0 rest
    | c :: rest => next (ofChar f c) 0 rest

/-- The regular expression that a pattern denotes under flags. -/
def ofPattern? (f : Flags) (pattern : String) : Option Regex :=
  let cs := pattern.toList
  match body (2 * cs.length + 2) [] [] { rest := cs, flags := f, names := [], groups := 0 } with
  | some ((r, depth), s) =>
    if s.rest.isEmpty && depth ≤ greatestDepth && r.fits then some r else none
  | none => none

end Regex

end DocStore
