import DocStore.Proofs.Json.Numbers
import DocStore.Proofs.Json.Strings

/-!
# DocStore — no two values have one text

The first character of a text says which shape the value has, and the text of a value in that shape says
where the value ends, given that no number goes on behind it. What follows a value inside an array or an
object is a comma or a closing bracket, so the texts of two lists of items fall apart into the texts of
their items.

* **`Value.shape?_head`** — the first character tells the shape.
* **`Value.chars_append_inj`** — two values whose texts begin alike, up to where each ends, are one value.
  Induction on the values, with what follows them as a parameter.
* **`Value.text_inj`** — so equal texts are texts of one value, with the kinds of its numbers, the signs of
  its zeros and the order of its fields.
-/

namespace DocStore

namespace Value

open Json

/-! ## §1 — the shape of a value -/

/-- The shapes that the first character of a text can announce. -/
inductive Shape where
  | null
  | yes
  | no
  | number
  | string
  | array
  | object
deriving DecidableEq, Repr

def shape : Value → Shape
  | null => .null
  | bool true => .yes
  | bool false => .no
  | number _ => .number
  | string _ => .string
  | array _ => .array
  | object _ => .object

/-- The shape that a character announces, if a value can start with it. -/
def shape? (c : Char) : Option Shape :=
  if c = 'n' then some .null
  else if c = 't' then some .yes
  else if c = 'f' then some .no
  else if c = '"' then some .string
  else if c = '[' then some .array
  else if c = '{' then some .object
  else if c = '-' || c.isDigit then some .number
  else none

theorem shape?_number {c : Char} (h : c = '-' ∨ c.isDigit = true) : shape? c = some .number := by
  rcases h with rfl | hdigit
  · rfl
  · have hne : ∀ c' : Char, c'.isDigit = false → c ≠ c' := by
      rintro c' hletter rfl
      rw [hletter] at hdigit
      cases hdigit
    simp [shape?, hne 'n' rfl, hne 't' rfl, hne 'f' rfl, hne '"' rfl, hne '[' rfl, hne '{' rfl, hdigit]

/-- **The first character of a text tells the shape of the value.** -/
theorem shape?_head (v : Value) : ∃ c cs, v.chars = c :: cs ∧ shape? c = some v.shape := by
  cases v with
  | null => exact ⟨_, _, rfl, rfl⟩
  | bool b => cases b <;> exact ⟨_, _, rfl, rfl⟩
  | number a =>
    obtain ⟨c, cs, hchars, hfirst⟩ := a.exists_chars_eq
    exact ⟨c, cs, hchars, shape?_number hfirst⟩
  | string s => exact ⟨_, _, rfl, rfl⟩
  | array vs => exact ⟨_, _, rfl, rfl⟩
  | object fs => exact ⟨_, _, rfl, rfl⟩

theorem shape_eq_of_append_eq {v w : Value} {rest rest' : List Char}
    (h : v.chars ++ rest = w.chars ++ rest') : v.shape = w.shape := by
  obtain ⟨c, cs, hchars, hshape⟩ := shape?_head v
  obtain ⟨c', cs', hchars', hshape'⟩ := shape?_head w
  rw [hchars, hchars', List.cons_append, List.cons_append] at h
  obtain ⟨rfl, -⟩ := List.cons.inj h
  exact Option.some.inj (hshape.symm.trans hshape')

/-- No value starts like the end of an array. -/
theorem append_ne_bracket (v : Value) (rest rest' : List Char) : v.chars ++ rest ≠ ']' :: rest' := by
  obtain ⟨c, cs, hchars, hshape⟩ := shape?_head v
  rw [hchars, List.cons_append]
  intro h
  obtain ⟨rfl, -⟩ := List.cons.inj h
  cases hshape

/-! ## §2 — what follows a value -/

/-- What stands behind an item: the other items, and what follows the array. -/
def itemsBehind (rest : List Char) : List Value → List Char
  | [] => ']' :: rest
  | v :: vs => ',' :: (itemChars (v :: vs) ++ ']' :: rest)

/-- What stands behind a field. -/
def fieldsBehind (rest : List Char) : List (String × Value) → List Char
  | [] => '}' :: rest
  | f :: fs => ',' :: (fieldChars (f :: fs) ++ '}' :: rest)

theorem chars_array_append (vs : List Value) (rest : List Char) :
    (array vs).chars ++ rest = '[' :: (itemChars vs ++ ']' :: rest) := by
  rw [chars, List.cons_append, List.append_assoc]
  rfl

theorem chars_object_append (fs : List (String × Value)) (rest : List Char) :
    (object fs).chars ++ rest = '{' :: (fieldChars fs ++ '}' :: rest) := by
  rw [chars, List.cons_append, List.append_assoc]
  rfl

theorem itemChars_cons_append (v : Value) (vs : List Value) (rest : List Char) :
    itemChars (v :: vs) ++ ']' :: rest = v.chars ++ itemsBehind rest vs := by
  cases vs with
  | nil => rfl
  | cons w ws => rw [itemChars, List.append_assoc]; rfl

theorem fieldChars_cons_append (name : String) (v : Value) (fs : List (String × Value))
    (rest : List Char) : fieldChars ((name, v) :: fs) ++ '}' :: rest =
      quoted name ++ ':' :: (v.chars ++ fieldsBehind rest fs) := by
  cases fs with
  | nil => rw [fieldChars, List.append_assoc]; rfl
  | cons f fs => rw [fieldChars, List.append_assoc, List.cons_append, List.append_assoc]; rfl

theorem stops_itemsBehind (rest : List Char) (vs : List Value) : Stops (itemsBehind rest vs) := by
  cases vs <;> exact stops_cons _ (by decide)

theorem stops_fieldsBehind (rest : List Char) (fs : List (String × Value)) :
    Stops (fieldsBehind rest fs) := by
  cases fs <;> exact stops_cons _ (by decide)

/-! ## §3 — two values -/

mutual

/-- **Values whose texts begin alike are one value.** -/
theorem chars_append_inj : ∀ (v w : Value) {rest rest' : List Char}, Stops rest → Stops rest' →
    v.chars ++ rest = w.chars ++ rest' → v = w ∧ rest = rest'
  | v, w, rest, rest', hrest, hrest', h =>
    -- two shapes would begin with two characters, so there is one case for each shape
    match v, w, h, shape_eq_of_append_eq h with
    | .null, .null, h, _ => ⟨rfl, List.append_cancel_left h⟩
    | .bool true, .bool true, h, _ => ⟨rfl, List.append_cancel_left h⟩
    | .bool false, .bool false, h, _ => ⟨rfl, List.append_cancel_left h⟩
    | .number _, .number _, h, _ => by
      obtain ⟨hnumber, hrests⟩ := Number.chars_append_inj hrest hrest' h
      exact ⟨congrArg number hnumber, hrests⟩
    | .string _, .string _, h, _ => by
      obtain ⟨hstring, hrests⟩ := quoted_append_inj h
      exact ⟨congrArg string hstring, hrests⟩
    | .array vs, .array ws, h, _ => by
      rw [chars_array_append, chars_array_append] at h
      obtain ⟨heq, hrests⟩ := itemChars_append_inj vs ws (List.cons.inj h).2
      exact ⟨congrArg array heq, hrests⟩
    | .object fs, .object gs, h, _ => by
      rw [chars_object_append, chars_object_append] at h
      obtain ⟨heq, hrests⟩ := fieldChars_append_inj fs gs (List.cons.inj h).2
      exact ⟨congrArg object heq, hrests⟩

/-- So are the items of two arrays, up to the closing bracket. -/
theorem itemChars_append_inj : ∀ (vs ws : List Value) {rest rest' : List Char},
    itemChars vs ++ ']' :: rest = itemChars ws ++ ']' :: rest' → vs = ws ∧ rest = rest'
  | [], [], _, _, h => ⟨rfl, (List.cons.inj h).2⟩
  | [], w :: ws, _, _, h => by
    rw [itemChars_cons_append] at h
    exact absurd h.symm (append_ne_bracket w _ _)
  | v :: vs, [], _, _, h => by
    rw [itemChars_cons_append] at h
    exact absurd h (append_ne_bracket v _ _)
  | v :: vs, w :: ws, rest, rest', h => by
    rw [itemChars_cons_append, itemChars_cons_append] at h
    obtain ⟨rfl, hbehind⟩ := chars_append_inj v w (stops_itemsBehind rest vs)
      (stops_itemsBehind rest' ws) h
    -- a bracket and a comma differ, so both arrays end here or both go on
    match vs, ws, hbehind with
    | [], [], hbehind => exact ⟨rfl, (List.cons.inj hbehind).2⟩
    | [], _ :: _, hbehind => cases (List.cons.inj hbehind).1
    | _ :: _, [], hbehind => cases (List.cons.inj hbehind).1
    | v' :: vs, w' :: ws, hbehind =>
      obtain ⟨heq, hrests⟩ := itemChars_append_inj (v' :: vs) (w' :: ws) (List.cons.inj hbehind).2
      exact ⟨congrArg (v :: ·) heq, hrests⟩

/-- So are the fields of two objects, up to the closing brace, in their order. -/
theorem fieldChars_append_inj : ∀ (fs gs : List (String × Value)) {rest rest' : List Char},
    fieldChars fs ++ '}' :: rest = fieldChars gs ++ '}' :: rest' → fs = gs ∧ rest = rest'
  | [], [], _, _, h => ⟨rfl, (List.cons.inj h).2⟩
  | [], (name, v) :: gs, _, _, h => by
    rw [fieldChars_cons_append] at h
    cases (List.cons.inj h).1
  | (name, v) :: fs, [], _, _, h => by
    rw [fieldChars_cons_append] at h
    cases (List.cons.inj h).1
  | (name, v) :: fs, (name', w) :: gs, rest, rest', h => by
    rw [fieldChars_cons_append, fieldChars_cons_append] at h
    obtain ⟨rfl, hvalue⟩ := quoted_append_inj h
    obtain ⟨rfl, hbehind⟩ := chars_append_inj v w (stops_fieldsBehind rest fs)
      (stops_fieldsBehind rest' gs) (List.cons.inj hvalue).2
    match fs, gs, hbehind with
    | [], [], hbehind => exact ⟨rfl, (List.cons.inj hbehind).2⟩
    | [], _ :: _, hbehind => cases (List.cons.inj hbehind).1
    | _ :: _, [], hbehind => cases (List.cons.inj hbehind).1
    | f :: fs, g :: gs, hbehind =>
      obtain ⟨heq, hrests⟩ := fieldChars_append_inj (f :: fs) (g :: gs) (List.cons.inj hbehind).2
      exact ⟨congrArg ((name, v) :: ·) heq, hrests⟩

end

/-- **Equal texts are texts of one value.** -/
theorem text_inj {v w : Value} (h : v.text = w.text) : v = w := by
  have hchars : v.chars ++ [] = w.chars ++ [] := by
    rw [List.append_nil, List.append_nil]
    exact String.ofList_injective h
  exact (chars_append_inj v w stops_nil stops_nil hchars).1

end Value

end DocStore
