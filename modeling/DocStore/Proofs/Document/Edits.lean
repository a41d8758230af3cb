import DocStore.Document

/-!
# DocStore — documents that are edited

A document lists its fields in the order in which they were put in: a field that is overwritten keeps its
place, a new one goes to the end, an `_id` that is given goes to the front. Taking a field out moves the last
one into the gap. That keeps names apart and the first field first, but not the order: it is lost where at
least two fields stand behind the one that goes.

* **`Document.Edit.inOrder`** — what an edit would do to the names if all of them kept their order.
* **`Document.Edit.names_apply_iff`** — an edit does so exactly if it is no removal from the midst.
* **`Document.Edit.names_edited`** — a run of such edits keeps the order, by induction on the edits.
* **`edited_document_is_ordered_object`** — the main statement; **`removed_field_disturbs_order`** shows a
  document of three fields that loses its order.
-/

namespace DocStore

/-! ## §1 — edits -/

namespace Document

/-- What can be done to the fields of a document. An `_id` is given if there is none. -/
inductive Edit where
  | put (name : String) (v : Value)
  | remove (name : String)
  | giveId (id : Value)

/-- The names that stand behind a name. -/
def namesBehind (name : String) (names : List String) : List String :=
  (names.dropWhile (· != name)).tail

namespace Edit

def apply : Edit → Document → Document
  | put name v, d => d.put name v
  | remove name, d => d.remove name
  | giveId id, d => d.withId id

/-- What an edit makes of names that are listed in the order in which they were put in. -/
def inOrder : Edit → List String → List String
  | put name _, names => if name ∈ names then names else names ++ [name]
  | remove name, names => names.erase name
  | giveId _, names => if "_id" ∈ names then names else "_id" :: names

/-- A removal from the midst: more than one name stands behind the one that goes. -/
def IsFromMidst : Edit → List String → Prop
  | remove name, names => 1 < (namesBehind name names).length
  | _, _ => False

end Edit

/-- A document after edits, one after the other. -/
def edited (d : Document) (edits : List Edit) : Document := edits.foldl (fun d e => e.apply d) d

/-- No edit takes a field out of the midst. -/
def Steady : Document → List Edit → Prop
  | _, [] => True
  | d, e :: edits => ¬ e.IsFromMidst d.names ∧ Steady (e.apply d) edits

/-! ## §2 — what edits do to the names -/

theorem bne_of_notMem {name : String} {names : List String} (h : name ∉ names) :
    ∀ n ∈ names, (n != name) = true := by
  intro n hn
  rw [bne_iff_ne]
  rintro rfl
  exact h hn

theorem namesBehind_append {name : String} {before : List String} (h : name ∉ before)
    (after : List String) : namesBehind name (before ++ name :: after) = after := by
  unfold namesBehind
  rw [List.dropWhile_append_of_pos (bne_of_notMem h), List.dropWhile_cons_of_neg (by simp),
    List.tail_cons]

theorem namesBehind_of_notMem {name : String} {names : List String} (h : name ∉ names) :
    namesBehind name names = [] := by
  unfold namesBehind
  rw [← List.append_nil names, List.dropWhile_append_of_pos (bne_of_notMem h)]
  rfl

/-- The last of different names, moved in front of those before it, stands where it stood only if it is
alone. -/
theorem cons_eq_concat_iff {between : List String} {last : String} (h : last ∉ between) :
    last :: between = between ++ [last] ↔ between = [] := by
  cases between with
  | nil => simp
  | cons x rest =>
    refine iff_of_false (fun heq => ?_) nofun
    obtain ⟨rfl, -⟩ := List.cons.inj heq
    exact h List.mem_cons_self

variable {d : Document}

theorem contains_iff {name : String} : d.contains name = true ↔ name ∈ d.names := Fields.contains_iff

theorem nodup_names_apply (h : d.names.Nodup) (e : Edit) : (e.apply d).names.Nodup := by
  cases e with
  | put name v => exact Fields.nodup_names_put h
  | remove name => exact Fields.nodup_names_remove h
  | giveId id =>
    show (d.withId id).names.Nodup
    unfold withId
    split
    · exact h
    · next hnew => exact List.nodup_cons.mpr ⟨fun hin => hnew (contains_iff.mpr hin), h⟩

/-- **One edit** does to the names what keeps their order, exactly if it is no removal from the midst. -/
theorem Edit.names_apply_iff (h : d.names.Nodup) (e : Edit) :
    (e.apply d).names = e.inOrder d.names ↔ ¬ e.IsFromMidst d.names := by
  cases e with
  | put name v => exact iff_of_true (Fields.names_put name v d.fields) not_false
  | giveId id =>
    refine iff_of_true ?_ not_false
    show (d.withId id).names = if "_id" ∈ d.names then d.names else "_id" :: d.names
    unfold withId
    by_cases hin : "_id" ∈ d.names
    · rw [if_pos (contains_iff.mpr hin), if_pos hin]
    · rw [if_neg fun hc => hin (contains_iff.mp hc), if_neg hin]
      rfl
  | remove name =>
    show (Fields.remove name d.fields).names = d.names.erase name ↔
      ¬ 1 < (namesBehind name d.names).length
    by_cases hin : name ∈ d.names
    · obtain ⟨before, after, hnames⟩ := List.append_of_mem hin
      rw [hnames, List.nodup_append] at h
      obtain ⟨-, hafter, hapart⟩ := h
      have hbefore : name ∉ before := fun hb => hapart name hb name List.mem_cons_self rfl
      rw [hnames, namesBehind_append hbefore, List.erase_append_right _ hbefore,
        List.erase_cons_head]
      rcases List.eq_nil_or_concat after with rfl | ⟨between, last, rfl⟩
      · rw [Fields.names_remove_of_last hnames]
        simp
      · rw [List.concat_eq_append] at hafter hnames ⊢
        obtain ⟨hname, hafter⟩ := List.nodup_cons.mp hafter
        have hlast : last ≠ name := fun heq => hname (by simp [heq])
        have hnew : last ∉ between := by
          rw [List.nodup_append] at hafter
          exact fun hb => hafter.2.2 last hb last (by simp) rfl
        rw [Fields.names_remove_of_behind hbefore hlast hnames, List.append_right_inj,
          cons_eq_concat_iff hnew, List.length_append, List.length_singleton, Nat.lt_add_left_iff_pos,
          List.length_pos_iff, ne_eq, Classical.not_not]
    · refine iff_of_true ?_ ?_
      · rw [Fields.remove_of_notMem hin, List.erase_of_not_mem hin]
        rfl
      · rw [namesBehind_of_notMem hin]
        simp

/-- **The first field** stays the first one, unless it is taken out or an `_id` is given in front of it. -/
theorem Edit.firstName?_apply {first : String} (hfirst : d.firstName? = some first) {e : Edit}
    (hremove : e ≠ .remove first) (hid : ∀ id, e = .giveId id → "_id" ∈ d.names) :
    (e.apply d).firstName? = some first := by
  obtain ⟨fields⟩ := d
  cases fields with
  | nil => cases hfirst
  | cons entry rest =>
    obtain ⟨n, b⟩ := entry
    obtain rfl : n = first := Option.some.inj hfirst
    cases e with
    | put name v =>
      show (Fields.put name v ((n, b) :: rest)).names.head? = some n
      unfold Fields.put
      split <;> rfl
    | giveId id =>
      show (Document.withId id _).names.head? = some n
      unfold withId
      rw [if_pos (contains_iff.mpr (hid id rfl))]
      rfl
    | remove name => exact Fields.head?_names_remove fun heq => hremove (heq ▸ rfl)

/-- **A run of edits** keeps the order if none of them takes a field out of the midst. Induction on the
edits. -/
theorem names_edited {edits : List Edit} (h : d.names.Nodup) (hsteady : d.Steady edits) :
    (d.edited edits).names = edits.foldl (fun names e => e.inOrder names) d.names := by
  induction edits generalizing d with
  | nil => rfl
  | cons e edits ih =>
    show ((e.apply d).edited edits).names = edits.foldl _ (e.inOrder d.names)
    rw [ih (nodup_names_apply h e) hsteady.2, (e.names_apply_iff h).mpr hsteady.1]

theorem nodup_names_edited (h : d.names.Nodup) (edits : List Edit) : (d.edited edits).names.Nodup := by
  induction edits generalizing d with
  | nil => exact h
  | cons e edits ih => exact ih (nodup_names_apply h e)

end Document

/-- **A document stays an object with an order, but a removal may disturb it.** Let any edits be made on a
document whose names are different. The names are different at any time. As long as no field has been taken
out of the midst, they are listed in the order in which they were put in: overwriting a field keeps its
place, a new field goes to the end, an `_id` that is given goes to the front, and a removal leaves the others
as they were. An edit breaks this order exactly if it takes out a field behind which at least two stand: the
last field then moves into its place. It takes out that field only. The first name changes only when it is
taken out itself or an `_id` is given in front of it. -/
theorem edited_document_is_ordered_object {d : Document} (hd : d.names.Nodup)
    (edits : List Document.Edit) :
    let d' := d.edited edits
    d'.names.Nodup ∧
      (d.Steady edits → d'.names = edits.foldl (fun names e => e.inOrder names) d.names) ∧
      (∀ e : Document.Edit, (e.apply d').names = e.inOrder d'.names ↔ ¬ e.IsFromMidst d'.names) ∧
      (∀ name before between last, d'.names = before ++ name :: (between ++ [last]) →
        (d'.remove name).names = before ++ last :: between) ∧
      (∀ name other, (d'.remove name).field? other = if other = name then none else d'.field? other) ∧
      ∀ (e : Document.Edit) first, d'.firstName? = some first → (e.apply d').firstName? ≠ some first →
        e = .remove first ∨ ∃ id, e = .giveId id ∧ "_id" ∉ d'.names := by
  intro d'
  have hd' : d'.names.Nodup := Document.nodup_names_edited hd edits
  refine ⟨hd', Document.names_edited hd, fun e => e.names_apply_iff hd',
    fun name before between last hnames => ?_, Fields.find?_remove hd', fun e first hfirst hchanges => ?_⟩
  · rw [hnames, List.nodup_append] at hd'
    obtain ⟨-, hafter, hapart⟩ := hd'
    have hlast : last ≠ name := fun heq => (List.nodup_cons.mp hafter).1 (by simp [heq])
    exact Fields.names_remove_of_behind
      (fun hb => hapart name hb name List.mem_cons_self rfl) hlast hnames
  · refine Classical.not_not.mp fun hnot => ?_
    obtain ⟨hremove, hgive⟩ := not_or.mp hnot
    refine hchanges (Document.Edit.firstName?_apply hfirst hremove fun id heq => ?_)
    exact Classical.not_not.mp fun hnew => hgive ⟨id, heq, hnew⟩

/-- Edits that keep the order, and a removal after them that does not. -/
theorem edited_document_is_ordered_object_of_fruit :
    let d : Document := ⟨[("pear", .ofNat 1), ("fig", .ofNat 2)]⟩
    let edits : List Document.Edit := [.put "plum" .null, .giveId (.ofNat 7), .put "pear" (.ofNat 3),
      .put "lime" .null, .remove "plum"]
    let d' := d.edited edits
    d.names.Nodup ∧ d.Steady edits ∧ d'.names = ["_id", "pear", "fig", "lime"] ∧
      (d'.remove "pear").names = ["_id", "lime", "fig"] ∧
      (d'.remove "pear").field? "fig" = d'.field? "fig" := by
  intro d edits d'
  have hd : d.names.Nodup := by decide
  have hsteady : d.Steady edits := by
    refine ⟨not_false, not_false, not_false, not_false, ?_, trivial⟩
    show ¬ 1 < _
    decide +kernel
  obtain ⟨-, hnames, -, hremoved, hfound, -⟩ := edited_document_is_ordered_object hd edits
  have hnames : d'.names = ["_id", "pear", "fig", "lime"] := (hnames hsteady).trans (by decide +kernel)
  exact ⟨hd, hsteady, hnames, hremoved "pear" ["_id"] ["fig"] "lime" hnames, hfound "pear" "fig"⟩

/-- **A field that is taken out disturbs the order**: the last of three fields comes to stand in front of
the second one. -/
theorem removed_field_disturbs_order :
    let d : Document := ⟨[("a", .ofNat 1), ("b", .ofNat 2), ("c", .ofNat 3)]⟩
    let e : Document.Edit := .remove "a"
    d.names.Nodup ∧ e.inOrder d.names = ["b", "c"] ∧ (e.apply d).names = ["c", "b"] := by
  decide +kernel

end DocStore
