import DocStore.Proofs.Engine.Changes
import DocStore.Proofs.Engine.Drops

/-!
# DocStore — namespaces that do not interfere

A command document that names a collection is addressed to it (`Document.addressee?`). Whatever is sent
to one collection leaves the others alone: their documents, and what is left of the cursors over them.
Cursors are told apart by the text of their namespace, so this rests on the text saying which namespace
it is, also where the name of a collection holds points.

* **`Store.Call.collection?_run`** — a call on a store changes only the collections it is about.
* **`Engine.Sound.mem_perform`** — a command keeps the cursors over other collections, and brings none.
* **`Engine.Reachable.agreeOn_command`** — before and after a command that is addressed elsewhere, a
  namespace has the same documents and the same cursors; **`Engine.Reachable.agreeOn_commands`** says the
  same of any number of such commands.
* **`command_keeps_other_namespaces`** — the main statement.
-/

namespace DocStore

/-! ## §1 — collections of a store -/

namespace Store

/-- The collections that a call may change. -/
def Call.IsAbout : Call → String → String → Prop
  | insert db coll _, db', coll' | dropCollection db coll, db', coll' => db' = db ∧ coll' = coll
  | dropDatabase db, db', _ => db' = db
  | _, _, _ => False

/-- **A call on a store** leaves all collections as they are that it is not about. -/
theorem Call.collection?_run (c : Call) (s : Store) {db coll : String} (h : ¬ c.IsAbout db coll) :
    (c.run s).2.catalog.collection? db coll = s.catalog.collection? db coll := by
  rcases c.catalog_run_cases s with hsame | ⟨r, hchange, happly⟩
  · rw [hsame]
  · cases c with
    | insert db' coll' ds =>
      simp only [change?] at hchange
      split at hchange
      · cases hchange
      · obtain rfl := Option.some.inj hchange
        rw [Catalog.apply_insert] at happly
        rw [← Except.ok.inj happly, Catalog.collection?_insert]
        exact if_neg h
    | dropCollection db' coll' =>
      simp only [change?, Option.map_eq_some_iff] at hchange
      obtain ⟨_, -, rfl⟩ := hchange
      rw [← Except.ok.inj happly, Catalog.collection?_dropCollection]
      exact if_neg h
    | dropDatabase db' =>
      simp only [change?, Option.map_eq_some_iff] at hchange
      obtain ⟨_, -, rfl⟩ := hchange
      rw [← Except.ok.inj happly, Catalog.collection?_dropDatabase]
      exact if_neg h
    | count => cases hchange
    | scan => cases hchange
    | flush => cases hchange

end Store

/-! ## §2 — whom a command is addressed to -/

/-- The collection that a command document is addressed to. -/
def Document.addressee? (d : Document) : Option String :=
  (d.firstName?.bind Command.nameField?).bind fun field => (d.stringField field).toOption

namespace Command

variable {d : Document} {c : Command} {db : String}

theorem stringField_of_collectionField {field coll : String}
    (h : collectionField d field = .ok coll) : d.stringField field = .ok coll := by
  obtain ⟨name, hname, h⟩ := ok_of_bind h
  obtain ⟨_, -, h⟩ := ok_of_bind h
  rw [hname, Except.ok.inj h]

/-- A command document that is read is addressed to the collection that its command names. -/
theorem collection?_eq_addressee? {name : String} (hname : d.firstName? = some name)
    (h : ofDocument name d = .ok c) : c.collection? = d.addressee? := by
  have hnamed := namedBy_of_ofDocument h
  unfold Document.addressee?
  rw [hname, Option.bind_some]
  split at hnamed
  · next field hfield =>
    obtain ⟨coll, hcoll, hc⟩ := hnamed
    rw [hfield, hc, Option.bind_some, stringField_of_collectionField hcoll]
    rfl
  · next hfield =>
    rw [hfield, hnamed]
    rfl

/-- What a command that names a collection does to the store is about this collection. -/
theorem isAbout_of_storeCall? {call : Store.Call} {coll : String} (hcall : c.storeCall? db = some call)
    (hcoll : c.collection? = some coll) {db' coll' : String} (h : call.IsAbout db' coll') :
    db' = db ∧ coll' = coll := by
  cases c with
  | insert coll ds =>
    obtain rfl := Option.some.inj hcall
    obtain rfl := Option.some.inj hcoll
    exact h
  | drop coll =>
    obtain rfl := Option.some.inj hcall
    obtain rfl := Option.some.inj hcoll
    exact h
  | dropDatabase => cases hcoll
  | _ => cases hcall

/-- Only the drop of a database changes something and names no collection. -/
theorem eq_dropDatabase_of_storeCall? {call : Store.Call} (hcall : c.storeCall? db = some call)
    (hcoll : c.collection? = none) : c = .dropDatabase := by
  cases c with
  | insert coll ds => cases hcoll
  | drop coll => cases hcoll
  | dropDatabase => rfl
  | _ => cases hcall

theorem eq_of_ofDocument_dropDatabase {name : String} (h : ofDocument name d = .ok .dropDatabase) :
    name = "dropDatabase" := by
  -- a reader of commands that name a collection gives no other command
  have hnamed := namedBy_of_ofDocument h
  unfold ofDocument at h
  split at h
  case h_16 => rfl
  all_goals first
    | cases h
    | (obtain ⟨coll, -, hcoll⟩ := hnamed; cases hcoll)

end Command

/-! ## §3 — cursors over other collections -/

namespace Engine

variable {e e' : Engine} {id : CursorId} {db ns : String} {entry : CursorId × Cursor}

theorem mem_parkCursor (e : Engine) (rest : List Document) (hns : entry.2.ns ≠ ns) :
    entry ∈ (e.parkCursor ns rest).2.cursors ↔ entry ∈ e.cursors := by
  unfold parkCursor
  split
  · rfl
  · have hnew : entry ∉ [(e.nextCursor, (⟨ns, rest, e.now⟩ : Cursor))] := by
      intro hmem
      rw [List.mem_singleton.mp hmem] at hns
      exact hns rfl
    simp only [List.mem_append, hnew, or_false]

/-- A fetch touches the one cursor of its id, and this one keeps its namespace. -/
theorem Sound.mem_takeFrom (h : e.Sound) {c : Cursor} (hc : e.cursor? id = some c) (n : Nat)
    (hns : entry.2.ns ≠ c.ns) : entry ∈ (e.takeFrom id c n).cursors ↔ entry ∈ e.cursors := by
  -- under the id stands the cursor that was fetched from, and no other
  have hother : entry ∈ e.cursors → entry.1 ≠ id := by
    rintro hmem rfl
    rw [h.cursor?_eq_some_iff.mpr hmem] at hc
    exact hns (congrArg Cursor.ns (Option.some.inj hc))
  unfold Engine.takeFrom
  split
  · constructor
    · exact fun hmem => (List.mem_filter.mp hmem).1
    · intro hmem
      exact List.mem_filter.mpr ⟨hmem, by simpa using hother hmem⟩
  · constructor
    · intro hmem
      obtain ⟨old, hold, heq⟩ := List.mem_map.mp hmem
      split at heq
      · rw [← heq] at hns
        exact absurd rfl hns
      · rwa [← heq]
    · intro hmem
      exact List.mem_map.mpr ⟨entry, hmem, if_neg (hother hmem)⟩

/-- What stands in the table after a fetch stood there under the same id, with the same namespace. -/
theorem Sound.ns_takeFrom (h : e.Sound) {c cursor' : Cursor} {other : CursorId}
    (hc : e.cursor? other = some c) {n : Nat} (hmem : (id, cursor') ∈ (e.takeFrom other c n).cursors) :
    ∃ cursor, e.cursor? id = some cursor ∧ cursor'.ns = cursor.ns := by
  unfold Engine.takeFrom at hmem
  split at hmem
  · exact ⟨cursor', h.cursor?_eq_some_iff.mpr (List.mem_filter.mp hmem).1, rfl⟩
  · obtain ⟨⟨id', old⟩, hold, heq⟩ := List.mem_map.mp hmem
    split at heq
    · obtain ⟨rfl, rfl⟩ := Prod.mk.inj heq
      exact ⟨c, hc, rfl⟩
    · obtain ⟨rfl, rfl⟩ := Prod.mk.inj heq
      exact ⟨old, h.cursor?_eq_some_iff.mpr hold, rfl⟩

theorem mem_withoutCursors (e : Engine) (ids : List CursorId) (hns : entry.2.ns ≠ ns) :
    entry ∈ (e.withoutCursors ns ids).cursors ↔ entry ∈ e.cursors := by
  unfold withoutCursors
  simp [hns]

/-- **What a command asks for** keeps the cursors over other collections than the one it names, and
brings none. One case for each way to deal with cursors. -/
theorem Sound.mem_perform (h : e.Sound) {c : Command} {coll : String} (hcoll : c.collection? = some coll)
    (hns : entry.2.ns ≠ namespaceText db coll) :
    entry ∈ (e.perform db c).2.cursors ↔ entry ∈ e.cursors := by
  cases c with
  | insert coll' ds =>
    simp only [perform, performInsert]
    split <;> rfl
  | count coll' filter => rfl
  | aggregate coll' pipeline batchSize =>
    obtain rfl := Option.some.inj hcoll
    exact e.countQuery.mem_parkCursor _ hns
  | getMore id coll' batchSize =>
    obtain rfl := Option.some.inj hcoll
    show entry ∈ (e.performGetMore db id coll' batchSize).2.cursors ↔ _
    rcases performGetMore_cases e db id coll' batchSize with
      ⟨err, hrun⟩ | ⟨c, n, counters, hcursor, hsame, -, hrun⟩
    · rw [hrun]
    · rw [hrun]
      have hcounted : Sound { e with counters := counters } :=
        ⟨h.given, h.left, h.distinct, h.next⟩
      exact hcounted.mem_takeFrom hcursor n (hsame ▸ hns)
  | killCursors coll' ids =>
    obtain rfl := Option.some.inj hcoll
    have hkept := e.mem_withoutCursors (leadingIds ids) hns
    simp only [perform, performKillCursors]
    rcases h.killCursors (namespaceText db coll') ids with ⟨-, hrun⟩ | ⟨-, answer, hrun⟩
    · rw [hrun]
      exact hkept
    · rw [hrun]
      exact hkept
  | drop coll' =>
    obtain rfl := Option.some.inj hcoll
    simp only [perform, performDrop]
    split
    · rfl
    · simp [hns]
  | _ => cases hcoll

/-- A cursor that stays keeps its namespace, and one that comes is over the collection that the command
names. -/
theorem Sound.ns_perform (h : e.Sound) (db : String) (c : Command) {cursor' : Cursor}
    (hcursor' : (id, cursor') ∈ (e.perform db c).2.cursors) :
    (∃ cursor, e.cursor? id = some cursor ∧ cursor'.ns = cursor.ns) ∨
      e.cursor? id = none ∧ ∃ coll, c.collection? = some coll ∧ cursor'.ns = namespaceText db coll := by
  rcases perform_table e db c with
    ⟨hsub, -⟩ | ⟨coll, pipeline, batchSize, counters, rest, rfl, hrun⟩ |
      ⟨id', coll, batchSize, counters, cursor, n, -, hcursor, hrun⟩
  · exact Or.inl ⟨cursor', h.cursor?_eq_some_iff.mpr (hsub.subset hcursor'), rfl⟩
  · rw [hrun] at hcursor'
    cases hold : e.cursor? id with
    | some cursor =>
      -- the id was given out before, so the cursor under it is not the new one
      have hcounted : Sound { e with counters := counters } :=
        ⟨h.given, h.left, h.distinct, h.next⟩
      have hspares : Spares id { e with counters := counters } _ :=
        spares_parkCursor hcounted (namespaceText db coll) rest
      have hgiven := (h.given _ (h.cursor?_eq_some_iff.mp hold)).2
      have hsame := hspares.same hgiven cursor' (hspares.sound.cursor?_eq_some_iff.mpr hcursor')
      obtain rfl : cursor = cursor' := Option.some.inj (hold.symm.trans hsame)
      exact Or.inl ⟨cursor, rfl, rfl⟩
    | none =>
      refine Or.inr ⟨rfl, coll, rfl, ?_⟩
      refine Decidable.byContradiction fun hns => ?_
      have hthere : (id, cursor') ∈ e.cursors :=
        (mem_parkCursor { e with counters := counters } rest hns).mp hcursor'
      rw [h.cursor?_eq_some_iff.mpr hthere] at hold
      cases hold
  · rw [hrun] at hcursor'
    have hcounted : Sound { e with counters := counters } := ⟨h.given, h.left, h.distinct, h.next⟩
    exact Or.inl (hcounted.ns_takeFrom hcursor hcursor')

/-! ## §4 — commands -/

/-- Every cursor is over one namespace. -/
theorem Reachable.exists_over (h : e.Reachable) {cursor : Cursor} (hc : e.cursor? id = some cursor) :
    ∃ ns : Namespace, ∀ other, cursor.Over other ↔ other = ns := by
  obtain ⟨ns, hns⟩ := h.placed _ (h.sound.cursor?_eq_some_iff.mp hc)
  refine ⟨ns, fun other => ⟨fun hother => hother.eq hns, ?_⟩⟩
  rintro rfl
  exact hns

/-- **Collections** change by commands that are addressed to them, or to their database. -/
theorem collection?_command (e : Engine) (connection : ConnectionId) {d : Document} {db' coll' : String}
    (hd : ∀ coll, d.addressee? = some coll → ¬ (db' = db ∧ coll' = coll))
    (hdatabase : d.firstName? = some "dropDatabase" → db' ≠ db) :
    (e.command connection db d).2.store.catalog.collection? db' coll'
      = e.store.catalog.collection? db' coll' := by
  rcases refused_or_takes e connection db d with ⟨err, hrun⟩ | ⟨err, hrun⟩ | ⟨c, htakes⟩
  · rw [hrun]
  · rw [hrun]
    rfl
  · obtain ⟨name, hname, hread⟩ := htakes.read
    rw [htakes.snd_command]
    rcases e.countCommand.store_perform_cases db c with hsame | ⟨call, hcall, hrun⟩
    · rw [hsame]
      rfl
    · rw [hrun]
      refine Store.Call.collection?_run call e.store fun habout => ?_
      have haddressee := Command.collection?_eq_addressee? hname hread
      cases hcoll : c.collection? with
      | some coll =>
        rw [hcoll] at haddressee
        exact hd coll haddressee.symm (Command.isAbout_of_storeCall? hcall hcoll habout)
      | none =>
        -- the one change that names no collection
        obtain rfl := Command.eq_dropDatabase_of_storeCall? hcall hcoll
        obtain rfl := Option.some.inj hcall
        rw [Command.eq_of_ofDocument_dropDatabase hread] at hname
        exact hdatabase hname habout

/-- Two engines have the same documents under a namespace, and the same cursors over it. -/
structure AgreeOn (ns : Namespace) (e e' : Engine) : Prop where
  collection : e'.store.catalog.collection? ns.database.text ns.collection
    = e.store.catalog.collection? ns.database.text ns.collection
  cursors : ∀ id cursor, cursor.Over ns → (e'.cursor? id = some cursor ↔ e.cursor? id = some cursor)

theorem AgreeOn.refl (ns : Namespace) (e : Engine) : AgreeOn ns e e := ⟨rfl, fun _ _ _ => Iff.rfl⟩

theorem AgreeOn.trans {other : Namespace} {e'' : Engine} (h : AgreeOn other e e')
    (h' : AgreeOn other e' e'') : AgreeOn other e e'' :=
  ⟨h'.collection.trans h.collection,
    fun id cursor hover => (h'.cursors id cursor hover).trans (h.cursors id cursor hover)⟩

/-- Cursors over a namespace stay with every command that is addressed to another one. -/
theorem Reachable.cursor?_command (h : e.Reachable) (connection : ConnectionId) {d : Document}
    {coll : String} (hd : d.addressee? = some coll) {other : Namespace}
    (hother : ¬ (other.database.text = db ∧ other.collection = coll)) {cursor : Cursor}
    (hover : cursor.Over other) :
    (e.command connection db d).2.cursor? id = some cursor ↔ e.cursor? id = some cursor := by
  have hsound : (e.command connection db d).2.Sound := (h.call (.command connection db d)).sound
  rw [hsound.cursor?_eq_some_iff, h.sound.cursor?_eq_some_iff]
  rcases refused_or_takes e connection db d with ⟨err, hrun⟩ | ⟨err, hrun⟩ | ⟨c, htakes⟩
  · rw [hrun]
  · rw [hrun]
    rfl
  · obtain ⟨name, hname, hread⟩ := htakes.read
    have hcoll : c.collection? = some coll :=
      (Command.collection?_eq_addressee? hname hread).trans hd
    obtain ⟨ns, rfl, rfl⟩ := htakes.exists_namespace hcoll
    have hns : cursor.ns ≠ namespaceText ns.database.text ns.collection := by
      intro hsame
      obtain rfl := hover.eq (show cursor.Over ns from hsame)
      exact hother ⟨rfl, rfl⟩
    rw [htakes.snd_command]
    exact h.sound.countCommand.mem_perform hcoll hns

/-- **A command that is addressed elsewhere.** -/
theorem Reachable.agreeOn_command (h : e.Reachable) (connection : ConnectionId) {d : Document}
    {coll : String} (hd : d.addressee? = some coll) {other : Namespace}
    (hother : ¬ (other.database.text = db ∧ other.collection = coll)) :
    AgreeOn other e (e.command connection db d).2 := by
  refine ⟨e.collection?_command connection ?_ ?_, fun id cursor hover =>
    h.cursor?_command connection hd hother hover⟩
  · intro coll' hcoll'
    obtain rfl := Option.some.inj (hd.symm.trans hcoll')
    exact hother
  · intro hname
    rw [Document.addressee?, hname] at hd
    cases hd

/-- **Any number of commands** that are addressed elsewhere. Induction on the commands. -/
theorem Reachable.agreeOn_commands (h : e.Reachable) {other : Namespace}
    (commands : List (ConnectionId × String × Document))
    (hcommands : ∀ c ∈ commands, ∃ coll, c.2.2.addressee? = some coll ∧
      ¬ (other.database.text = c.2.1 ∧ other.collection = coll)) :
    AgreeOn other e (commands.foldl (fun e c => (e.command c.1 c.2.1 c.2.2).2) e) := by
  induction commands generalizing e with
  | nil => exact .refl other e
  | cons c commands ih =>
    obtain ⟨coll, hd, hother⟩ := hcommands c List.mem_cons_self
    have hstep := h.agreeOn_command c.1 hd hother
    have hnext := h.call (.command c.1 c.2.1 c.2.2)
    exact hstep.trans (ih hnext fun c' hc' => hcommands c' (List.mem_cons_of_mem c hc'))

/-- A cursor that is there after a command was there before, over the same namespace, or has been opened
by the command over the collection that this is addressed to. -/
theorem Reachable.over_of_command (h : e.Reachable) (connection : ConnectionId) {d : Document}
    {cursor' : Cursor} (hcursor' : (e.command connection db d).2.cursor? id = some cursor') :
    (∃ cursor, e.cursor? id = some cursor ∧ cursor'.ns = cursor.ns) ∨
      e.cursor? id = none ∧ ∃ ns : Namespace, ns.database.text = db ∧
        d.addressee? = some ns.collection ∧ cursor'.Over ns := by
  have hsound : (e.command connection db d).2.Sound := (h.call (.command connection db d)).sound
  rcases refused_or_takes e connection db d with ⟨err, hrun⟩ | ⟨err, hrun⟩ | ⟨c, htakes⟩
  · rw [hrun] at hcursor'
    exact Or.inl ⟨cursor', hcursor', rfl⟩
  · rw [hrun] at hcursor'
    exact Or.inl ⟨cursor', hcursor', rfl⟩
  · rw [hsound.cursor?_eq_some_iff, htakes.snd_command] at hcursor'
    rcases h.sound.countCommand.ns_perform db c hcursor' with hkept | ⟨hnew, coll, hcoll, hns⟩
    · exact Or.inl hkept
    · obtain ⟨ns, rfl, rfl⟩ := htakes.exists_namespace hcoll
      obtain ⟨name, hname, hread⟩ := htakes.read
      refine Or.inr ⟨hnew, ns, rfl, ?_, hns⟩
      rw [← Command.collection?_eq_addressee? hname hread, hcoll]

end Engine

/-- **Namespaces do not interfere.** Every cursor is over one namespace, the one of the command that has
opened it. A command document that is addressed to a collection of a database leaves every other
collection of any database as it is, and with it all cursors over other namespaces, whatever it is
answered and whatever else it names. One that drops a database leaves the other databases, and all
cursors. -/
theorem command_keeps_other_namespaces {e : Engine} (h : e.Reachable) (connection : ConnectionId)
    (db : String) (d : Document) :
    let e' := (e.command connection db d).2
    (∀ id cursor, e.cursor? id = some cursor →
      ∃ ns : Namespace, ∀ other, cursor.Over other ↔ other = ns) ∧
    (∀ id cursor', e'.cursor? id = some cursor' →
      (∃ cursor, e.cursor? id = some cursor ∧ cursor'.ns = cursor.ns) ∨
        e.cursor? id = none ∧ ∃ ns : Namespace, ns.database.text = db ∧
          d.addressee? = some ns.collection ∧ cursor'.Over ns) ∧
    (∀ coll, d.addressee? = some coll →
      (∀ db' coll', ¬ (db' = db ∧ coll' = coll) →
        e'.store.catalog.collection? db' coll' = e.store.catalog.collection? db' coll') ∧
      ∀ other : Namespace, ¬ (other.database.text = db ∧ other.collection = coll) →
        ∀ id cursor, cursor.Over other → (e'.cursor? id = some cursor ↔ e.cursor? id = some cursor)) ∧
    (d.firstName? = some "dropDatabase" →
      (∀ db' coll', db' ≠ db →
        e'.store.catalog.collection? db' coll' = e.store.catalog.collection? db' coll') ∧
      e'.cursors = e.cursors) := by
  intro e'
  refine ⟨fun id cursor => h.exists_over, fun id cursor' => h.over_of_command connection,
    fun coll hd => ⟨fun db' coll' hother => ?_, fun other hother id cursor hover =>
      h.cursor?_command connection hd hother hover⟩, fun hname => ⟨fun db' coll' hne => ?_, ?_⟩⟩
  · refine e.collection?_command connection (fun coll' hcoll' => ?_) fun hname => ?_
    · obtain rfl := Option.some.inj (hd.symm.trans hcoll')
      exact hother
    · rw [Document.addressee?, hname] at hd
      cases hd
  · refine e.collection?_command connection (fun coll' hcoll' => ?_) fun _ => hne
    rw [Document.addressee?, hname] at hcoll'
    cases hcoll'
  · rcases Engine.refused_or_takes e connection db d with ⟨err, hrun⟩ | ⟨err, hrun⟩ | ⟨c, htakes⟩
    · show (e.command connection db d).2.cursors = _
      rw [hrun]
    · show (e.command connection db d).2.cursors = _
      rw [hrun]
      rfl
    · obtain ⟨name, hname', hread⟩ := htakes.read
      obtain rfl := Option.some.inj (hname.symm.trans hname')
      obtain rfl := Except.ok.inj hread
      exact htakes.cursors_of_dropDatabase

/-- Two collections, one with a name that goes on where the other one ends. The cursor over the second one
outlives a `killCursors` that is addressed to the first one and names both, and the drop of this. -/
theorem command_keeps_other_namespaces_of_points :
    let host : Host := { ids := fun _ => "", showTime := fun _ => "" }
    let document (n : Nat) : Value := .object [("_id", .ofNat n)]
    let insert (coll : String) : Engine.Call := .command 1 "db" ⟨[("insert", .string coll),
      ("documents", .array [document 1, document 2])]⟩
    let aggregate (coll : String) : Engine.Call := .command 1 "db" ⟨[("aggregate", .string coll),
      ("pipeline", .array []), ("cursor", .object [("batchSize", .ofNat 1)])]⟩
    let kill : Document := ⟨[("killCursors", .string "a"), ("cursors", .array [.ofNat 1, .ofNat 2])]⟩
    let drop : Document := ⟨[("drop", .string "a")]⟩
    ∃ e₀, Engine.start {} host = .ok e₀ ∧
      let e := [.openConnection, insert "a", insert "a.b", aggregate "a", aggregate "a.b"].foldl
        (fun e (c : Engine.Call) => c.after e) e₀
      kill.addressee? = some "a" ∧ drop.addressee? = some "a" ∧
      (∃ cursor, e.cursor? 2 = some cursor ∧ cursor.ns = "db.a.b" ∧
        (e.command 1 "db" kill).2.cursor? 2 = some cursor) ∧
      ((e.command 1 "db" kill).2.cursor? 1).isNone ∧
      (e.command 1 "db" drop).2.store.catalog.documents "db" "a" = [] ∧
      (e.command 1 "db" drop).2.store.catalog.collection? "db" "a.b"
        = e.store.catalog.collection? "db" "a.b" := by
  intro host document insert aggregate kill drop
  have hcalls := fun e₀ (h : Engine.start {} host = .ok e₀) =>
    (((((Engine.Reachable.start h).call .openConnection).call (insert "a")).call
      (insert "a.b")).call (aggregate "a")).call (aggregate "a.b")
  have hkill := fun e (h : Engine.Reachable e) =>
    (command_keeps_other_namespaces h 1 "db" kill).2.2.1 "a" rfl
  have hdrop := fun e (h : Engine.Reachable e) =>
    (command_keeps_other_namespaces h 1 "db" drop).2.2.1 "a" rfl
  -- the names are put in, for the rest is evaluated
  subst host document insert aggregate kill drop
  refine ⟨_, rfl, ?_⟩
  intro e
  have hreachable : e.Reachable := hcalls _ rfl
  have hother : ¬ ("db" = "db" ∧ "a.b" = "a") := by decide
  obtain ⟨cursor, hcursor, hns⟩ : ∃ cursor, e.cursor? 2 = some cursor ∧ cursor.ns = "db.a.b" :=
    ⟨_, rfl, rfl⟩
  have hover : cursor.Over ⟨⟨"db", by decide⟩, "a.b", by decide⟩ := hns
  exact ⟨rfl, rfl, ⟨cursor, hcursor, hns, ((hkill e hreachable).2 _ hother 2 cursor hover).mpr hcursor⟩,
    rfl, rfl, (hdrop e hreachable).1 "db" "a.b" hother⟩

end DocStore
