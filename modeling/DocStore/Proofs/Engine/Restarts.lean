import DocStore.Proofs.Engine.Changes
import DocStore.Proofs.Store.Tidy

/-!
# DocStore — engines that stop and start again

On a machine one engine runs after the other, all of them over the same journal's file. An engine may
stop at any moment, with the file cut to any length; the next one starts from what is left, with options
of its own. Nobody else writes to the file. But a record need not be read as it was written: the reader
rounds numbers more than once, and two doubles that were told apart may come back as one.

* **`Engine.Call.store_after`** — what a call on an engine does to the store is one call on the store.
* **`Machine.Tidy`** — the invariant: the file was written by calls, and a catalog that is there is tidy;
  as far as records are read as they were written, its `_id` texts are apart, too.
* **`Machine.Tidy.after`** — the step, one case for each way to come to a machine;
  **`Machine.Tidy.run`** carries it over a run.
* **`catalog_represents_documents`** — the main statement, on all that is kept beside the documents and on
  what is listed; **`ids_meet_after_restart`** shows two `_id`s that are read as one.
-/

namespace DocStore

/-! ## §1 — calls on an engine as calls on its store -/

/-- An insert that is read brings documents. -/
theorem Command.documents_ne_nil {name coll : String} {d : Document} {ds : List Document}
    (hname : d.firstName? = some name) (hread : ofDocument name d = .ok (.insert coll ds)) :
    ds ≠ [] := by
  -- only three names are those of commands that change something
  cases hd : d.namesChange with
  | false => cases isChange_of_ofDocument hname hread hd
  | true =>
    unfold Document.namesChange at hd
    rw [hname] at hd
    simp only [List.contains_eq_mem, List.mem_cons, Option.some.injEq, List.not_mem_nil, or_false,
      decide_eq_true_eq] at hd
    rcases hd with rfl | rfl | rfl
    · obtain ⟨_, -, h⟩ := ok_of_bind hread
      obtain ⟨_, -, h⟩ := ok_of_bind h
      obtain ⟨_, -, h⟩ := ok_of_bind h
      split at h
      · cases h
      · next hsome =>
        obtain ⟨-, rfl⟩ := Command.insert.inj (Except.ok.inj h)
        exact fun hnil => hsome (List.isEmpty_iff.mpr hnil)
    · obtain ⟨_, -, h⟩ := ok_of_bind hread
      cases h
    · cases hread

namespace Engine

/-- The call on the store that a call on an engine comes to. -/
def Call.Asks : Call → Engine → Store.Call → Prop
  | command connection db d, e, call => ∃ c, e.Takes connection db d c ∧ c.storeCall? db = some call
  | pump, _, call | close, _, call => call = .flush
  | _, _, _ => False

theorem Call.Asks.brings {c : Call} {e : Engine} {call : Store.Call} (h : c.Asks e call) :
    call.Brings := by
  cases c with
  | command connection db d =>
    obtain ⟨c, htakes, hcall⟩ := h
    obtain ⟨name, hname, hread⟩ := htakes.read
    cases c with
    | insert coll ds =>
      obtain rfl := Option.some.inj hcall
      exact Command.documents_ne_nil hname hread
    | drop coll =>
      obtain rfl := Option.some.inj hcall
      trivial
    | dropDatabase =>
      obtain rfl := Option.some.inj hcall
      trivial
    | _ => cases hcall
  | pump =>
    obtain rfl : call = .flush := h
    trivial
  | close =>
    obtain rfl : call = .flush := h
    trivial
  | openConnection => cases h
  | closeConnection connection => cases h
  | move host => cases h

/-- **What a call on an engine does to the store**: nothing, or what one call on the store does, unless
the host goes its own way. -/
theorem Call.store_after (c : Call) (e : Engine) :
    (∃ host, c = .move host) ∨ (c.after e).store = e.store ∨
      ∃ call, c.Asks e call ∧ (c.after e).store = (call.run e.store).2 := by
  cases c with
  | openConnection =>
    refine Or.inr (Or.inl ?_)
    show e.openConnection.2.store = e.store
    unfold Engine.openConnection
    split <;> rfl
  | closeConnection connection =>
    refine Or.inr (Or.inl ?_)
    show (e.closeConnection connection).2.store = e.store
    unfold Engine.closeConnection
    split
    · rfl
    · split <;> rfl
  | command connection db d =>
    rcases refused_or_takes e connection db d with ⟨err, hrun⟩ | ⟨err, hrun⟩ | ⟨c, htakes⟩
    · exact Or.inr (Or.inl (congrArg (fun answer => answer.2.store) hrun))
    · exact Or.inr (Or.inl (congrArg (fun answer => answer.2.store) hrun))
    · have hafter := congrArg Engine.store htakes.snd_command
      rcases e.countCommand.store_perform_cases db c with hsame | ⟨call, hcall, hrun⟩
      · exact Or.inr (Or.inl (hafter.trans hsame))
      · exact Or.inr (Or.inr ⟨call, ⟨c, htakes, hcall⟩, hafter.trans hrun⟩)
  | pump =>
    have hpump : e.pump.2.store = e.store ∨ e.pump.2.store = e.store.flush.2 := by
      unfold Engine.pump
      split
      · exact Or.inl rfl
      · rcases e.store.flush with ⟨answer, store⟩
        cases answer <;> exact Or.inr rfl
    rcases hpump with hsame | hrun
    · exact Or.inr (Or.inl hsame)
    · exact Or.inr (Or.inr ⟨.flush, rfl, hrun⟩)
  | close =>
    have hclose : e.close.2.store = e.store ∨ e.close.2.store = e.store.flush.2 := by
      unfold Engine.close
      split
      · exact Or.inl rfl
      · exact Or.inr rfl
    rcases hclose with hsame | hrun
    · exact Or.inr (Or.inl hsame)
    · exact Or.inr (Or.inr ⟨.flush, rfl, hrun⟩)
  | move host => exact Or.inl ⟨host, rfl⟩

end Engine

/-! ## §2 — machines -/

/-- A machine, with an engine that runs on it or without one. -/
inductive Machine where
  | idle (host : Host)
  | running (e : Engine)

namespace Machine

def host : Machine → Host
  | idle host => host
  | running e => e.store.host

/-- What befalls a machine: an engine is started, called or stopped, with the journal's file cut to a
length, or the host goes its own way while no engine runs. -/
inductive Event where
  | start (options : Options)
  | call (c : Engine.Call)
  | stop (kept : Nat)
  | move (host : Host)

namespace Event

/-- A start that fails leaves the machine without an engine. -/
def after : Event → Machine → Machine
  | start options, idle host =>
    match Engine.start options host with
    | .ok e => running e
    | .error (_, host) => idle host
  | call c, running e => running (c.after e)
  | stop kept, running e => idle (e.store.host.withDisk (e.store.host.disk.truncate kept))
  | move host, idle _ => idle host
  | _, m => m

/-- The host that goes its own way has the same file. -/
def LeavesFile : Event → Machine → Prop
  | call (.move host), m | move host, m => host.disk.bytes = m.host.disk.bytes
  | _, _ => True

/-- The event puts a record at the end of the file. -/
def Logs : Event → Machine → Record → Prop
  | call c, running e, r =>
    e.store.isDurable = true ∧ ∃ call, c.Asks e call ∧ r ∈ call.logged e.store
  | _, _, _ => False

/-- Only commands that the engine takes write records: those of their changes. -/
theorem Logs.exists_command {event : Event} {m : Machine} {r : Record} (h : event.Logs m r) :
    ∃ connection db d e c call, event = .call (.command connection db d) ∧ m = .running e ∧
      e.Takes connection db d c ∧ c.storeCall? db = some call ∧ call.change? e.store = some r := by
  cases event with
  | call c =>
    cases m with
    | idle host => cases h
    | running e =>
      obtain ⟨-, call, hasks, hlogged⟩ := h
      have hchange := Store.Call.change?_of_mem_logged hlogged
      cases c with
      | command connection db d =>
        obtain ⟨c, htakes, hcall⟩ := hasks
        exact ⟨connection, db, d, e, c, call, rfl, rfl, htakes, hcall, hchange⟩
      | pump =>
        obtain rfl : call = .flush := hasks
        cases hchange
      | close =>
        obtain rfl : call = .flush := hasks
        cases hchange
      | openConnection => cases hasks
      | closeConnection connection => cases hasks
      | move host => cases hasks
  | start options => cases m <;> cases h
  | stop kept => cases m <;> cases h
  | move host => cases m <;> cases h

end Event

/-- A run of events. -/
def run (m : Machine) (events : List Event) : Machine := events.foldl (fun m event => event.after m) m

/-- Nobody but the engines writes to the file. -/
def LeavesFile : Machine → List Event → Prop
  | _, [] => True
  | m, event :: events => event.LeavesFile m ∧ LeavesFile (event.after m) events

/-- A record is written by a run. -/
def Logs : Machine → List Event → Record → Prop
  | _, [], _ => False
  | m, event :: events, r => event.Logs m r ∨ Logs (event.after m) events r

/-- Whatever is written before an engine is started is read as it was written, or not at all. -/
def Rereads (m : Machine) (events : List Event) : Prop :=
  ∀ before options after, events = before ++ .start options :: after →
    ∀ r, m.Logs before r → r.Faithful

theorem Logs.append {m : Machine} {events : List Event} {r : Record} (h : m.Logs events r)
    (after : List Event) : m.Logs (events ++ after) r := by
  induction events generalizing m with
  | nil => cases h
  | cons event events ih => exact Or.imp_right ih h

/-- What a run writes one of its events writes. -/
theorem Logs.exists_event {m : Machine} {events : List Event} {r : Record} (h : m.Logs events r) :
    ∃ event ∈ events, ∃ m', event.Logs m' r := by
  induction events generalizing m with
  | nil => cases h
  | cons event events ih =>
    rcases h with hfirst | hrest
    · exact ⟨event, List.mem_cons_self, m, hfirst⟩
    · obtain ⟨event', hmem, hlogs⟩ := ih hrest
      exact ⟨event', List.mem_cons_of_mem event hmem, hlogs⟩

/-! ## §3 — the invariant

Records are put into a catalog as they are read, so two documents may have one `_id` text after a start that
had two before. That every start reads what was written is a proposition here, `Exact`, and what rests on it
stands beside what does not. -/

variable {Exact : Prop} {Past Past' : Record → Prop}

/-- The bytes of a file that calls have written and that may have been cut: they are the beginning of the
frames of records of the past that bring documents. Read as they were written, these make catalogs with
their texts apart. -/
structure Written (Exact : Prop) (Past : Record → Prop) (bytes : List UInt8) (held : List Record) :
    Prop where
  bytes : ∃ n, bytes = (Journal.frames held).take n
  fits : ∀ r ∈ held, r.Fits
  brings : ∀ r ∈ held, r.Brings
  logged : ∀ r ∈ held, Past r
  keyed : Exact → Store.Throughout Catalog.Keyed held

theorem written_nil : Written Exact Past [] [] :=
  ⟨⟨0, rfl⟩, by simp, by simp, by simp, fun _ => Store.throughout_nil Catalog.keyed_empty⟩

section

variable {bytes : List UInt8} {held : List Record}

theorem Written.mono (h : Written Exact Past bytes held) (hpast : ∀ r, Past r → Past' r) :
    Written Exact Past' bytes held :=
  ⟨h.bytes, h.fits, h.brings, fun r hr => hpast r (h.logged r hr), h.keyed⟩

/-- A cut may be followed by another one. -/
theorem Written.take (h : Written Exact Past bytes held) (kept : Nat) :
    Written Exact Past (bytes.take kept) held := by
  obtain ⟨n, hbytes⟩ := h.bytes
  refine ⟨⟨min kept n, ?_⟩, h.fits, h.brings, h.logged, h.keyed⟩
  rw [hbytes, List.take_take]

/-- The records inside the bytes that are left of a file stand for a file of their own. -/
theorem Written.within (h : Written Exact Past bytes held) (n : Nat) :
    Written Exact Past (Journal.frames (Journal.within n held)) (Journal.within n held) := by
  have hbegin := Journal.within_isPrefix n held
  refine ⟨⟨(Journal.frames (Journal.within n held)).length, ?_⟩, fun r hr => h.fits r (hbegin.subset hr),
    fun r hr => h.brings r (hbegin.subset hr), fun r hr => h.logged r (hbegin.subset hr),
    fun hexact => (h.keyed hexact).of_isPrefix hbegin⟩
  rw [List.take_length]

end

/-- The file was written by calls. An engine that runs in memory has a tidy catalog with its texts apart;
the catalog of one that keeps a journal was made by records that bring documents, those in the file or what
they were read as. -/
inductive Tidy (Exact : Prop) (Past : Record → Prop) : Machine → Prop where
  | idle {host : Host} {held : List Record} (h : Written Exact Past host.disk.bytes held) :
      Tidy Exact Past (.idle host)
  | inMemory {e : Engine} {held : List Record} (h : Written Exact Past e.store.host.disk.bytes held)
      (hjournal : e.store.journal = none) (htidy : e.store.catalog.Tidy)
      (hkeyed : e.store.catalog.Keyed) : Tidy Exact Past (.running e)
  | durable {e : Engine} {held loaded : List Record}
      (h : Written Exact Past e.store.host.disk.bytes held) (hrests : e.store.Rests held loaded)
      (hbrings : ∀ r ∈ loaded, r.Brings) (hloaded : Exact → loaded = held) :
      Tidy Exact Past (.running e)

variable {m : Machine}

theorem Tidy.mono (h : Tidy Exact Past m) (hpast : ∀ r, Past r → Past' r) : Tidy Exact Past' m := by
  cases h with
  | idle h => exact .idle (h.mono hpast)
  | inMemory h hjournal htidy hkeyed => exact .inMemory (h.mono hpast) hjournal htidy hkeyed
  | durable h hrests hbrings hloaded => exact .durable (h.mono hpast) hrests hbrings hloaded

theorem Tidy.catalog {e : Engine} (h : Tidy Exact Past (.running e)) : e.store.catalog.Tidy := by
  cases h with
  | inMemory h hjournal htidy hkeyed => exact htidy
  | durable h hrests hbrings hloaded =>
    obtain ⟨_, hmade, htidy⟩ := Catalog.tidy_empty.applyAll hbrings
    rwa [Except.ok.inj (hrests.catalog.symm.trans hmade)]

theorem Tidy.keyed {e : Engine} (h : Tidy Exact Past (.running e)) (hexact : Exact) :
    e.store.catalog.Keyed := by
  cases h with
  | inMemory h hjournal htidy hkeyed => exact hkeyed
  | durable h hrests hbrings hloaded =>
    obtain rfl := hloaded hexact
    exact (h.keyed hexact).catalog hrests

/-- An engine starts with the store that is opened, and without connections. -/
theorem start_of_open {options : Options} {host : Host} {s : Store}
    (h : Store.open options host = .ok s) :
    ∃ e, (Event.start options).after (.idle host) = .running e ∧ e.store = s ∧ e.closed = false ∧
      e.connections = [] ∧ e.nextConnection = 1 := by
  simp only [Event.after, Engine.start, h]
  exact ⟨_, rfl, rfl, rfl, rfl, rfl⟩

/-- **A start** in memory has nothing, and one on the file finds what calls have made, as it is read. -/
theorem Tidy.start {host : Host} {held : List Record} (h : Written Exact Past host.disk.bytes held)
    (options : Options) (hread : Exact → ∀ r, Past r → r.Faithful) :
    Tidy Exact Past ((Event.start options).after (.idle host)) := by
  obtain ⟨n, hbytes⟩ := h.bytes
  rcases Store.open_of_written options hbytes h.fits h.brings with
    ⟨err, host', hopen, hsame⟩ | hopen | ⟨s, hopen, hrests, hreturn⟩
  · simp only [Event.after, Engine.start, hopen]
    exact .idle (hsame.symm ▸ h)
  · obtain ⟨e, hstart, hstore, -⟩ := start_of_open hopen
    rw [hstart]
    have hwritten : Written Exact Past e.store.host.disk.bytes held := by
      rw [hstore]
      exact h
    exact .inMemory hwritten (hstore.symm ▸ rfl) (hstore.symm ▸ Catalog.tidy_empty)
      (hstore.symm ▸ Catalog.keyed_empty)
  · obtain ⟨e, hstart, rfl, -⟩ := start_of_open hopen
    rw [hstart]
    have hleft := h.within n
    refine .durable (hrests.bytes.symm ▸ hleft) hrests ?_ fun hexact => ?_
    · exact List.forall_mem_map.mpr fun r hr => (hleft.brings r hr).reread
    · -- what is read as itself, or not at all, was read
      have hself : ∀ r ∈ Journal.within n held, r.reread = id r := fun r hr =>
        hread hexact r (hleft.logged r hr) _ (hreturn r hr)
      rw [List.map_congr_left hself, List.map_id]

/-- **A call on an engine.** -/
theorem Tidy.call {e : Engine} (h : Tidy Exact Past (.running e)) {c : Engine.Call}
    (hfile : (Event.call c).LeavesFile (.running e)) :
    Tidy Exact (fun r => Past r ∨ (Event.call c).Logs (.running e) r) (.running (c.after e)) := by
  have hstays := h.mono fun r (hr : Past r) => Or.inl (b := (Event.call c).Logs (.running e) r) hr
  rcases c.store_after e with ⟨host, rfl⟩ | hsame | ⟨call, hasks, hrun⟩
  · -- the host goes its own way
    have hbytes : host.disk.bytes = e.store.host.disk.bytes := hfile
    cases hstays with
    | inMemory h hjournal htidy hkeyed => exact .inMemory (hbytes.symm ▸ h) hjournal htidy hkeyed
    | durable h hrests hbrings hloaded =>
      exact .durable (hbytes.symm ▸ h)
        ⟨hrests.durable, hbytes.trans hrests.bytes, hrests.fits, hrests.catalog⟩ hbrings hloaded
  · cases hstays with
    | inMemory h hjournal htidy hkeyed =>
      exact .inMemory (hsame.symm ▸ h) (hsame.symm ▸ hjournal) (hsame.symm ▸ htidy) (hsame.symm ▸ hkeyed)
    | durable h hrests hbrings hloaded =>
      exact .durable (hsame.symm ▸ h) (hsame.symm ▸ hrests) hbrings hloaded
  · cases hstays with
    | inMemory h hjournal htidy hkeyed =>
      obtain ⟨hjournal', hbytes⟩ := call.run_of_inMemory hjournal
      rw [← hbytes, ← hrun] at h
      exact .inMemory h (hrun.symm ▸ hjournal') (hrun.symm ▸ Store.Call.tidy_run hasks.brings htidy)
        (hrun.symm ▸ call.keyed_run hkeyed)
    | @durable _ held loaded h hrests hbrings hloaded =>
      -- the file holds one record more, or is as it was
      have hnext := hrests.call call
      have hnew : ∀ r ∈ call.logged e.store, r.Brings := fun r hr =>
        Store.Call.brings_change hasks.brings (Store.Call.change?_of_mem_logged hr)
      have hwritten : Written Exact (fun r => Past r ∨ (Event.call c).Logs (.running e) r)
          (call.run e.store).2.host.disk.bytes (held ++ call.logged e.store) := by
        rw [hnext.bytes]
        refine ⟨⟨_, (List.take_length).symm⟩, hnext.fits, List.forall_mem_append.mpr ⟨h.brings, hnew⟩,
          List.forall_mem_append.mpr ⟨h.logged, fun r hr => ?_⟩, fun hexact => ?_⟩
        · exact Or.inr ⟨hrests.durable, call, hasks, hr⟩
        · obtain rfl := hloaded hexact
          have hkeyed := call.keyed_run ((h.keyed hexact).catalog hrests)
          exact (h.keyed hexact).call hrests hkeyed
      exact .durable (hrun.symm ▸ hwritten) (hrun.symm ▸ hnext)
        (List.forall_mem_append.mpr ⟨hbrings, hnew⟩) fun hexact => by rw [hloaded hexact]

/-- **One event.** Only a start reads what was written. -/
theorem Tidy.after (h : Tidy Exact Past m) {event : Event} (hfile : event.LeavesFile m)
    (hread : ∀ options, event = .start options → Exact → ∀ r, Past r → r.Faithful) :
    Tidy Exact (fun r => Past r ∨ event.Logs m r) (event.after m) := by
  cases event with
  | start options =>
    refine Tidy.mono ?_ fun r => Or.inl
    cases h with
    | idle h => exact .start h options (hread options rfl)
    | inMemory h hjournal htidy hkeyed => exact .inMemory h hjournal htidy hkeyed
    | durable h hrests hbrings hloaded => exact .durable h hrests hbrings hloaded
  | call c =>
    cases m with
    | idle host => exact h.mono fun r => Or.inl
    | running e => exact h.call hfile
  | stop kept =>
    refine Tidy.mono ?_ fun r => Or.inl
    cases h with
    | idle h => exact .idle h
    | inMemory h _ _ _ => exact .idle (h.take kept)
    | durable h _ _ _ => exact .idle (h.take kept)
  | move host =>
    refine Tidy.mono ?_ fun r => Or.inl
    cases h with
    | idle h =>
      have hbytes : host.disk.bytes = _ := hfile
      exact .idle (hbytes.symm ▸ h)
    | inMemory h hjournal htidy hkeyed => exact .inMemory h hjournal htidy hkeyed
    | durable h hrests hbrings hloaded => exact .durable h hrests hbrings hloaded

/-- **A run.** Induction on the events, for any past. -/
theorem Tidy.run (h : Tidy Exact Past m) {events : List Event} (hfile : m.LeavesFile events)
    (hread : Exact → ∀ before options after, events = before ++ .start options :: after →
      ∀ r, Past r ∨ m.Logs before r → r.Faithful) :
    Tidy Exact (fun r => Past r ∨ m.Logs events r) (m.run events) := by
  induction events generalizing m Past with
  | nil => exact h.mono fun r => Or.inl
  | cons event events ih =>
    have hnext := h.after hfile.1 fun options heq hexact r hr =>
      hread hexact [] options events (by rw [heq, List.nil_append]) r (Or.inl hr)
    refine (ih hnext hfile.2 fun hexact before options after heq r hr => ?_).mono fun r => or_assoc.mp
    exact hread hexact (event :: before) options after (by rw [heq, List.cons_append]) r (or_assoc.mp hr)

end Machine

/-! ## §4 — what is listed -/

namespace Engine

variable {e : Engine} {connection : ConnectionId} {db : String} {d : Document}

/-- How a database with documents is listed. -/
def databaseEntry (name : String) : Value := .object [("name", .string name), ("empty", .bool false)]

/-- **The databases** are listed in order, those that hold documents, none of them as empty. -/
theorem command_of_listDatabases (h : e.store.catalog.Tidy) (htakes : e.Takes connection db d .listDatabases) :
    ∃ names : List String,
      (e.command connection db d).1
        = .ok (Document.put ⟨[("databases", .array (names.map databaseEntry))]⟩ "ok" .one) ∧
      names.Pairwise (· < ·) ∧
      ∀ name, name ∈ names ↔ ∃ coll, e.store.scan name coll ≠ [] := by
  refine ⟨e.store.catalog.databaseNames, ?_, SortedMap.sorted_names _, fun name => h.mem_databaseNames⟩
  have hentries : (e.store.catalog.databaseNames.map fun name =>
      Value.object [("name", .string name), ("empty", .bool (e.store.catalog.collectionNames name).isEmpty)])
      = e.store.catalog.databaseNames.map databaseEntry := by
    apply List.map_congr_left
    intro name hname
    unfold databaseEntry
    rw [List.isEmpty_eq_false_iff.mpr (h.collectionNames_ne_nil hname)]
  rw [htakes.command, ← hentries]
  rfl

/-- **The collections of a database** are listed in order, those that hold documents. -/
theorem command_of_listCollections (h : e.store.catalog.Tidy)
    (htakes : e.Takes connection db d .listCollections) :
    ∃ names : List String,
      (e.command connection db d).1
        = .ok ((Reply.cursor 0 (namespaceText db "$cmd.listCollections") "firstBatch"
            (names.map Reply.collectionEntry)).put "ok" .one) ∧
      names.Pairwise (· < ·) ∧ ∀ coll, coll ∈ names ↔ e.store.scan db coll ≠ [] := by
  refine ⟨e.store.catalog.collectionNames db, ?_, Catalog.sorted_collectionNames _ db,
    fun coll => h.mem_collectionNames⟩
  rw [htakes.command]
  rfl

end Engine

/-! ## §5 — a start after an insert -/

namespace Machine

/-- Insert documents. -/
def insertCommand (ds : List Document) : Document :=
  ⟨[("insert", .string "notes"), ("documents", .array (ds.map Document.toValue))]⟩

/-- The record of that insert. -/
def insertRecord (ds : List Document) : Record := .insert "db" "notes" (ds.map Document.toValue)

/-- An engine is started, takes the insert and is stopped with all of the file left, and another one is
started. -/
def restart (options : Options) (ds : List Document) : List Event :=
  [.start options, .call .openConnection, .call (.command 1 "db" (insertCommand ds)),
    .stop (Journal.frames [insertRecord ds]).length, .start options]

variable {ds : List Document}

/-- The insert is all that is logged, whatever engine takes it. -/
theorem eq_of_logs_restart {options : Options} {host : Host} {r : Record}
    (hids : ∀ d ∈ ds, d.contains "_id" = true)
    (hread : Command.ofDocument "insert" (insertCommand ds) = .ok (.insert "notes" ds))
    (hlogs : (idle host).Logs (restart options ds) r) : r = insertRecord ds := by
  obtain ⟨event, hmem, _, hlogs⟩ := hlogs.exists_event
  obtain ⟨_, _, _, e, c, _, rfl, -, htakes, hcall, hchange⟩ := hlogs.exists_command
  obtain ⟨rfl, rfl, rfl⟩ : _ = 1 ∧ _ = "db" ∧ _ = insertCommand ds := by simpa [restart] using hmem
  obtain ⟨name, hname, hreads⟩ := htakes.read
  obtain rfl := Option.some.inj hname
  obtain rfl := Except.ok.inj (hread.symm.trans hreads)
  obtain rfl := Option.some.inj hcall
  rw [Store.Call.change?_insert hids] at hchange
  split at hchange
  · cases hchange
  · exact (Option.some.inj hchange).symm

/-- The first engine starts on an empty file, takes the insert and keeps its record. -/
theorem exists_run_insert {options : Options} {path : String} {host : Host}
    (hpath : options.journalPath? = some path) (hdisk : host.disk = {})
    (hids : ∀ d ∈ ds, d.contains "_id" = true) (hfree : Store.firstTaken? [] ds = none)
    (hread : Command.ofDocument "insert" (insertCommand ds) = .ok (.insert "notes" ds))
    (hfits : (insertRecord ds).Fits) :
    ∃ e, (idle host).run [.start options, .call .openConnection,
        .call (.command 1 "db" (insertCommand ds))] = .running e ∧ e.store.Keeps [insertRecord ds] := by
  let call : Store.Call := .insert "db" "notes" ds
  have hempty : host.disk.bytes = [] := by rw [hdisk]; rfl
  have hopen := Store.open_of_empty host hpath (by rw [hdisk]) hempty
  obtain ⟨e, hstart, hstore, hclosed, hnone, hfirst⟩ := start_of_open hopen
  have hconnected : e.openConnection.2 = { e with
      connections := [1], nextConnection := 2, totalConnections := e.totalConnections + 1 } := by
    unfold Engine.openConnection
    rw [if_neg (by simp [hclosed]), hnone, hfirst]
    rfl
  have htakes : e.openConnection.2.Takes 1 "db" (insertCommand ds) (.insert "notes" ds) := by
    rw [hconnected]
    exact ⟨hclosed, rfl, rfl, "insert", rfl, hread⟩
  have hinsert : (e.openConnection.2.command 1 "db" (insertCommand ds)).2.store
      = (call.run e.store).2 := by
    rw [htakes.snd_command, Engine.store_perform_of_call _ rfl, hconnected]
    rfl
  have hchange : call.change? e.store = some (insertRecord ds) := by
    have htaken : Catalog.empty.takenIds "db" "notes" = [] := rfl
    rw [Store.Call.change?_insert hids, hstore, htaken, hfree]
    rfl
  have hkeeps := (Store.keeps_nil_of_open hpath hempty (hstore ▸ hopen)).call call
  rw [Store.Call.logged_of_written hchange (by rw [hstore]) hfits (by rw [hstore, hdisk]; rfl),
    List.nil_append, ← hinsert] at hkeeps
  refine ⟨_, ?_, hkeeps⟩
  simp only [run, List.foldl_cons, List.foldl_nil, hstart]
  rfl

/-- **The second engine finds the documents** as they are read. -/
theorem exists_run_restart {options : Options} {path : String} {host : Host}
    (hpath : options.journalPath? = some path) (hdisk : host.disk = {})
    (hids : ∀ d ∈ ds, d.contains "_id" = true) (hfree : Store.firstTaken? [] ds = none)
    (hread : Command.ofDocument "insert" (insertCommand ds) = .ok (.insert "notes" ds))
    (hfits : (insertRecord ds).Fits) (hreturn : (insertRecord ds).Returns) :
    ∃ e, (idle host).run (restart options ds) = .running e ∧
      e.store.catalog = Catalog.empty.insert "db" "notes" (ds.map Document.reread) := by
  obtain ⟨e₁, hinsert, hkeeps⟩ := exists_run_insert hpath hdisk hids hfree hread hfits
  let left : Disk := e₁.store.host.disk.truncate (Journal.frames [insertRecord ds]).length
  have hbytes : left.bytes = Journal.frames [insertRecord ds] := by
    rw [Disk.bytes_truncate, hkeeps.bytes, List.take_length]
  have hintact : Journal.Intact (Journal.frames [insertRecord ds]) [(insertRecord ds).reread] :=
    .cons hfits hreturn .nil
  have hreplay : Journal.replay ⟨path, false⟩ (left.withBytes left.bytes) = _ :=
    Journal.replay_of_intact ⟨path, false⟩ (hbytes.symm ▸ hintact)
  have happly : Catalog.empty.applyAll [(insertRecord ds).reread]
      = .ok (Catalog.empty.insert "db" "notes" (ds.map Document.reread)) := by
    have hvalues := Document.rereadItems_map_toValue ds
    simp only [insertRecord, Record.reread, hvalues, Catalog.applyAll, Catalog.apply_insert]
  have hrestart : Store.open options (e₁.store.host.withDisk left) = _ :=
    Store.open_of_replay hpath hkeeps.reachable hreplay happly
  obtain ⟨e, hsecond, hrestored, -⟩ := start_of_open hrestart
  refine ⟨e, ?_, by rw [hrestored]⟩
  -- the events are those of the insert, and the stop and the second start behind them
  have hevents : (idle host).run (restart options ds) = ((idle host).run [.start options,
      .call .openConnection, .call (.command 1 "db" (insertCommand ds))]).run
        [.stop (Journal.frames [insertRecord ds]).length, .start options] := rfl
  rw [hevents, hinsert]
  exact hsecond

end Machine

/-- **What is kept beside the documents stands for them.** A machine starts without a file, or with an
empty one. Engines are started on it, called and stopped, with the file cut anywhere, and nobody else
writes to the file. Whenever an engine runs, the taken texts of every collection are the `_id` texts of
its documents; every document has an `_id`, every collection a document and every database a collection.
Listed are, in strictly increasing order, the databases that hold documents, none of them as empty, and of
a database the collections that hold documents. No two documents of a collection have the same `_id` text
if every start reads the records that it finds as they were written, or refuses them (`Machine.Rereads`). So
it does where documents are settled (`Record.Settled.faithful`). -/
theorem catalog_represents_documents {host : Host} (hblank : host.disk.bytes = [])
    {events : List Machine.Event} (hfile : (Machine.idle host).LeavesFile events) {e : Engine}
    (hrun : (Machine.idle host).run events = .running e) :
    (∀ db coll collection, e.store.catalog.collection? db coll = some collection →
      (∀ key, key ∈ collection.ids ↔ ∃ d ∈ collection.documents, d.idKey? = some key) ∧
      ((Machine.idle host).Rereads events → (collection.documents.map Document.idKey?).Nodup) ∧
      (∀ d ∈ collection.documents, d.id?.isSome = true) ∧ collection.documents ≠ []) ∧
    (∀ db collections, e.store.catalog.database? db = some collections →
      ∃ coll collection, collections.find? coll = some collection) ∧
    (∀ connection db d, e.Takes connection db d .listDatabases → ∃ names : List String,
      (e.command connection db d).1
        = .ok (Document.put ⟨[("databases", .array (names.map Engine.databaseEntry))]⟩ "ok" .one) ∧
      names.Pairwise (· < ·) ∧ ∀ name, name ∈ names ↔ ∃ coll, e.store.scan name coll ≠ []) ∧
    ∀ connection db d, e.Takes connection db d .listCollections → ∃ names : List String,
      (e.command connection db d).1
        = .ok ((Reply.cursor 0 (namespaceText db "$cmd.listCollections") "firstBatch"
            (names.map Reply.collectionEntry)).put "ok" .one) ∧
      names.Pairwise (· < ·) ∧ ∀ coll, coll ∈ names ↔ e.store.scan db coll ≠ [] := by
  have hwritten : Machine.Written ((Machine.idle host).Rereads events) (fun _ => False)
      host.disk.bytes [] := hblank.symm ▸ Machine.written_nil
  have hmachine := (Machine.Tidy.idle hwritten).run hfile fun hexact before options after heq r hr =>
    hexact before options after heq r (hr.resolve_left id)
  rw [hrun] at hmachine
  have htidy := hmachine.catalog
  refine ⟨fun db coll collection hfound => ?_, htidy.populated,
    fun connection db d => Engine.command_of_listDatabases htidy,
    fun connection db d => Engine.command_of_listCollections htidy⟩
  refine ⟨htidy.told db coll collection hfound, fun hexact => ?_,
    fun d => htidy.isSome_id? hfound, htidy.filled db coll collection hfound⟩
  exact (hmachine.keyed hexact db coll collection hfound).nodup_idKeys

/-- An engine on a journal that takes an insert of one document, and the one that is started after it. -/
theorem catalog_represents_documents_of_restart :
    let options : Options := { dbpath := some "data" }
    let host : Host := { ids := fun _ => "", showTime := fun _ => "" }
    let one : Document := ⟨[("_id", .ofNat 1)]⟩
    let events := Machine.restart options [one]
    host.disk.bytes = [] ∧ (Machine.idle host).LeavesFile events ∧
      (Machine.idle host).Rereads events ∧
      ∃ e, (Machine.idle host).run events = .running e ∧ e.store.scan "db" "notes" = [one] ∧
        ∀ collection, e.store.catalog.collection? "db" "notes" = some collection →
          (∀ key, key ∈ collection.ids ↔ ∃ d ∈ collection.documents, d.idKey? = some key) ∧
          (collection.documents.map Document.idKey?).Nodup := by
  intro options host one events
  have hids : ∀ d ∈ [one], d.contains "_id" = true := List.forall_mem_singleton.mpr rfl
  have hone : one.toValue.Settled := ⟨by decide, Number.reread_int (by decide) (by decide), trivial⟩
  have hrecord : (Machine.insertRecord [one]).Readable := (Record.readable_iff _).mpr (by cbv)
  have hfile : (Machine.idle host).LeavesFile events :=
    ⟨trivial, trivial, trivial, trivial, trivial, trivial⟩
  have hread : (Machine.idle host).Rereads events := by
    intro before options' after heq r hlogs
    have hlogs := hlogs.append (.start options' :: after)
    rw [← heq] at hlogs
    obtain rfl := Machine.eq_of_logs_restart hids rfl hlogs
    exact Record.Settled.faithful ⟨hone, trivial⟩
  have hpath : options.journalPath? = some "data/journal.emj" := by decide
  have hdisk : host.disk = {} := rfl
  obtain ⟨e, hrun, hcatalog⟩ := Machine.exists_run_restart hpath hdisk hids (by decide) rfl
    (Record.fits_of_length_chars (by decide)) (Record.returns_of_ofPayload? hrecord)
  have hscan : e.store.scan "db" "notes" = [one] := by
    show e.store.catalog.documents "db" "notes" = [one]
    rw [hcatalog, Catalog.documents_insert, List.map_singleton, Document.reread_of_settled hone]
    rfl
  obtain ⟨hcollections, -⟩ := catalog_represents_documents rfl hfile hrun
  refine ⟨rfl, hfile, hread, e, hrun, hscan, fun collection hfound => ?_⟩
  obtain ⟨hkeys, hnodup, -⟩ := hcollections "db" "notes" collection hfound
  exact ⟨hkeys, hnodup hread⟩

/-- **Two `_id`s may come to have one text**: two doubles that are neighbours are stored, and after a start
both are read as the second one. -/
theorem ids_meet_after_restart :
    let options : Options := { dbpath := some "data" }
    let host : Host := { ids := fun _ => "", showTime := fun _ => "" }
    let a : Number := .double (.ofInt 18638488053640093696)
    let b : Number := .double (.ofInt 18638488053640097792)
    let first : Document := ⟨[("_id", .number a)]⟩
    let second : Document := ⟨[("_id", .number b)]⟩
    first.idKey? ≠ second.idKey? ∧
      ∃ e, (Machine.idle host).run (Machine.restart options [first, second]) = .running e ∧
        ∃ collection, e.store.catalog.collection? "db" "notes" = some collection ∧
          collection.documents.map Document.idKey? = [second.idKey?, second.idKey?] := by
  intro options host a b first second
  have ha : a.chars = "1.8638488053640094e+19".toList := by decide +kernel
  have hb : b.chars = "1.8638488053640098e+19".toList := by decide +kernel
  have hfirstRead : Json.numberAt "1.8638488053640094e+19".toList = some (b, []) := by decide +kernel
  have hsecondRead : Json.numberAt "1.8638488053640098e+19".toList = some (b, []) := by decide +kernel
  -- only these facts about the two numbers matter from here on
  clear_value a b
  have hfirstKey : first.idKey? = some "1.8638488053640094e+19" := by
    show some (String.ofList a.chars) = _
    rw [ha, String.ofList_toList]
  have hsecondKey : second.idKey? = some "1.8638488053640098e+19" := by
    show some (String.ofList b.chars) = _
    rw [hb, String.ofList_toList]
  have hfree : Store.firstTaken? [] [first, second] = none := by
    simp [Store.firstTaken?, hfirstKey, hsecondKey]
  have hids : ∀ d ∈ [first, second], d.contains "_id" = true :=
    List.forall_mem_cons.mpr ⟨rfl, List.forall_mem_singleton.mpr rfl⟩
  have hrecord : 4 * (Machine.insertRecord [first, second]).toValue.chars.length < 2 ^ 32 ∧
      (Record.ofPayload? (Machine.insertRecord [first, second]).payload).isSome = true := by
    rw [Record.ofPayload?_chars]
    simp only [first, second, Machine.insertRecord, Record.toValue, List.map_cons, List.map_nil,
      Document.toValue, Value.chars, Value.itemChars, Value.fieldChars, ha, hb]
    decide +kernel
  obtain ⟨hlength, hread⟩ := hrecord
  obtain ⟨_, hread⟩ := Option.isSome_iff_exists.mp hread
  have hpath : options.journalPath? = some "data/journal.emj" := by decide
  have hdisk : host.disk = {} := rfl
  obtain ⟨e, hrun, hcatalog⟩ := Machine.exists_run_restart hpath hdisk hids hfree rfl
    (Record.fits_of_length_chars hlength) (Record.returns_of_ofPayload? hread)
  have hfirst : first.reread = second := by
    show (⟨[("_id", .number a.reread)]⟩ : Document) = second
    unfold Number.reread
    rw [ha, hfirstRead]
  have hsecond : second.reread = second := by
    show (⟨[("_id", .number b.reread)]⟩ : Document) = second
    unfold Number.reread
    rw [hb, hsecondRead]
  refine ⟨?_, e, hrun, _, by rw [hcatalog, Catalog.collection?_insert, if_pos ⟨rfl, rfl⟩], ?_⟩
  · rw [hfirstKey, hsecondKey]
    decide
  · show (([first, second].map Document.reread).map Document.idKey?) = _
    rw [List.map_cons, List.map_singleton, hfirst, hsecond]
    rfl

end DocStore
