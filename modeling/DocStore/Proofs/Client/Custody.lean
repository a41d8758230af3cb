import DocStore.Proofs.Client.Drain
import DocStore.Proofs.Client.Upkeep
import DocStore.Proofs.Engine.Custody

/-!
# DocStore — whoever opens a cursor gives it up

A client that runs a pipeline gets a stream, and the stream holds the key of the cursor that the server
keeps for it. The two have to stay in step through all that can happen: batches that come, that cannot be
read, or that do not come at all, and cursors that are killed or given up by others. As long as clients
come by cursors in no other way, every cursor of the table is the one of a stream that is still held, or
of the cursor that was taken out of it.

* **`Engine.Custody.stream`**, **`Custody.fetches`**, **`Custody.discard`** — the steps: a stream is
  opened, fetches a batch, and is given up.
* **`Holdings`** — a server and what is held over it; `Holdings.Act` is what clients do.
* **`Holdings.Kept.run`** — custody through all of it, by induction on what is done.
* **`streams_leak_no_cursor`** — the main statement.
-/

namespace DocStore

variable {α : Type} {keys others : List (CursorId × String)} {s : Server}

/-! ## §1 — documents that open no cursor -/

/-- None of the documents that a client sends of itself is an `aggregate`, unless it runs a pipeline. -/
theorem usual_not_opens : Usual fun d => ¬ d.Opens := by
  refine ⟨fun r hopens => ?_, fun ns id batchSize hopens => ?_⟩
  · obtain ⟨hname, -⟩ := hopens
    cases r with
    | insert => exact absurd hname (show some "insert" ≠ some "aggregate" by decide)
    | killCursors => exact absurd hname (show some "killCursors" ≠ some "aggregate" by decide)
    | dropCollection => exact absurd hname (show some "drop" ≠ some "aggregate" by decide)
    | dropDatabase => exact absurd hname (show some "dropDatabase" ≠ some "aggregate" by decide)
  · obtain ⟨hname, -⟩ := hopens
    exact absurd hname (show some "getMore" ≠ some "aggregate" by decide)

theorem Engine.upholds_custody : Upholds (fun d => ¬ d.Opens) fun e => e.Custody keys := by
  intro e h c hc
  refine h.call fun connection db d heq => ?_
  subst heq
  exact hc

theorem Server.upheld_custody : Upheld (fun d => ¬ d.Opens) fun s => s.engine.Custody keys :=
  Engine.upholds_custody.upheld usual_not_opens

/-- A pipeline that is not accepted opens no cursor. -/
theorem ReadRequest.not_opens_aggregateCommand {ns : Namespace} {pipeline : List Document}
    {batchSize : Option Nat} {err : EngineError}
    (h : Pipeline.ofStages (pipeline.map Document.toValue) = .error err) :
    ¬ (aggregateCommand ns pipeline batchSize).Opens := by
  rintro ⟨-, c, hread⟩
  obtain ⟨_, stages, p, _, -, -, hstages, hp⟩ := Command.readAggregate_eq_ok hread
  obtain rfl : pipeline.map Document.toValue = stages := Except.ok.inj hstages
  rw [h] at hp
  cases hp

/-! ## §2 — the life of a stream -/

/-- **Killing a cursor** of an open server takes it away, if it has the namespace that is named. -/
theorem Server.snd_write_killCursors (h : s.Accounts []) (hopen : s.isClosed = false)
    (hsound : s.engine.Sound) (ns : Namespace) {id : CursorId} (hid : id < 2 ^ 63) :
    (s.write (.killCursors ns [id])).2 = s.served (s.serving.withoutCursors ns.text [id]) := by
  have hids : Engine.leadingIds ([id].map Value.ofInt) = [id] := by
    have hread : (Value.ofInt id).asInt? = some id := (Value.asInt?_ofInt id).trans (if_pos hid)
    simp only [List.map_cons, List.map_nil, Engine.leadingIds, hread]
  have hserving : s.serving.Sound := ⟨hsound.given, hsound.left, hsound.distinct, hsound.next⟩
  have hkilled := hserving.snd_performKillCursors ns.database.text ns.collection
    ([id].map Value.ofInt)
  rw [hids] at hkilled
  have hsend := send_of_open h hopen (r := (WriteRequest.killCursors ns [id]).request) rfl
    (Command.ofDocument_killCursorsCommand ns [id])
  exact (congrArg Prod.snd hsend).trans (congrArg s.served hkilled)

/-- The id and the namespace of the cursor that a client fetches from. -/
def ResultCursor.key (c : ResultCursor α) : CursorId × String := (c.id, c.ns.text)

namespace Engine

/-- What is left of a result adds one key at most. -/
theorem keys_subset_of_entry {e e' : Engine} {c : Cursor}
    (hcursors : e'.cursors = e.cursors ++ Cursor.entry e.nextCursor c) :
    e'.keys ⊆ (if c.remaining = [] then 0 else e.nextCursor, c.ns) :: e.keys := by
  unfold keys Cursor.entry at *
  rw [hcursors]
  split <;> simp

namespace Custody

/-- The key of what the server keeps behind a first batch. -/
theorem collecting (h : s.engine.Custody keys) (hready : s.Ready) (ns : Namespace)
    (kept : List Document)
    (hsound : (s.collecting ns.text (s.engine.nextCursor + if kept = [] then 0 else 1) 0
      kept).engine.Sound) :
    (s.collecting ns.text (s.engine.nextCursor + if kept = [] then 0 else 1) 0 kept).engine.Custody
      ((if kept = [] then 0 else s.engine.nextCursor, ns.text) :: keys) := by
  have hkeys : (s.collecting ns.text (s.engine.nextCursor + if kept = [] then 0 else 1) 0
      kept).engine.keys ⊆ (if kept = [] then 0 else s.engine.nextCursor, ns.text) :: s.engine.keys :=
    keys_subset_of_entry (c := ⟨ns.text, kept, s.engine.now⟩) rfl
  by_cases hkept : kept = []
  · simp only [if_pos hkept, Int.add_zero] at hsound hkeys ⊢
    exact h.joined hsound hready.running hkeys (Int.le_refl _) h.ids h.sound.next (Or.inl rfl)
  · simp only [if_neg hkept] at hsound hkeys ⊢
    have hgrown : s.engine.nextCursor < s.engine.nextCursor + 1 := Int.lt_succ _
    exact h.joined hsound hready.running hkeys (Int.le_of_lt hgrown)
      (Int.add_one_le_of_lt hready.ids) hgrown (Or.inr rfl)

/-- **A stream is opened**, and with it a cursor if its first batch is not the whole result. If it fails,
nothing is left behind. -/
theorem stream (h : s.engine.Custody keys) (hserver : s.Reachable) (hids : s.engine.nextCursor < 2 ^ 63)
    (a : Aggregation α) :
    (∃ err, (a.stream s).1 = .error err ∧ (a.stream s).2.engine.Custody keys) ∨
      ∃ r, (a.stream s).1 = .ok r ∧ (a.stream s).2.engine.Custody (r.source.key :: keys) := by
  have hspares : Spares 0 s.engine (a.stream s).2.engine := Aggregation.spares_stream h.sound
  cases hclosed : s.isClosed with
  | true =>
    have hrefused : a.stream s = (.error .serverClosed, s) := by
      unfold Aggregation.stream ResultCursor.open Server.read Server.send Server.withBinding
      rw [Server.acquire_of_closed hclosed]
      rfl
    rw [hrefused]
    exact Or.inl ⟨_, rfl, h⟩
  | false =>
    cases hp : Pipeline.ofStages (a.pipeline.map Document.toValue) with
    | error err =>
      have hkept := Server.upheld_custody.stream h a (ReadRequest.not_opens_aggregateCommand hp)
      cases hanswer : (a.stream s).1 with
      | error err => exact Or.inl ⟨err, rfl, hkept⟩
      | ok r =>
        obtain ⟨batch, hread, -⟩ := Aggregation.stream_eq_ok hanswer
        obtain ⟨p, n, hp', -⟩ := Server.read_aggregate_eq_ok h.sound hread
        rw [hp] at hp'
        cases hp'
    | ok p =>
      have hready : s.Ready := ⟨hserver.accounts, hclosed, h.sound, hids⟩
      obtain ⟨first, kept, hstream⟩ : ∃ first kept, a.stream s = (.ok ⟨⟨a.collection.ns,
          a.collection.decoder, some first, if kept = [] then 0 else s.engine.nextCursor, a.batchSize⟩,
          .unknown⟩, s.collecting a.collection.ns.text
            (s.engine.nextCursor + if kept = [] then 0 else 1) 0 kept) :=
        ⟨_, _, Aggregation.stream_of_ready hready a hp rfl rfl⟩
      rw [hstream] at hspares ⊢
      exact Or.inr ⟨_, rfl, h.collecting hready _ kept hspares.sound⟩

/-- **A batch is fetched**, or the fetch fails. The stream goes by the id in the reply, and that is `0`
exactly when the cursor has come to its end. -/
theorem fetches : ItemStream.Kept fun (c : ResultCursor α) (s : Server) =>
    s.engine.Custody (c.key :: others) := by
  intro c s h
  show (c.nextBatch s).2.2.engine.Custody ((c.nextBatch s).2.1.key :: others)
  unfold ResultCursor.nextBatch
  split
  · exact h
  · split
    · exact h
    · have hread : (s.read (.getMore c.ns c.id c.batchSize)).2.engine.Custody (c.key :: others) :=
        Server.upheld_custody.read h _ (usual_not_opens.getMore c.ns c.id c.batchSize)
      split
      · next heq =>
        rw [heq] at hread
        exact hread
      · next batch s' heq =>
        have hgiven : c.id < s.engine.nextCursor := h.given c.key List.mem_cons_self
        obtain ⟨ns, rest, hholds⟩ := h.sound.exists_holds hgiven
        have hok : (s.read (.getMore c.ns c.id c.batchSize)).1 = .ok batch := by rw [heq]
        obtain ⟨n, -, -, hbatch, hleft⟩ := Server.read_getMore_eq_ok hholds hok
        rw [heq] at hread hleft
        show s'.engine.Custody ((batch.id, c.ns.text) :: others)
        rw [hbatch]
        by_cases hend : rest.drop n = []
        · -- nothing is left, so there is no cursor any more
          rw [hend] at hleft
          simp only [if_pos hend]
          exact hread.spent hleft.cursor?_eq_none
        · simp only [if_neg hend]
          exact hread

/-- **A cursor is given up**: it goes if it is there still, and no other one does. -/
theorem cursors_discard {c : ResultCursor α} (h : s.engine.Custody (c.key :: others))
    (hserver : s.Reachable) :
    (c.discard s).engine.cursors = (s.engine.cursors.filter fun other => other.1 ≠ c.id) ∧
      (c.discard s).engine.nextCursor = s.engine.nextCursor ∧
      (c.discard s).engine.closed = s.engine.closed := by
  unfold ResultCursor.discard
  split
  · next hnothing =>
    refine ⟨?_, rfl, rfl⟩
    rcases Bool.or_eq_true_iff.mp hnothing with hzero | hclosed
    · -- the id `0` is no cursor's
      have hzero : c.id = 0 := by simpa using hzero
      rw [eq_comm, List.filter_eq_self]
      intro other hother
      have hpos := (h.sound.given other hother).1
      rw [hzero]
      simpa using Int.ne_of_gt hpos
    · rw [h.emptied hclosed]
      rfl
  · next hsomething =>
    have hopen : s.isClosed = false := by
      cases hclosed : s.isClosed with
      | false => rfl
      | true => simp [hclosed] at hsomething
    have hid : c.id < 2 ^ 63 := Int.lt_of_lt_of_le (h.given c.key List.mem_cons_self) h.ids
    have hserved := Server.snd_write_killCursors hserver.accounts hopen h.sound c.ns hid
    rw [hserved]
    exact ⟨h.cursors_withoutCursors, rfl, rfl⟩

theorem discard {c : ResultCursor α} (h : s.engine.Custody (c.key :: others)) (hserver : s.Reachable) :
    (c.discard s).engine.Custody others := by
  obtain ⟨hcursors, hnext, hclosed⟩ := h.cursors_discard hserver
  exact h.without hcursors hnext hclosed

/-- **All results are taken** with a stream that is given up afterwards. -/
theorem collect (h : s.engine.Custody keys) (hserver : s.Reachable)
    (hids : s.engine.nextCursor < 2 ^ 63) (a : Aggregation α) :
    (a.collect s).2.engine.Custody keys := by
  have hreachable : (a.stream s).2.Reachable := Server.upheld_reachable.stream hserver a trivial
  have hstream := h.stream hserver hids a
  unfold Aggregation.collect
  rcases hrun : a.stream s with ⟨answer, s'⟩
  rw [hrun] at hreachable hstream
  rcases hstream with ⟨err, hanswer, hkept⟩ | ⟨r, hanswer, hopened⟩
  · obtain rfl : answer = .error err := hanswer
    exact hkept
  · obtain rfl : answer = .ok r := hanswer
    have hall : (r.collect s').2.2.engine.Custody ((r.collect s').2.1.source.key :: keys) :=
      fetches.collect (s := r) hopened
    exact hall.discard (Server.upheld_reachable.fetches.collect (s := r) hreachable)

end Custody

end Engine

/-! ## §3 — what is held over a server -/

/-- What a client holds of a result: a stream, or the cursor that was taken out of one. -/
inductive Handle : Type 1 where
  | stream {α : Type} (r : ResultStream α)
  | cursor {α : Type} (c : ResultCursor α)

namespace Handle

def key : Handle → CursorId × String
  | stream r => r.source.key
  | cursor c => c.key

def discard : Handle → Server → Server
  | stream r, s => r.discard s
  | cursor c, s => c.discard s

/-- How it is used: a stream by its items, a cursor by its batches, and each may be made into the
other. Among the uses of a stream is to kill its cursor and keep the stream. -/
inductive Use where
  | items (u : World.Use)
  | nextBatch
  | intoCursor
  | intoStream

/-- A stream has no batches to give, nor a cursor items. -/
def Use.after : Use → Handle → Server → Handle × Server
  | items u, stream r, s => (stream (u.after r s).1, (u.after r s).2)
  | intoCursor, stream r, s => (cursor r.source, s)
  | nextBatch, cursor c, s => (cursor (c.nextBatch s).2.1, (c.nextBatch s).2.2)
  | intoStream, cursor c, s => (stream ⟨c, .unknown⟩, s)
  | _, held, s => (held, s)

variable {held : Handle}

theorem Use.reachable (h : s.Reachable) (u : Use) (held : Handle) : (u.after held s).2.Reachable := by
  cases held with
  | stream r =>
    cases u with
    | items u => exact Server.upheld_reachable.use h u r
    | nextBatch => exact h
    | intoCursor => exact h
    | intoStream => exact h
  | cursor c =>
    cases u with
    | items u => exact h
    | nextBatch => exact Server.upheld_reachable.fetches c s h
    | intoCursor => exact h
    | intoStream => exact h

/-- **Using a handle** keeps it in step with the table. -/
theorem Use.custody (h : s.engine.Custody (held.key :: others)) (u : Use) :
    (u.after held s).2.engine.Custody ((u.after held s).1.key :: others) := by
  cases held with
  | stream r =>
    cases u with
    | items u =>
      cases u with
      | hasNext => exact Engine.Custody.fetches.hasNext (s := r) h
      | tryNext => exact Engine.Custody.fetches.tryNext (s := r) h
      | nextItem => exact Engine.Custody.fetches.nextItem (s := r) h
      | next => exact Engine.Custody.fetches.next? (s := r) h
      | collect => exact Engine.Custody.fetches.collect (s := r) h
      | discard => exact Server.upheld_custody.discard h _
    | nextBatch => exact h
    | intoCursor => exact h
    | intoStream => exact h
  | cursor c =>
    cases u with
    | items u => exact h
    | nextBatch => exact Engine.Custody.fetches c s h
    | intoCursor => exact h
    | intoStream => exact h

theorem reachable_discard (h : s.Reachable) (held : Handle) : (held.discard s).Reachable := by
  cases held with
  | stream r => exact Server.upheld_reachable.discard h r.source
  | cursor c => exact Server.upheld_reachable.discard h c

/-- **Giving up what is held** takes its cursor out of the table, if it is there still, and no other. -/
theorem custody_discard (h : s.engine.Custody (held.key :: others)) (hserver : s.Reachable) :
    (held.discard s).engine.cursors = (s.engine.cursors.filter fun c => c.1 ≠ held.key.1) ∧
      (held.discard s).engine.Custody others := by
  cases held with
  | stream r =>
    have h : s.engine.Custody (r.source.key :: others) := h
    exact ⟨(h.cursors_discard hserver).1, h.discard hserver⟩
  | cursor c =>
    have h : s.engine.Custody (c.key :: others) := h
    exact ⟨(h.cursors_discard hserver).1, h.discard hserver⟩

end Handle

/-- A server, and what clients hold over it. -/
structure Holdings : Type 1 where
  server : Server
  handles : List Handle := []

namespace Holdings

/-- What clients do: run pipelines, use what they hold of the results and give it up, and whatever else
they do to the server. -/
inductive Act : Type 1 where
  | iterate {α : Type} (a : Aggregation α)
  | collect {α : Type} (a : Aggregation α)
  | use (i : Nat) (u : Handle.Use)
  | drop (i : Nat)
  | call (c : World.Call)

def Act.after : Act → Holdings → Holdings
  | iterate a, w =>
    match a.stream w.server with
    | (.ok r, s) => ⟨s, w.handles ++ [.stream r]⟩
    | (.error _, s) => ⟨s, w.handles⟩
  | collect a, w => ⟨(a.collect w.server).2, w.handles⟩
  | use i u, w =>
    match w.handles[i]? with
    | some held => ⟨(u.after held w.server).2, w.handles.set i (u.after held w.server).1⟩
    | none => w
  | drop i, w =>
    match w.handles[i]? with
    | some held => ⟨held.discard w.server, w.handles.eraseIdx i⟩
    | none => w
  | call c, w => ⟨(c.after ⟨w.server, []⟩).server, w.handles⟩

/-- Pipelines are run while an id is left for one more cursor, and no `aggregate` is sent but by running
one. -/
def Act.Permitted : Act → Holdings → Prop
  | iterate _, w | collect _, w => w.server.engine.nextCursor < 2 ^ 63
  | call c, w => c.Sends (fun d => ¬ d.Opens) w.server
  | _, _ => True

def run (w : Holdings) (acts : List Act) : Holdings := acts.foldl (fun w act => act.after w) w

/-- All of it is permitted when it is done. -/
def Permits : Holdings → List Act → Prop
  | _, [] => True
  | w, act :: acts => act.Permitted w ∧ Permits (act.after w) acts

/-- The cursors of the table are those of what is held. -/
structure Kept (w : Holdings) : Prop where
  server : w.server.Reachable
  custody : w.server.engine.Custody (w.handles.map Handle.key)

variable {w : Holdings} {held : Handle} {i : Nat}

theorem kept_of_start {options : Options} {host : Host} (h : Server.start options host = .ok s) :
    Kept ⟨s, []⟩ := by
  obtain ⟨e, hstart, rfl⟩ := Server.start_eq_ok h
  exact ⟨.start h, Engine.custody_of_start hstart⟩

/-- What is held, with one of it in front. -/
theorem perm_keys (hi : w.handles[i]? = some held) :
    (w.handles.map Handle.key).Perm (held.key :: (w.handles.eraseIdx i).map Handle.key) := by
  obtain ⟨hlt, hheld⟩ := List.getElem?_eq_some_iff.mp hi
  rw [← hheld, ← List.map_cons]
  exact (List.getElem_cons_eraseIdx_perm hlt).symm.map _

theorem perm_keys_set (hi : w.handles[i]? = some held) (held' : Handle) :
    (held'.key :: (w.handles.eraseIdx i).map Handle.key).Perm
      ((w.handles.set i held').map Handle.key) := by
  obtain ⟨hlt, -⟩ := List.getElem?_eq_some_iff.mp hi
  rw [← List.map_cons]
  exact (List.set_perm_cons_eraseIdx hlt held').symm.map _

/-- One of the handles, apart from the others. -/
theorem Kept.custody_of_mem (h : w.Kept) (hi : w.handles[i]? = some held) :
    w.server.engine.Custody (held.key :: (w.handles.eraseIdx i).map Handle.key) :=
  h.custody.perm (perm_keys hi)

/-- **Each cursor of the table** is held once. -/
theorem Kept.exists_handle (h : w.Kept) {c : CursorId × Cursor} (hc : c ∈ w.server.engine.cursors) :
    ∃ (i : Nat) (held : Handle), w.handles[i]? = some held ∧ held.key = (c.1, c.2.ns) ∧
      ∀ (j : Nat) (other : Handle), w.handles[j]? = some other → other.key.1 = c.1 → j = i := by
  have hkey : (c.1, c.2.ns) ∈ w.server.engine.keys := List.mem_map_of_mem hc
  obtain ⟨held, hheld, hheldKey⟩ := List.mem_map.mp (h.custody.owned hkey)
  obtain ⟨i, hi⟩ := List.mem_iff_getElem?.mp hheld
  refine ⟨i, held, hi, hheldKey, fun j other hj hsame => ?_⟩
  by_contra hne
  have hother : other.key ∈ (w.handles.eraseIdx i).map Handle.key :=
    List.mem_map_of_mem (List.mem_eraseIdx_iff_getElem?.mpr ⟨j, hne, hj⟩)
  -- two handles have the id `0` in common, or none
  obtain ⟨hapart, -⟩ := List.pairwise_cons.mp (h.custody_of_mem hi).distinct
  have hzero : held.key.1 = 0 := hapart _ hother (by rw [hheldKey, hsame])
  have hpos := (h.custody.sound.given c hc).1
  rw [hheldKey] at hzero
  exact Int.ne_of_gt hpos hzero

/-- **What clients do** keeps every cursor in custody. One case for each kind. -/
theorem Kept.after (h : w.Kept) {act : Act} (hact : act.Permitted w) : (act.after w).Kept := by
  cases act with
  | iterate a =>
    have hreachable : (a.stream w.server).2.Reachable := Server.upheld_reachable.stream h.server a trivial
    have hstream := h.custody.stream h.server hact a
    rcases hrun : a.stream w.server with ⟨answer, s⟩
    rw [hrun] at hreachable hstream
    simp only [Act.after, hrun]
    rcases hstream with ⟨err, hanswer, hkept⟩ | ⟨r, hanswer, hopened⟩
    · obtain rfl : answer = .error err := hanswer
      exact ⟨hreachable, hkept⟩
    · obtain rfl : answer = .ok r := hanswer
      refine ⟨hreachable, hopened.perm ?_⟩
      rw [List.map_append]
      exact (List.perm_append_singleton _ _).symm
  | collect a =>
    exact ⟨Server.upheld_reachable.collect h.server a trivial, h.custody.collect h.server hact a⟩
  | use i u =>
    cases hi : w.handles[i]? with
    | none =>
      simp only [Act.after, hi]
      exact h
    | some held =>
      simp only [Act.after, hi]
      exact ⟨u.reachable h.server held,
        (u.custody (h.custody_of_mem hi)).perm (perm_keys_set hi _)⟩
  | drop i =>
    cases hi : w.handles[i]? with
    | none =>
      simp only [Act.after, hi]
      exact h
    | some held =>
      simp only [Act.after, hi]
      exact ⟨held.reachable_discard h.server,
        (Handle.custody_discard (h.custody_of_mem hi) h.server).2⟩
  | call c =>
    exact ⟨Server.upheld_reachable.call h.server (c.sends_any _), Server.upheld_custody.call h.custody hact⟩

/-- **All that clients do** keeps every cursor in custody. Induction on what is done. -/
theorem Kept.run (h : w.Kept) {acts : List Act} (hacts : w.Permits acts) : (w.run acts).Kept := by
  induction acts generalizing w with
  | nil => exact h
  | cons act acts ih => exact ih (h.after hacts.1) hacts.2

end Holdings

open Holdings (Act Permits)

/-- **Streams leak no cursor.** From the start of a server on, let clients run pipelines, use the streams
over their results in any order, take the cursors out of them, and give them up; and let them do whatever
else they like to the server, as long as no `aggregate` is sent but by running a pipeline and 64 bits hold
the ids of the cursors. Whatever comes of it, each cursor of the table is the one of exactly one stream
that is held, or of the cursor taken out of it. Giving up what is held takes its cursor out of the table,
if it is there still, and leaves all others as they are. When nothing is held, the table is empty. -/
theorem streams_leak_no_cursor {options : Options} {host : Host} {s₀ : Server}
    (hstart : Server.start options host = .ok s₀) {acts : List Act} (hacts : Permits ⟨s₀, []⟩ acts) :
    let w := Holdings.run ⟨s₀, []⟩ acts
    (∀ c ∈ w.server.engine.cursors, ∃ (i : Nat) (held : Handle), w.handles[i]? = some held ∧
      held.key = (c.1, c.2.ns) ∧
      ∀ (j : Nat) (other : Handle), w.handles[j]? = some other → other.key.1 = c.1 → j = i) ∧
    (∀ (i : Nat) (held : Handle), w.handles[i]? = some held →
      ((Act.drop i).after w).handles = w.handles.eraseIdx i ∧
      ((Act.drop i).after w).server.engine.cursors
        = w.server.engine.cursors.filter fun c => c.1 ≠ held.key.1) ∧
    (w.handles = [] → w.server.engine.cursors = []) := by
  intro w
  have hkept : w.Kept := (Holdings.kept_of_start hstart).run hacts
  refine ⟨fun c hc => hkept.exists_handle hc, fun i held hi => ?_, fun hnone => ?_⟩
  · simp only [Act.after, hi]
    exact ⟨trivial, (Handle.custody_discard (hkept.custody_of_mem hi) hkept.server).1⟩
  · rw [List.eq_nil_iff_forall_not_mem]
    intro c hc
    obtain ⟨i, held, hi, -⟩ := hkept.exists_handle hc
    rw [hnone] at hi
    cases hi

/-- Two streams over three documents, one of which is used. When it is given up, the cursor of the other
one is left. -/
theorem streams_leak_no_cursor_of_two :
    let host : Host := { ids := fun _ => "", showTime := fun _ => "" }
    let notes : Namespace := ⟨⟨"db", by decide⟩, "notes", by decide⟩
    let documents : List Document := [1, 2, 3].map fun n => ⟨[("_id", .ofNat n)]⟩
    let a : Aggregation Document := ⟨⟨notes, {}, .document⟩, [], some 1⟩
    let acts : List Act := [.call (.write (.insert notes documents (by decide))), .iterate a, .iterate a,
      .use 0 (.items .tryNext)]
    ∃ s₀, Server.start {} host = .ok s₀ ∧ Permits ⟨s₀, []⟩ acts ∧
      let w := Holdings.run ⟨s₀, []⟩ acts
      w.server.engine.keys = [(1, "db.notes"), (2, "db.notes")] ∧
        (w.handles.map Handle.key)[0]? = some (1, "db.notes") ∧
        ((Act.drop 0).after w).server.engine.keys = [(2, "db.notes")] := by
  intro host notes documents a acts
  obtain ⟨s₀, hstart, hone, htwo, hkeys, hfirst⟩ : ∃ s₀, Server.start {} host = .ok s₀ ∧
      (Holdings.run ⟨s₀, []⟩ (acts.take 1)).server.engine.nextCursor < 2 ^ 63 ∧
      (Holdings.run ⟨s₀, []⟩ (acts.take 2)).server.engine.nextCursor < 2 ^ 63 ∧
      (Holdings.run ⟨s₀, []⟩ acts).server.engine.keys = [(1, "db.notes"), (2, "db.notes")] ∧
      ((Holdings.run ⟨s₀, []⟩ acts).handles.map Handle.key)[0]? = some (1, "db.notes") :=
    ⟨_, rfl, by decide +kernel, by decide +kernel, by decide +kernel, by decide +kernel⟩
  have hacts : Permits ⟨s₀, []⟩ acts := ⟨trivial, hone, htwo, trivial, trivial⟩
  obtain ⟨-, hdrop, -⟩ := streams_leak_no_cursor hstart hacts
  refine ⟨s₀, hstart, hacts, hkeys, hfirst, ?_⟩
  obtain ⟨held, hheld, hkey⟩ := Option.map_eq_some_iff.mp (List.getElem?_map.symm.trans hfirst)
  obtain ⟨-, hcursors⟩ := hdrop 0 held hheld
  -- the keys that are left are those of the other ids
  have hleft : ((Act.drop 0).after (Holdings.run ⟨s₀, []⟩ acts)).server.engine.keys
      = (Holdings.run ⟨s₀, []⟩ acts).server.engine.keys.filter fun key => key.1 ≠ 1 := by
    unfold Engine.keys
    rw [hcursors, hkey, List.filter_map]
    rfl
  rw [hleft, hkeys]
  decide

end DocStore
