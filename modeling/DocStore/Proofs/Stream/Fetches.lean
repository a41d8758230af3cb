import Mathlib.Data.List.Basic
import Mathlib.Order.Bounds.Basic
import DocStore.Proofs.Stream.Outcomes

/-!
# DocStore — how often a stream fetches

A stream over a script fetches an entry only when it has to: to answer a pull, it makes the fetches
without which it could not know what comes next, and no other ones. How many these are is a matter of
the script and of how many items were delivered, not of how the stream was pulled.

* **`Counted`** — a source that counts its fetches.
* **`Script.needed`** — how many entries it takes to know what comes behind so many items;
  **`Script.needed_cases`** says that this is the least number, if there is any.
* **`ItemStream.ask_paced`** — the step: one pull makes the fetches that are needed;
  **`ItemStream.after_paced`** — the run, by induction on the pulls.
* **`iteration_is_lazy`** — the main statement.
-/

namespace DocStore

/-! ## §1 — counting -/

/-- A source that counts its fetches. -/
structure Counted (σ : Type) where
  source : σ
  fetches : Nat := 0

instance {σ ω α : Type} [BatchSource σ ω α] : BatchSource (Counted σ) ω α where
  hasNext s := BatchSource.hasNext s.source
  nextBatch s w :=
    match BatchSource.nextBatch s.source w with
    | (batch, source, w) => (batch, ⟨source, s.fetches + 1⟩, w)
  bound s w := BatchSource.bound s.source w

/-- How many items an answer to a pull delivers. -/
def Pull.delivers {α : Type} : (p : Pull) → p.Answer α → Nat
  | hasNext, _ => 0
  | tryNext, .ok (some _) => 1
  | tryNext, .ok none => 0
  | tryNext, .error _ => 0
  | nextItem, .ok _ => 1
  | nextItem, .error _ => 0
  | next, some (.ok _) => 1
  | next, some (.error _) => 0
  | next, none => 0

theorem Pull.delivers_le_one {α : Type} (p : Pull) (answer : p.Answer α) :
    p.delivers answer ≤ 1 := by
  unfold delivers
  split <;> omega

namespace ItemStream

variable {σ ω α : Type} [BatchSource σ ω α]

/-- How many items pulls deliver, one after the other. -/
def delivered (s : ItemStream σ α) (w : ω) : List Pull → Nat
  | [] => 0
  | p :: pulls => p.delivers (s.ask p w).1 + delivered (s.ask p w).2.1 (s.ask p w).2.2 pulls

/-- Nothing was asked since the last item was delivered, or at all. -/
def Rests (s : ItemStream σ α) (w : ω) (pulls : List Pull) : Prop :=
  ∀ before p, pulls = before ++ [p] →
    p.delivers ((s.after w before).1.ask p (s.after w before).2).1 = 1

theorem after_concat (s : ItemStream σ α) (w : ω) (pulls : List Pull) (p : Pull) :
    s.after w (pulls ++ [p]) = ((s.after w pulls).1.ask p (s.after w pulls).2).2 := by
  unfold after
  rw [List.foldl_append]
  rfl

theorem delivered_concat (s : ItemStream σ α) (w : ω) (pulls : List Pull) (p : Pull) :
    s.delivered w (pulls ++ [p]) = s.delivered w pulls +
      p.delivers ((s.after w pulls).1.ask p (s.after w pulls).2).1 := by
  induction pulls generalizing s w with
  | nil => exact Nat.add_comm _ _
  | cons q pulls ih =>
    rw [List.cons_append, delivered, delivered, ih, Nat.add_assoc]
    rfl

theorem rests_nil (s : ItemStream σ α) (w : ω) : s.Rests w [] := fun before p hsplit => by
  simp at hsplit

theorem rests_concat {s : ItemStream σ α} {w : ω} {pulls : List Pull} {p : Pull} :
    s.Rests w (pulls ++ [p]) ↔ p.delivers ((s.after w pulls).1.ask p (s.after w pulls).2).1 = 1 := by
  refine ⟨fun h => h pulls p rfl, fun h before p' hsplit => ?_⟩
  obtain ⟨rfl, hp⟩ := List.append_inj' hsplit rfl
  obtain rfl := List.singleton_inj.mp hp
  exact h

/-- The last pull has delivered an item if nothing was asked since, and nothing otherwise. -/
theorem delivered_of_rests {s : ItemStream σ α} {w : ω} {pulls : List Pull} {p : Pull}
    (h : s.Rests w (pulls ++ [p])) :
    s.delivered w (pulls ++ [p]) = s.delivered w pulls + 1 := by
  rw [delivered_concat, rests_concat.mp h]

theorem delivered_of_not_rests {s : ItemStream σ α} {w : ω} {pulls : List Pull} {p : Pull}
    (h : ¬ s.Rests w (pulls ++ [p])) : s.delivered w (pulls ++ [p]) = s.delivered w pulls := by
  have hle := p.delivers_le_one ((s.after w pulls).1.ask p (s.after w pulls).2).1
  have hnone := mt rests_concat.mpr h
  rw [delivered_concat, show p.delivers _ = 0 by omega, Nat.add_zero]

end ItemStream

/-! ## §2 — how many entries it takes -/

/-- A least number above zero is one more than a least number. -/
theorem isLeast_add_one {P : Nat → Prop} {n : Nat} (hzero : ¬ P 0) (h : IsLeast {j | P (j + 1)} n) :
    IsLeast {j | P j} (n + 1) := by
  refine ⟨h.1, fun j hj => ?_⟩
  cases j with
  | zero => exact absurd hj hzero
  | succ j => exact Nat.succ_le_succ (h.2 hj)

namespace Script

variable {α : Type} {entries : List (Except ClientError (List α))} {k : Nat}

/-- How many items entries hold. -/
def itemsIn : List (Except ClientError (List α)) → Nat
  | [] => 0
  | entry :: entries => itemCount entry + itemsIn entries

/-- The entries tell what comes behind `k` items: they hold one more, or one of them fails. -/
def Decide (k : Nat) (entries : List (Except ClientError (List α))) : Prop :=
  k + 1 ≤ itemsIn entries ∨ ∃ e, .error e ∈ entries

/-- How many entries it takes to know what comes behind `k` items. -/
def needed : List (Except ClientError (List α)) → Nat → Nat
  | [], _ => 0
  | .error _ :: _, _ => 1
  | .ok batch :: entries, k => if k < batch.length then 1 else needed entries (k - batch.length) + 1

theorem itemsIn_cons (entry : Except ClientError (List α)) (entries : List (Except ClientError (List α))) :
    itemsIn (entry :: entries) = itemCount entry + itemsIn entries := rfl

theorem not_decide_nil (k : Nat) : ¬ Decide k ([] : List (Except ClientError (List α))) := by
  simp [Decide, itemsIn]

/-- Behind a batch without the item it is the other entries that tell. -/
theorem decide_cons_iff {batch : List α} (hbatch : batch.length ≤ k) :
    Decide k (.ok batch :: entries) ↔ Decide (k - batch.length) entries := by
  have hitems : k + 1 ≤ batch.length + itemsIn entries ↔
      k - batch.length + 1 ≤ itemsIn entries := by omega
  simp [Decide, itemsIn_cons, itemCount, hitems]

/-- **So many entries are needed** and no fewer, or no number of entries is enough and all are looked at.
Induction on the entries. -/
theorem needed_cases (entries : List (Except ClientError (List α))) (k : Nat) :
    IsLeast {j | Decide k (entries.take j)} (needed entries k) ∨
      (∀ j, ¬ Decide k (entries.take j)) ∧ needed entries k = entries.length := by
  induction entries generalizing k with
  | nil => exact Or.inr ⟨fun j => by simpa using not_decide_nil k, rfl⟩
  | cons entry entries ih =>
    match entry with
    | .error e =>
      refine Or.inl (isLeast_add_one (not_decide_nil k) ⟨?_, fun j _ => Nat.zero_le j⟩)
      exact Or.inr ⟨e, List.mem_cons_self⟩
    | .ok batch =>
      unfold needed
      split
      · next hfound =>
        refine Or.inl (isLeast_add_one (not_decide_nil k) ⟨?_, fun j _ => Nat.zero_le j⟩)
        exact Or.inl (Nat.le_add_right_of_le hfound)
      · next hmissed =>
        -- the batch is passed over, with its items taken off
        have hstep : ∀ j, Decide k ((.ok batch :: entries).take (j + 1)) ↔
            Decide (k - batch.length) (entries.take j) := fun j =>
          decide_cons_iff (Nat.le_of_not_lt hmissed)
        rcases ih (k - batch.length) with hleast | ⟨hnone, hall⟩
        · refine Or.inl (isLeast_add_one (not_decide_nil k) ?_)
          simpa only [hstep] using hleast
        · refine Or.inr ⟨fun j => ?_, by rw [hall, List.length_cons]⟩
          cases j with
          | zero => exact not_decide_nil k
          | succ j => exact mt (hstep j).mp (hnone j)

/-- Up to an item that is delivered no entry fails, so the entries needed are those that it takes to
hold the item. -/
theorem isLeast_needed (h : k < (itemsOf entries).length) :
    IsLeast {j | k + 1 ≤ itemsIn (entries.take j)} (needed entries k) := by
  induction entries generalizing k with
  | nil => cases h
  | cons entry entries ih =>
    match entry with
    | .error e => cases h
    | .ok batch =>
      have hzero : ¬ k + 1 ≤ itemsIn ((.ok batch :: entries : List (Except ClientError (List α))).take 0) :=
        Nat.not_succ_le_zero k
      unfold needed
      split
      · next hfound =>
        refine isLeast_add_one hzero ⟨?_, fun j _ => Nat.zero_le j⟩
        exact Nat.le_add_right_of_le hfound
      · next hmissed =>
        rw [itemsOf, List.length_append] at h
        have hstep : ∀ j, k + 1 ≤ itemsIn ((.ok batch :: entries).take (j + 1)) ↔
            k - batch.length + 1 ≤ itemsIn (entries.take j) := fun j => by
          rw [List.take_succ_cons, itemsIn_cons, itemCount]
          omega
        refine isLeast_add_one hzero ?_
        simp only [hstep]
        exact ih (by omega)

theorem needed_le_length (entries : List (Except ClientError (List α))) (k : Nat) :
    needed entries k ≤ entries.length := by
  induction entries generalizing k with
  | nil => exact Nat.le_refl 0
  | cons entry entries ih =>
    match entry with
    | .error e => exact Nat.succ_le_succ (Nat.zero_le _)
    | .ok batch =>
      unfold needed
      split
      · exact Nat.succ_le_succ (Nat.zero_le _)
      · exact Nat.succ_le_succ (ih _)

/-- Behind entries of which one fails, and behind the last entry, no other one is needed. -/
theorem needed_le {j : Nat} (h : (∃ e, .error e ∈ entries.take j) ∨ entries.length ≤ j) (k : Nat) :
    needed entries k ≤ j := by
  rcases h with hfails | hlong
  · rcases needed_cases entries k with hleast | ⟨hnone, -⟩
    · exact hleast.2 (Or.inr hfails)
    · exact absurd (Or.inr hfails) (hnone j)
  · exact (needed_le_length entries k).trans hlong

end Script

/-! ## §3 — the fetches of a stream -/

namespace ItemStream

open Script

variable {α : Type} {s s' : ItemStream (Counted (Script α)) α}

/-- How many more fetches it takes to know what comes behind `k` more items. -/
def ahead (s : ItemStream (Counted (Script α)) α) (k : Nat) : Nat :=
  match s.held with
  | .unknown => needed s.source.source.entries k
  | .items _ rest => if k ≤ rest.length then 0 else needed s.source.source.entries (k - (rest.length + 1))
  | .failed _ | .ended => 0

/-- How many items the stream has still to deliver. -/
def stock (s : ItemStream (Counted (Script α)) α) : Nat :=
  match s.held with
  | .unknown => (itemsOf s.source.source.entries).length
  | .items _ rest => rest.length + 1 + (itemsOf s.source.source.entries).length
  | .failed _ | .ended => 0

/-- One stream comes from another by delivering `n` items, and has made the fetches that it takes to know
what came first. What is still to be fetched and to be delivered is what was left of it before. -/
structure Paced (s s' : ItemStream (Counted (Script α)) α) (n : Nat) : Prop where
  fetches : s'.source.fetches = s.source.fetches + s.ahead 0
  ahead : ∀ k, s'.source.fetches + s'.ahead k = s.source.fetches + s.ahead (k + n)
  stock : s'.stock + n = s.stock

/-- It is known what comes next, so there is nothing to fetch. -/
theorem ahead_zero (h : s.held ≠ .unknown) : s.ahead 0 = 0 := by
  unfold ahead
  cases hheld : s.held with
  | unknown => exact absurd hheld h
  | items first rest => exact if_pos (Nat.zero_le _)
  | failed e => rfl
  | ended => rfl

theorem ahead_ofBatch (source : Counted (Script α)) (first : α) (rest : List α) (k : Nat) :
    source.fetches + ahead ⟨source, .ofBatch rest⟩ k
      = source.fetches + ahead ⟨source, .items first rest⟩ (k + 1) := by
  cases rest with
  | nil => rfl
  | cons second rest =>
    simp only [ahead, Held.ofBatch, List.length_cons, Nat.add_le_add_iff_right,
      Nat.add_sub_add_right]

theorem stock_ofBatch (source : Counted (Script α)) (first : α) (rest : List α) :
    stock ⟨source, .ofBatch rest⟩ + 1 = stock ⟨source, .items first rest⟩ := by
  cases rest with
  | nil => exact Nat.add_comm _ _
  | cons second rest =>
    simp only [stock, Held.ofBatch, List.length_cons]
    omega

/-- **A search for what comes next** fetches as many entries as it takes. Induction on the entries. -/
theorem fetch_paced (entries : List (Except ClientError (List α))) (n fuel : Nat)
    (hfuel : entries.length < fuel) :
    (fetch fuel (⟨⟨entries⟩, n⟩ : Counted (Script α)) ()).1.held ≠ .unknown ∧
      Paced ⟨⟨⟨entries⟩, n⟩, .unknown⟩ (fetch fuel (⟨⟨entries⟩, n⟩ : Counted (Script α)) ()).1 0 := by
  induction entries generalizing n fuel with
  | nil =>
    obtain ⟨fuel, rfl⟩ : ∃ m, fuel = m + 1 := ⟨fuel - 1, by omega⟩
    exact ⟨nofun, rfl, fun k => rfl, rfl⟩
  | cons entry entries ih =>
    obtain ⟨fuel, rfl⟩ : ∃ m, fuel = m + 1 := ⟨fuel - 1, by omega⟩
    match entry with
    | .ok [] =>
      -- an empty batch is one fetch more, and nothing else
      obtain ⟨hknown, hfetches, hahead, hstock⟩ := ih (n + 1) fuel (by simpa using hfuel)
      have hskip : ∀ k, n + 1 + needed entries k = n + needed (.ok [] :: entries) k := fun k => by
        simp only [needed, List.length_nil, Nat.not_lt_zero, if_false, Nat.sub_zero]
        omega
      exact ⟨hknown, hfetches.trans (hskip 0), fun k => (hahead k).trans (hskip k), hstock⟩
    | .ok (first :: rest) =>
      refine ⟨nofun, rfl, fun k => ?_, ?_⟩
      · -- whether the batch holds the item or not, it was one fetch
        show n + 1 + (if k ≤ rest.length then 0 else needed entries (k - (rest.length + 1)))
          = n + (if k < rest.length + 1 then 1 else needed entries (k - (rest.length + 1)) + 1)
        simp only [Nat.lt_succ_iff]
        split <;> omega
      · show rest.length + 1 + (itemsOf entries).length = (first :: rest ++ itemsOf entries).length
        rw [List.length_append, List.length_cons]
    | .error e => exact ⟨nofun, rfl, fun k => rfl, rfl⟩

theorem settle_paced (s : ItemStream (Counted (Script α)) α) :
    (s.settle ()).1.held ≠ .unknown ∧ Paced s (s.settle ()).1 0 := by
  obtain ⟨⟨⟨entries⟩, n⟩, held⟩ := s
  cases held with
  | unknown =>
    -- the bound of a script is more than its entries, so the search does not run dry
    refine fetch_paced entries n _ ?_
    show entries.length < entries.length + _ + 1
    omega
  | items first rest => exact ⟨nofun, rfl, fun k => rfl, rfl⟩
  | failed e => exact ⟨nofun, rfl, fun k => rfl, rfl⟩
  | ended => exact ⟨nofun, rfl, fun k => rfl, rfl⟩

theorem hasNext_paced (s : ItemStream (Counted (Script α)) α) : Paced s (s.hasNext ()).2.1 0 := by
  obtain ⟨-, hsettle⟩ := s.settle_paced
  unfold hasNext
  rcases hrun : s.settle () with ⟨⟨source, held⟩, w⟩
  rw [hrun] at hsettle
  cases held <;> exact hsettle

/-- **A pull that takes something** takes it from what is held then. -/
theorem tryNext_paced (s : ItemStream (Counted (Script α)) α) :
    Paced s (s.tryNext ()).2.1 (Pull.tryNext.delivers (s.tryNext ()).1) := by
  obtain ⟨hknown, hfetches, hahead, hstock⟩ := s.settle_paced
  unfold tryNext
  rcases hrun : s.settle () with ⟨⟨source, held⟩, w⟩
  rw [hrun] at hknown hfetches hahead hstock
  cases held with
  | unknown => exact absurd rfl hknown
  | items first rest =>
    exact ⟨hfetches, fun k => (ahead_ofBatch source first rest k).trans (hahead (k + 1)),
      (stock_ofBatch source first rest).trans hstock⟩
  | failed e => exact ⟨hfetches, hahead, hstock⟩
  | ended => exact ⟨hfetches, hahead, hstock⟩

/-- **One pull** makes the fetches that it takes to know what comes next, and no other ones. -/
theorem ask_paced (s : ItemStream (Counted (Script α)) α) (p : Pull) :
    Paced s (s.ask p ()).2.1 (p.delivers (s.ask p ()).1) := by
  have htry := s.tryNext_paced
  rcases hrun : s.tryNext () with ⟨answer, rest⟩
  rw [hrun] at htry
  -- the other pulls that take something ask `tryNext`, and tell its answer in their own way
  cases p with
  | hasNext => exact s.hasNext_paced
  | tryNext =>
    rw [ask, hrun]
    exact htry
  | nextItem =>
    simp only [ask, nextItem, hrun]
    rcases answer with e | _ | item <;> exact htry
  | next =>
    simp only [ask, next?, hrun]
    rcases answer with e | _ | item <;> exact htry

/-- **Pulls, one after the other.** Induction on the pulls. -/
theorem after_paced (s : ItemStream (Counted (Script α)) α) (pulls : List Pull) :
    (∀ k, (s.after () pulls).1.source.fetches + (s.after () pulls).1.ahead k
        = s.source.fetches + s.ahead (k + s.delivered () pulls)) ∧
      (s.after () pulls).1.stock + s.delivered () pulls = s.stock := by
  induction pulls generalizing s with
  | nil => exact ⟨fun k => rfl, rfl⟩
  | cons p pulls ih =>
    obtain ⟨-, hahead, hstock⟩ := s.ask_paced p
    obtain ⟨haheads, hstocks⟩ := ih (s.ask p ()).2.1
    refine ⟨fun k => ?_, ?_⟩
    · rw [delivered, Nat.add_comm (p.delivers _), ← Nat.add_assoc, ← hahead]
      exact haheads k
    · rw [delivered, Nat.add_comm (p.delivers _), ← Nat.add_assoc, ← hstock, ← hstocks]
      rfl

/-- What the last pull fetches is what it takes to know what comes behind the items delivered before. -/
theorem fetches_concat (s : ItemStream (Counted (Script α)) α) (pulls : List Pull) (p : Pull) :
    (s.after () (pulls ++ [p])).1.source.fetches
      = s.source.fetches + s.ahead (s.delivered () pulls) := by
  rw [after_concat, ((s.after () pulls).1.ask_paced p).fetches, (s.after_paced pulls).1 0,
    Nat.zero_add]

/-- **If the last pull has delivered an item**, the fetches are those that it takes to deliver it. -/
theorem fetches_of_rests {pulls : List Pull} (h : s.Rests () pulls) :
    pulls = [] ∨ ∃ k, s.delivered () pulls = k + 1 ∧ k < s.stock ∧
      (s.after () pulls).1.source.fetches = s.source.fetches + s.ahead k := by
  rcases pulls.eq_nil_or_concat' with rfl | ⟨before, p, rfl⟩
  · exact Or.inl rfl
  · have hk := delivered_of_rests h
    have hstock := (s.after_paced (before ++ [p])).2
    exact Or.inr ⟨s.delivered () before, hk, by omega, s.fetches_concat before p⟩

/-- **If something was asked since**, they are those that it takes to know what comes next. -/
theorem fetches_of_not_rests {pulls : List Pull} (h : ¬ s.Rests () pulls) :
    (s.after () pulls).1.source.fetches = s.source.fetches + s.ahead (s.delivered () pulls) := by
  rcases pulls.eq_nil_or_concat' with rfl | ⟨before, p, rfl⟩
  · exact absurd (s.rests_nil ()) h
  · rw [s.fetches_concat before p, delivered_of_not_rests h]

/-- Where no number of items lies behind another fetch, there is no other fetch. -/
theorem fetches_after_of_ahead (h : ∀ k, s.ahead k = 0) (pulls : List Pull) :
    (s.after () pulls).1.source.fetches = s.source.fetches := by
  induction pulls generalizing s with
  | nil => rfl
  | cons p pulls ih =>
    obtain ⟨hfetches, hahead, -⟩ := s.ask_paced p
    rw [h 0] at hfetches
    have hnext : ∀ k, (s.ask p ()).2.1.ahead k = 0 := fun k => by
      have hk := hahead k
      rw [h, hfetches] at hk
      omega
    exact (ih hnext).trans hfetches

end ItemStream

/-- **Iteration is lazy.** A stream over a script is pulled in any way, and has delivered `k` items by
then. If nothing was asked since the last of them, or nothing at all, it has fetched as many entries as
it takes to hold `k` items. Otherwise it has fetched as many as it takes to know what comes behind them:
to hold one item more or to have one that fails; or all entries, if that is never known. So there is no
fetch while a batch is held, none after a look at what comes next, and none ever behind an entry that
fails or behind the last one. -/
theorem iteration_is_lazy {α : Type} (entries : List (Except ClientError (List α))) (pulls : List Pull) :
    let start : ItemStream (Counted (Script α)) α := ⟨⟨⟨entries⟩, 0⟩, .unknown⟩
    let s := (start.after () pulls).1
    let k := start.delivered () pulls
    (start.Rests () pulls → IsLeast {j | k ≤ Script.itemsIn (entries.take j)} s.source.fetches) ∧
    (¬ start.Rests () pulls →
      IsLeast {j | Script.Decide k (entries.take j)} s.source.fetches ∨
        (∀ j, ¬ Script.Decide k (entries.take j)) ∧ s.source.fetches = entries.length) ∧
    (∀ first rest, s.held = .items first rest →
      ∀ p, (s.ask p ()).2.1.source.fetches = s.source.fetches) ∧
    (∀ p, ((s.ask .hasNext ()).2.1.ask p ()).2.1.source.fetches
      = (s.ask .hasNext ()).2.1.source.fetches) ∧
    ((∃ e, .error e ∈ entries.take s.source.fetches) ∨ entries.length ≤ s.source.fetches →
      ∀ more, (s.after () more).1.source.fetches = s.source.fetches) := by
  intro start s k
  have hstart : ∀ k, 0 + start.ahead k = Script.needed entries k := fun k => Nat.zero_add _
  refine ⟨fun hrests => ?_, fun hasked => ?_, fun first rest hheld p => ?_, fun p => ?_,
    fun hover more => ?_⟩
  · rcases start.fetches_of_rests hrests with rfl | ⟨k', hk, hstock, hfetches⟩
    · exact ⟨Nat.zero_le _, fun j _ => Nat.zero_le j⟩
    · rw [show k = k' + 1 from hk, show s.source.fetches = _ from hfetches.trans (hstart k')]
      exact Script.isLeast_needed hstock
  · have hfetches := ItemStream.fetches_of_not_rests hasked
    rw [show s.source.fetches = _ from hfetches.trans (hstart k)]
    exact Script.needed_cases entries k
  · have hknown : s.held ≠ .unknown := by rw [hheld]; exact nofun
    exact (s.ask_paced p).fetches.trans (congrArg _ (ItemStream.ahead_zero hknown))
  · obtain ⟨hfetches, hlook, -⟩ := s.hasNext_paced
    have hlooked : (s.ask .hasNext ()).2.1.ahead 0 = 0 := by
      have hzero := hlook 0
      rw [hfetches] at hzero
      exact Nat.add_eq_left.mp hzero
    exact ((s.ask .hasNext ()).2.1.ask_paced p).fetches.trans (congrArg _ hlooked)
  · refine ItemStream.fetches_after_of_ahead (fun k' => ?_) more
    have hle := Script.needed_le hover (k' + k)
    have hahead : s.source.fetches + s.ahead k' = Script.needed entries (k' + k) :=
      ((start.after_paced pulls).1 k').trans (hstart (k' + k))
    omega

end DocStore
