import DocStore.Proofs.Pipeline.Order
import Mathlib.Data.List.Basic

/-!
# DocStore — stages that change places

Putting documents in order and leaving some of them out can be done in either order. What carries this is
that a stable sort has one result only: documents in order are told by those that compare equal to each
of them (`SortOrder.eq_of_ordered`), and these are the same whichever stage comes first.

* **`SortOrder.StablySorted.eq_sort`** — documents that are stably sorted are what the sort makes.
* **`SortOrder.filter_sort`** — to leave documents out after the sort is to leave them out before it.
* **`matches_change_places`** — `$match` beside `$sort` and beside another `$match`, for all that is
  accepted.
-/

namespace DocStore

/-! ## §1 — a stable sort has one result -/

namespace SortOrder

variable {order : SortOrder}

/-- The documents of a list that compare equal to one document. -/
def ties (order : SortOrder) (d : Document) (ds : List Document) : List Document :=
  ds.filter (order.compare d · == .eq)

theorem ties_cons_of_eq {d e : Document} (h : order.compare d e = .eq) (ds : List Document) :
    order.ties d (e :: ds) = e :: order.ties d ds :=
  List.filter_cons_of_pos (beq_iff_eq.mpr h)

theorem ties_cons_of_ne {d e : Document} (h : order.compare d e ≠ .eq) (ds : List Document) :
    order.ties d (e :: ds) = order.ties d ds :=
  List.filter_cons_of_neg fun heq => h (beq_iff_eq.mp heq)

theorem ties_cons_self (d : Document) (ds : List Document) :
    order.ties d (d :: ds) = d :: order.ties d ds :=
  ties_cons_of_eq Std.ReflCmp.compare_self ds

theorem compare_eq_eq_of_le {a b : Document} (hab : order.le a b = true) (hba : order.le b a = true) :
    order.compare a b = .eq := by
  rw [le_iff] at hab hba
  exact Std.OrientedCmp.isLE_antisymm hab hba

theorem mem_of_mem_ties {d e : Document} {ds : List Document} (h : e ∈ order.ties d ds) : e ∈ ds :=
  (List.mem_filter.mp h).1

/-- **Documents in order are told by their ties.** Induction on both lists, the first documents of which
tie with each other. -/
theorem eq_of_ordered {s t : List Document} (hs : s.Pairwise fun a b => order.le a b = true)
    (ht : t.Pairwise fun a b => order.le a b = true) (h : ∀ d, order.ties d s = order.ties d t) :
    s = t := by
  induction s generalizing t with
  | nil =>
    cases t with
    | nil => rfl
    | cons b t =>
      have hb := h b
      rw [ties_cons_self] at hb
      cases hb
  | cons a s ih =>
    cases t with
    | nil =>
      have ha := h a
      rw [ties_cons_self] at ha
      cases ha
    | cons b t =>
      have ha : a ∈ order.ties a (b :: t) := by
        rw [← h a, ties_cons_self]
        exact List.mem_cons_self
      have hb : b ∈ order.ties b (a :: s) := by
        rw [h b, ties_cons_self]
        exact List.mem_cons_self
      have htie : order.compare a b = .eq :=
        compare_eq_eq_of_le (le_of_mem hs (mem_of_mem_ties hb)) (le_of_mem ht (mem_of_mem_ties ha))
      have hheads := h a
      rw [ties_cons_self, ties_cons_of_eq htie] at hheads
      obtain rfl := (List.cons.inj hheads).1
      refine congrArg (a :: ·) (ih hs.of_cons ht.of_cons fun d => ?_)
      have hd := h d
      by_cases hda : order.compare d a = .eq
      · rw [ties_cons_of_eq hda, ties_cons_of_eq hda] at hd
        exact (List.cons.inj hd).2
      · rwa [ties_cons_of_ne hda, ties_cons_of_ne hda] at hd

/-- **A stable sort has one result.** -/
theorem StablySorted.eq_sort {ds sorted : List Document} (h : order.StablySorted ds sorted) :
    sorted = order.sort ds := by
  have hsort := order.stable_sort ds
  exact eq_of_ordered h.ordered hsort.ordered fun d => (h.stable d).trans (hsort.stable d).symm

theorem StablySorted.filter {ds sorted : List Document} (h : order.StablySorted ds sorted)
    (p : Document → Bool) : order.StablySorted (ds.filter p) (sorted.filter p) where
  perm := h.perm.filter p
  ordered := h.ordered.filter p
  stable d := by
    rw [List.filter_comm, h.stable d, List.filter_comm]

/-- **To leave documents out after the sort is to leave them out before it.** -/
theorem filter_sort (order : SortOrder) (p : Document → Bool) (ds : List Document) :
    (order.sort ds).filter p = order.sort (ds.filter p) :=
  ((order.stable_sort ds).filter p).eq_sort

end SortOrder

/-! ## §2 — pipelines of matches and sorts -/

/-- The stage that a filter is written in. -/
def Filter.inStage (f : Value) : Value := .object [("$match", f)]

/-- The stage that a sort specification is written in. -/
def SortOrder.inStage (s : Value) : Value := .object [("$sort", s)]

namespace Pipeline

/-- A value is accepted as a pipeline, which makes this of documents. -/
def Makes (v : Value) (out : List Document → List Document) : Prop :=
  ∃ p, ofValue v = .ok p ∧ ∀ ds, run p ds = out ds

theorem readStage_filter {f : Value} {F : Filter} (h : Filter.ofValue f = .ok F) :
    readStage (Filter.inStage f) = .ok (.filter F) := by
  show (Filter.ofValue f).map Stage.filter = _
  rw [h]
  rfl

theorem readStage_sort {s : Value} {order : SortOrder} (h : SortOrder.read s = .ok order) :
    readStage (SortOrder.inStage s) = .ok (.sort order) := by
  show ((SortOrder.read s).map Stage.sort).mapError _ = _
  rw [h]
  rfl

theorem makes_one {v : Value} {stage : Stage} (h : readStage v = .ok stage) :
    Makes (.array [v]) stage.run := by
  refine ⟨[stage], ?_, fun _ => rfl⟩
  simp only [ofValue, ofStages, h]
  rfl

theorem makes_two {v w : Value} {stage next : Stage} (hv : readStage v = .ok stage)
    (hw : readStage w = .ok next) : Makes (.array [v, w]) fun ds => next.run (stage.run ds) := by
  refine ⟨[stage, next], ?_, fun _ => rfl⟩
  simp only [ofValue, ofStages, hv, hw]
  rfl

/-- Pipelines that make the same are told by what they make. -/
theorem Makes.congr {v : Value} {out out' : List Document → List Document} (h : Makes v out)
    (heq : ∀ ds, out ds = out' ds) : Makes v out' := by
  obtain ⟨p, hp, hrun⟩ := h
  exact ⟨p, hp, fun ds => (hrun ds).trans (heq ds)⟩

end Pipeline

/-- Two filters in a `$and` are accepted, and both have to accept. -/
theorem Filter.ofValue_and {f g : Value} {F G : Filter} (hf : ofValue f = .ok F)
    (hg : ofValue g = .ok G) :
    ∃ both, ofValue (.object [("$and", .array [f, g])]) = .ok both ∧
      ∀ d, both.accepts d = (F.accepts d && G.accepts d) := by
  refine ⟨.every [.every [F, G]], ?_, fun d => ?_⟩
  · have hreadF : read f = .ok F := mapError_eq_ok_iff.mp hf
    have hreadG : read g = .ok G := mapError_eq_ok_iff.mp hg
    have hname : isOperatorName "$and" = true := rfl
    simp only [ofValue, read, readEntries, hname, if_true, readLogical, readItems, hreadF, hreadG]
    rfl
  · simp only [accepts, allMatch, Bool.and_true]

/-! ## §3 — matches -/

/-- **Matches change places.** An accepted `$match` can stand before an accepted `$sort` or after it, and
two of them in either order or as one `$and`: each time all these pipelines are accepted and make the
same, the documents that are wanted, in order where they are sorted. -/
theorem matches_change_places {f g s : Value} {F G : Filter} {order : SortOrder}
    (hf : Filter.ofValue f = .ok F) (hg : Filter.ofValue g = .ok G)
    (hs : SortOrder.read s = .ok order) :
    (∃ out, Pipeline.Makes (.array [Filter.inStage f, SortOrder.inStage s]) out ∧
      Pipeline.Makes (.array [SortOrder.inStage s, Filter.inStage f]) out ∧
      ∀ ds, order.StablySorted (ds.filter F.accepts) (out ds)) ∧
    (∃ out, Pipeline.Makes (.array [Filter.inStage f, Filter.inStage g]) out ∧
      Pipeline.Makes (.array [Filter.inStage g, Filter.inStage f]) out ∧
      Pipeline.Makes (.array [Filter.inStage (.object [("$and", .array [f, g])])]) out ∧
      ∀ ds, out ds = ds.filter fun d => F.accepts d && G.accepts d) := by
  have hstageF := Pipeline.readStage_filter hf
  have hstageG := Pipeline.readStage_filter hg
  have hstageS := Pipeline.readStage_sort hs
  obtain ⟨both, hand, hboth⟩ := Filter.ofValue_and hf hg
  constructor
  · refine ⟨_, Pipeline.makes_two hstageF hstageS, ?_, fun ds => order.stable_sort _⟩
    exact (Pipeline.makes_two hstageS hstageF).congr (order.filter_sort F.accepts)
  · refine ⟨fun ds => ds.filter fun d => F.accepts d && G.accepts d, ?_, ?_, ?_, fun _ => rfl⟩
    · refine (Pipeline.makes_two hstageF hstageG).congr fun ds => ?_
      show (ds.filter F.accepts).filter G.accepts = _
      rw [List.filter_comm, List.filter_filter]
    · refine (Pipeline.makes_two hstageG hstageF).congr fun ds => ?_
      exact List.filter_filter
    · refine (Pipeline.makes_one (Pipeline.readStage_filter hand)).congr fun ds => ?_
      exact List.filter_congr fun d _ => hboth d

/-- Two filters and an order by two paths, by which many documents tie. -/
theorem matches_change_places_of_ties :
    let f : Value := .object [("n", .object [("$gte", .ofNat 1)])]
    let g : Value := .object [("tags", .string "a")]
    let s : Value := .object [("n", .ofInt (-1)), ("at.x", .ofInt 1)]
    let F : Filter := .every [.field "n" [.gte (.ofNat 1)]]
    let G : Filter := .every [.field "tags" [.eq (.string "a")]]
    let order : SortOrder := [⟨"n", .descending⟩, ⟨"at.x", .ascending⟩]
    Filter.ofValue f = .ok F ∧ Filter.ofValue g = .ok G ∧ SortOrder.read s = .ok order ∧
    (∃ out, Pipeline.Makes (.array [Filter.inStage f, SortOrder.inStage s]) out ∧
      Pipeline.Makes (.array [SortOrder.inStage s, Filter.inStage f]) out ∧
      ∀ ds, order.StablySorted (ds.filter F.accepts) (out ds)) ∧
    (∃ out, Pipeline.Makes (.array [Filter.inStage f, Filter.inStage g]) out ∧
      Pipeline.Makes (.array [Filter.inStage g, Filter.inStage f]) out ∧
      Pipeline.Makes (.array [Filter.inStage (.object [("$and", .array [f, g])])]) out ∧
      ∀ ds, out ds = ds.filter fun d => F.accepts d && G.accepts d) := by
  intro f g s F G order
  have hf : Filter.ofValue f = .ok F := rfl
  have hg : Filter.ofValue g = .ok G := rfl
  have hs : SortOrder.read s = .ok order := rfl
  exact ⟨hf, hg, hs, matches_change_places hf hg hs⟩

end DocStore
