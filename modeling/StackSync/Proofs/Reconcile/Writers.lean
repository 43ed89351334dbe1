import StackSync.Proofs.Reconcile.Passage
import StackSync.Simulation.World

/-!
# The conditions of other writers

A round leaves the conditions of other writers in its status as the snapshot had them, and the merge
puts that copy onto whatever is stored by then. So the merge is silent about them only as long as
nobody has written since: a condition that another writer has changed goes back to the copy, and one
that it has taken out comes back. The main theorem says exactly which stored lists stay as they are.
-/

namespace StackSync

/-- Nothing in the copy would change the list: each of its types is there, and the first condition
of the type comes back to itself once it has met all those in the copy. -/
def Settled (copy now : List Condition) : Prop :=
  ∀ c ∈ copy, ∃ old ∈ now.find? (·.type = c.type), absorbed
      (copy.filter (·.type = c.type)) old = old

instance (copy now : List Condition) : Decidable (Settled copy now) :=
  inferInstanceAs (Decidable (∀ c ∈ copy, ∃ old ∈ now.find? (·.type = c.type),
    absorbed (copy.filter (·.type = c.type)) old = old))

theorem settled_nil_right_iff (copy : List Condition) : Settled copy [] ↔ copy = [] := by
  constructor
  · intro h
    refine List.eq_nil_iff_forall_not_mem.2 fun c hc => ?_
    obtain ⟨old, hold, -⟩ := h c hc
    cases hold
  · rintro rfl c hc
    cases hc

/-- The head of the list has to settle with the conditions of its type, the tail with the others. -/
theorem settled_cons_iff (copy : List Condition) (y : Condition) (ys : List Condition) :
    Settled copy (y :: ys) ↔
      absorbed (copy.filter (·.type = y.type)) y = y ∧
      Settled (copy.filter (·.type ≠ y.type)) ys := by
  have hfilter : ∀ c : Condition, c.type ≠ y.type →
      (copy.filter (·.type ≠ y.type)).filter (·.type = c.type) = copy.filter (·.type = c.type) := by
    intro c hc
    rw [List.filter_filter]
    refine List.filter_congr fun x _ => ?_
    by_cases hx : x.type = c.type
    · simp [hx, hc]
    · simp [hx]
  constructor
  · intro h
    refine ⟨?_, ?_⟩
    · cases hsame : copy.filter (·.type = y.type) with
      | nil => rfl
      | cons c cs =>
        have hmem : c ∈ copy.filter (·.type = y.type) := by rw [hsame]; exact List.mem_cons_self
        obtain ⟨hc, htype⟩ := List.mem_filter.1 hmem
        have htype : c.type = y.type := by simpa using htype
        obtain ⟨old, hold, habsorbed⟩ := h c hc
        rw [List.find?_cons_of_pos (by simp [htype]), Option.mem_some_iff] at hold
        subst hold
        rw [← hsame, ← htype]
        exact habsorbed
    · intro c hc
      obtain ⟨hc, htype⟩ := List.mem_filter.1 hc
      have htype : c.type ≠ y.type := by simpa using htype
      obtain ⟨old, hold, habsorbed⟩ := h c hc
      rw [List.find?_cons_of_neg (by simp [Ne.symm htype])] at hold
      exact ⟨old, hold, by rw [hfilter c htype]; exact habsorbed⟩
  · rintro ⟨hhead, htail⟩ c hc
    by_cases htype : c.type = y.type
    · refine ⟨y, ?_, ?_⟩
      · rw [List.find?_cons_of_pos (by simp [htype])]
        rfl
      · rw [htype]
        exact hhead
    · obtain ⟨old, hold, habsorbed⟩ := htail c (List.mem_filter.2 ⟨hc, by simpa using htype⟩)
      refine ⟨old, ?_, ?_⟩
      · rw [List.find?_cons_of_neg (by simp [Ne.symm htype])]
        exact hold
      · rw [← hfilter c htype]
        exact habsorbed

/-- Upserting a copy leaves a list alone if, and only if, the copy is settled in it. -/
theorem foldl_putCondition_eq_self_iff (copy now : List Condition) :
    copy.foldl (fun acc new => putCondition new acc) now = now ↔ Settled copy now := by
  induction now generalizing copy with
  | nil => rw [foldl_putCondition_nil, settled_nil_right_iff]
  | cons y ys ih => rw [foldl_putCondition_cons, settled_cons_iff, List.cons.injEq, ih]

/-- With one condition a type, a copy is settled if every condition of it is still there with its
contents; only the transition time may have moved. -/
theorem settled_iff_of_nodup {copy : List Condition} (h : (copy.map (·.type)).Nodup)
    (now : List Condition) :
    Settled copy now ↔ ∀ c ∈ copy, ∃ old ∈ now.find? (·.type = c.type),
      { c with lastTransitionTime := old.lastTransitionTime } = old := by
  refine forall_congr' fun c => forall_congr' fun hc => exists_congr fun old =>
      and_congr_right fun _ => ?_
  rw [filter_type_of_nodup h hc]
  exact Condition.replacing_eq_iff c old

/-- The condition of a type that the copy does not have is never touched. -/
theorem filter_foldl_putCondition_of_absent {p : Condition → Bool} (hp : OfType p)
    {copy : List Condition} (h : ∀ c ∈ copy, p c = false) (now : List Condition) :
    (copy.foldl (fun acc new => putCondition new acc) now).filter p = now.filter p := by
  have hnone : copy.filter p = [] := List.filter_eq_nil_iff.2 fun c hc => by simp [h c hc]
  rw [filter_foldl_putCondition hp, hnone, List.foldl_nil]

namespace Operator

open Program

variable {o : Operator} {time : String} {m : Manifest} {es : List Exchange} {out : Outcome}
    {d l : Status}

/-- Whatever a round came to, its status has the conditions of other writers that the snapshot
had. -/
theorem foreign_of_reconcile (ran : Ran (o.reconcile time m) es out)
    (written : out.status = some d) :
    d.foreign = m.base.foreign := by
  obtain ⟨s, a, st, hobserved, -, hmoves⟩ := (passage_of_reconcile ran).moves written
  rw [hmoves.foreign, hobserved.foreign]

/-- A stored condition survives the merge untouched if the snapshot had none of its type. -/
theorem foreign_mergeOnto_of_absent (ran : Ran (o.reconcile time m) es out)
    (written : out.status = some d)
    {p : Condition → Bool} (hp : OfType p) (habsent : ∀ c ∈ m.base.foreign, p c = false)
    (l : Status) :
    (d.mergeOnto (some l)).foreign.filter p = l.foreign.filter p := by
  rw [Status.foreign_mergeOnto, foreign_of_reconcile ran written]
  exact filter_foldl_putCondition_of_absent hp habsent l.foreign

/-- The other writers' conditions survive persisting exactly if those of the snapshot are settled in
the stored ones: with one condition a type, if each of them is still stored as it was, transition
times aside. -/
theorem foreign_mergeOnto_eq_iff (ran : Ran (o.reconcile time m) es out)
    (written : out.status = some d) (l : Status) :
    ((d.mergeOnto (some l)).foreign = l.foreign ↔ Settled m.base.foreign l.foreign) ∧
      ((m.base.foreign.map (·.type)).Nodup →
        ((d.mergeOnto (some l)).foreign = l.foreign ↔
          ∀ c ∈ m.base.foreign, ∃ old ∈ l.foreign.find? (·.type = c.type),
            { c with lastTransitionTime := old.lastTransitionTime } = old)) := by
  have hiff : (d.mergeOnto (some l)).foreign = l.foreign ↔ Settled m.base.foreign l.foreign := by
    rw [Status.foreign_mergeOnto, foreign_of_reconcile ran written]
    exact foldl_putCondition_eq_self_iff _ _
  refine ⟨hiff, fun hnodup => ?_⟩
  rw [hiff]
  exact settled_iff_of_nodup hnodup l.foreign

def bareOperator : Operator :=
  ⟨⟨"us-east-1", none, [], .ofSeconds 30⟩, ⟨none, 0, 60⟩, ⟨⟨[]⟩, []⟩⟩

def withApproval (status : ConditionStatus) : Status :=
  { Status.empty with conditions := [⟨"Approved", status, none, none, none, none⟩] }

def unapproved : Manifest where
  metadata := { (default : Metadata) with name := some "app", finalizers := some [finalizerName] }
  spec := { (default : Spec) with interval := "soon" }
  status := some (withApproval .false)

def refused : Status :=
  (withApproval .false).notReady ⟨none, some "", none, none, "2024-05-01T00:00:00Z"⟩
    Reason.invalidSpec "invalid interval 'soon'"

theorem foreign_mergeOnto_eq_iff_unapproved :
    ∃ es out, Ran (bareOperator.reconcile "2024-05-01T00:00:00Z" unapproved) es out ∧
      out.status = some refused ∧
        ((refused.mergeOnto (some (withApproval .false))).foreign = (withApproval .false).foreign ↔
          Settled unapproved.base.foreign (withApproval .false).foreign) := by
  have ran :=
    ran_run World.answer (bareOperator.reconcile "2024-05-01T00:00:00Z" unapproved) default
  have written : (run World.answer (bareOperator.reconcile "2024-05-01T00:00:00Z" unapproved)
      default).1.status = some refused := by decide +kernel
  exact ⟨_, _, ran, written, (foreign_mergeOnto_eq_iff ran written (withApproval .false)).1⟩

/-- Approved between the snapshot and the write, the object is unapproved again by the write. -/
theorem not_always_foreign_preserved :
    ¬ ∀ (o : Operator) (time : String) (m : Manifest) (es : List Exchange) (out : Outcome)
    (d l : Status),
      Ran (o.reconcile time m) es out → out.status = some d →
      (d.mergeOnto (some l)).foreign = l.foreign := by
  intro h
  have hpreserved := h bareOperator "2024-05-01T00:00:00Z" unapproved _ _ refused
    (withApproval .true) (ran_run World.answer _ default) (by decide +kernel)
  exact absurd hpreserved nofun

end Operator

end StackSync
