import StackSync.Proofs.Reconcile.Verdict
import StackSync.Proofs.Status.Merging

/-!
# The ledger in the status

A round moves the status once or twice, first to progressing if the object's generation is new to it, and
writes the result onto the status it started from. As long as nobody else writes, the status keeps a ledger of
what was observed, attempted and applied: `Managed` is how an object comes about, `Kept` is what all its
statuses have, and `Ledger` is what one more round may change.
-/

namespace StackSync

open Program

/-! ## What a round builds on -/

namespace Manifest

variable {m : Manifest} {s : Status} {generation : Int64}

theorem Observed.readies (h : m.Observed s) (hsingle : m.base.readies.length ≤ 1) :
    s.readies.length ≤ 1 := by
  rcases h with rfl | ⟨a, -, hmoves⟩
  · exact hsingle
  · obtain ⟨c, hreadies, -⟩ := hmoves.readies_of_single hsingle
    exact Nat.le_of_eq (congrArg List.length hreadies)

theorem Observed.lastApplied (h : m.Observed s) :
    s.lastAppliedRevision = m.base.lastAppliedRevision ∧
      s.lastAppliedChangeSet = m.base.lastAppliedChangeSet := by
  rcases h with rfl | ⟨a, -, hmoves⟩
  · exact ⟨rfl, rfl⟩
  · exact hmoves.lastApplied_of_unready (by simp)

theorem Observed.seen (h : m.Observed s) (hgeneration : m.metadata.generation = some generation)
    (hseen : ∀ g ∈ m.base.observedGeneration, g ≤ generation) :
    newest s.observedGeneration (some generation) = some generation := by
  rcases h with rfl | ⟨a, hattempts, hmoves⟩
  · exact (newest_of_le hseen).1
  · rw [hmoves.observedGeneration, hattempts.generation, hgeneration, (newest_of_le hseen).1, newest,
      ite_self]

theorem ready?_eq_base (m : Manifest) : m.ready? = m.base.ready? := by
  rw [ready?, base]
  cases m.status <;> rfl

end Manifest

namespace Operator

variable {o : Operator} {time : String} {m : Manifest} {es : List Exchange} {out : Outcome}

/-- A target that is ready was found with a change set, whose handle is recorded. -/
theorem lookup_of_pursuit {t : TargetStack} {calls : List Exchange} {reference : String}
    (h : t.Pursuit calls reference .true) :
    ∃ d, t.changeSetLookup (.ok (some d)) ∈ calls ∧ d.handle.reference = reference := by
  cases h with
  | changeSet _ hpursuit =>
    cases hpursuit with
    | executed _ => exact ⟨_, List.mem_cons_of_mem _ List.mem_cons_self, rfl⟩
    | emptyDropped _ => exact ⟨_, List.mem_cons_of_mem _ List.mem_cons_self, rfl⟩
    | missing _ hsubmitted => cases hsubmitted

/-- Only a round that has pursued a template says ready. -/
theorem pursued_of_saysReady (ran : Ran (o.reconcile time m) es out) (hready : out.SaysReady) :
    ∃ revision body reference s a, o.Loaded m es revision body ∧
      (o.targetOf m revision body).Pursuit (remote es) reference .true ∧ m.Observed s ∧
      m.Attempts a (some revision) (some reference) ∧ out.Writes s a .true := by
  cases passage_of_reconcile ran with
  | idle _ _ hnone =>
    obtain ⟨d, -, hd, -⟩ := hready
    rw [hnone] at hd
    cases hd
  | tornDown _ _ hunready => exact absurd hready (Unready.not_saysReady hunready)
  | stopped _ _ _ hwrites => cases hwrites.saysReady_iff.1 hready
  | pursued _ hloaded hpursuit hobserved hattempts hwrites =>
    obtain rfl := hwrites.saysReady_iff.1 hready
    exact ⟨_, _, _, _, _, hloaded, hpursuit, hobserved, hattempts, hwrites⟩

end Operator

/-! ## The ledger -/

/-- What a round over the object leaves in the stored status, next to what was stored before. -/
structure Operator.Ledger (o : Operator) (m : Manifest) (es : List Exchange) (out : Outcome) : Prop where
  /-- The observed generation does not go back. -/
  forward : ∀ g ∈ m.base.observedGeneration,
    ∃ g' ∈ (m.persist out).base.observedGeneration, g ≤ g'
  /-- It is not ahead of the object's. -/
  behind : ∀ g' ∈ (m.persist out).base.observedGeneration, ∃ g ∈ m.metadata.generation, g' ≤ g
  /-- What was applied last stays unless the round says ready. -/
  applied : ¬ out.SaysReady →
    (m.persist out).base.lastAppliedRevision = m.base.lastAppliedRevision ∧
      (m.persist out).base.lastAppliedChangeSet = m.base.lastAppliedChangeSet
  /-- If it does, it is what the round has attempted: the revision it has loaded, and the change set it
  has found for it. -/
  deployed : out.SaysReady → ∃ revision body found, o.Loaded m es revision body ∧
    (o.targetOf m revision body).changeSetLookup (.ok (some found)) ∈ es ∧
      (m.persist out).base.lastAttemptedRevision = some revision ∧
      (m.persist out).base.lastAppliedRevision = some revision ∧
      (m.persist out).base.lastAttemptedChangeSet = some found.handle.reference ∧
      (m.persist out).base.lastAppliedChangeSet = some found.handle.reference
  /-- A written status has one `Ready` condition, the first one, and it is about this generation. -/
  leading : out.status ≠ none → ∃ ready others,
    (m.persist out).base.conditions = ready :: others ∧ ready.isReady = true ∧
      (∀ c ∈ others, c.isReady = false) ∧ ready.observedGeneration = m.metadata.generation
  /-- Its transition time moves with its status only. -/
  transition : ∀ old ∈ m.ready?, ∀ new ∈ (m.persist out).ready?,
    new.lastTransitionTime ≠ old.lastTransitionTime → new.status ≠ old.status

/-- The generation is there, the status knows no later one, and it has one `Ready` condition at
most. -/
structure Manifest.Kept (m : Manifest) : Prop where
  single : m.base.readies.length ≤ 1
  generation : ∃ generation, m.metadata.generation = some generation ∧
    ∀ g ∈ m.base.observedGeneration, g ≤ generation

namespace Manifest.Kept

variable {o : Operator} {time : String} {m : Manifest} {es : List Exchange} {out : Outcome}

/-- What is stored once the round has been written: the generation, and one `Ready` condition over the
one that was there. -/
theorem written (h : m.Kept) (ran : Ran (o.reconcile time m) es out) {d : Status}
    (hd : out.status = some d) :
    (m.persist out).base.observedGeneration = m.metadata.generation ∧
      ∃ c : Condition, c.observedGeneration = m.metadata.generation ∧
        (m.persist out).base.readies = [c.inPlaceOf m.base.ready?] ∧
        (m.persist out).base.conditions =
          (m.persist out).base.readies ++ (m.persist out).base.foreign := by
  obtain ⟨s, a, st, hobserved, hattempted, hmoves⟩ := (Operator.passage_of_reconcile ran).moves hd
  obtain ⟨generation, hgeneration, hseen⟩ := h.generation
  obtain ⟨c, hreadies, -, hc⟩ := hmoves.readies_of_single (hobserved.readies h.single)
  have hdone : d.observedGeneration = some generation := by
    rw [hmoves.observedGeneration, hattempted, hgeneration]
    exact hobserved.seen hgeneration hseen
  rw [base_persist_of_some hd]
  refine ⟨?_, c, hc.trans hattempted, Status.readies_mergeOnto_of_single hreadies h.single,
    hmoves.conditions_mergeOnto m.status⟩
  rw [hgeneration]
  exact Status.observedGeneration_mergeOnto_of_le hdone hseen

theorem persist (h : m.Kept) (ran : Ran (o.reconcile time m) es out) : (m.persist out).Kept := by
  cases hstatus : out.status with
  | none =>
    have hbase : (m.persist out).base = m.base := base_persist_of_none hstatus
    refine ⟨?_, ?_⟩
    · rw [hbase]
      exact h.single
    · rw [hbase]
      exact h.generation
  | some d =>
    obtain ⟨hobserved, c, -, hreadies, -⟩ := h.written ran hstatus
    obtain ⟨generation, hgeneration, -⟩ := h.generation
    refine ⟨?_, generation, hgeneration, fun g hg => ?_⟩
    · exact Nat.le_of_eq (congrArg List.length hreadies)
    · rw [hobserved, hgeneration, Option.mem_some_iff] at hg
      exact hg ▸ Int64.le_refl _

/-- A round that does not say ready leaves the record of the last deployment. -/
theorem applied (ran : Ran (o.reconcile time m) es out) (hunready : ¬ out.SaysReady) :
    (m.persist out).base.lastAppliedRevision = m.base.lastAppliedRevision ∧
      (m.persist out).base.lastAppliedChangeSet = m.base.lastAppliedChangeSet := by
  cases hstatus : out.status with
  | none =>
    rw [base_persist_of_none hstatus]
    exact ⟨rfl, rfl⟩
  | some d =>
    obtain ⟨s, a, st, hobserved, -, hmoves⟩ := (Operator.passage_of_reconcile ran).moves hstatus
    have hst : st ≠ .true := fun htrue =>
      hunready ((Outcome.Writes.saysReady_iff ⟨d, hstatus, hmoves⟩).2 htrue)
    have happlied := hmoves.lastApplied_of_unready hst
    rw [base_persist_of_some hstatus]
    exact Status.lastApplied_mergeOnto_of_eq (happlied.1.trans hobserved.lastApplied.1)
      (happlied.2.trans hobserved.lastApplied.2)

/-- A round that says ready records what it has loaded and found, as attempted and as applied. -/
theorem deployed (ran : Ran (o.reconcile time m) es out) (hready : out.SaysReady) :
    ∃ revision body found, o.Loaded m es revision body ∧
      (o.targetOf m revision body).changeSetLookup (.ok (some found)) ∈ es ∧
        (m.persist out).base.lastAttemptedRevision = some revision ∧
        (m.persist out).base.lastAppliedRevision = some revision ∧
        (m.persist out).base.lastAttemptedChangeSet = some found.handle.reference ∧
        (m.persist out).base.lastAppliedChangeSet = some found.handle.reference := by
  obtain ⟨revision, body, reference, s, a, hloaded, hpursuit, -, hattempts, d, hstatus, hmoves⟩ :=
    Operator.pursued_of_saysReady ran hready
  obtain ⟨found, hfound, rfl⟩ := Operator.lookup_of_pursuit hpursuit
  have hrevision : d.lastAttemptedRevision = some revision := by
    rw [hmoves.lastAttemptedRevision, hattempts.revision]
    rfl
  have hchangeSet : d.lastAttemptedChangeSet = some found.handle.reference := by
    rw [hmoves.lastAttemptedChangeSet, hattempts.changeSet]
    rfl
  have happlied := hmoves.lastApplied_of_ready
  have hattempted := d.lastAttempted_mergeOnto m.status
  have hmerged := Status.lastApplied_mergeOnto_of_some (happlied.1.trans hrevision)
    (happlied.2.trans hchangeSet) m.status
  rw [base_persist_of_some hstatus]
  exact ⟨revision, body, found, hloaded, (List.mem_filter.1 hfound).1,
    hattempted.1.trans hrevision, hmerged.1, hattempted.2.trans hchangeSet, hmerged.2⟩

theorem ready?_persist (h : m.Kept) (ran : Ran (o.reconcile time m) es out) {d : Status}
    (hd : out.status = some d) :
    ∃ c : Condition, (m.persist out).ready? = some (c.inPlaceOf m.ready?) := by
  obtain ⟨-, c, -, hreadies, -⟩ := h.written ran hd
  refine ⟨c, ?_⟩
  rw [ready?_eq_base, ready?_eq_base, Status.ready?_eq_head?, hreadies]
  rfl

/-- The ledger is kept by every round over an object whose status has been kept so far. -/
theorem ledger (h : m.Kept) (ran : Ran (o.reconcile time m) es out) : o.Ledger m es out where
  forward g hg := by
    cases hstatus : out.status with
    | none =>
      rw [base_persist_of_none hstatus]
      exact ⟨g, hg, Int64.le_refl g⟩
    | some d =>
      obtain ⟨generation, hgeneration, hseen⟩ := h.generation
      refine ⟨generation, ?_, hseen g hg⟩
      rw [(h.written ran hstatus).1, hgeneration]
      rfl
  behind g' hg' := by
    obtain ⟨generation, hgeneration, hseen⟩ := (h.persist ran).generation
    exact ⟨generation, hgeneration, hseen g' hg'⟩
  applied := applied ran
  deployed := deployed ran
  leading hwritten := by
    obtain ⟨d, hstatus⟩ := Option.ne_none_iff_exists'.1 hwritten
    obtain ⟨-, c, hc, hreadies, hconditions⟩ := h.written ran hstatus
    have hfirst : c.inPlaceOf m.base.ready? ∈ (m.persist out).base.readies := by
      rw [hreadies]
      exact List.mem_cons_self
    rw [hconditions, hreadies]
    refine ⟨_, _, rfl, (List.mem_filter.1 hfirst).2, fun other hother => ?_, ?_⟩
    · simpa using (List.mem_filter.1 hother).2
    · rw [Condition.inPlaceOf_observedGeneration, hc]
  transition old hold new hnew hmoved hsame := by
    cases hstatus : out.status with
    | none =>
      rw [ready?_eq_base, base_persist_of_none hstatus, ← ready?_eq_base] at hnew
      obtain rfl := Option.some.inj (hold.symm.trans hnew)
      exact hmoved rfl
    | some d =>
      obtain ⟨c, hready⟩ := h.ready?_persist ran hstatus
      have hold : m.ready? = some old := hold
      rw [hready, hold, Option.mem_some_iff] at hnew
      subst hnew
      rw [Condition.inPlaceOf_status] at hsame
      exact hmoved (Condition.lastTransitionTime_inPlaceOf hsame.symm)

end Manifest.Kept

/-! ## Runs -/

/-- An object that nobody but the rounds writes a status to: it starts without one, every round is
written onto it, and in between its generation may grow and anything else but the status change. -/
inductive Managed : Manifest → Prop where
  | new {m : Manifest} {generation : Int64} : m.base = .empty →
      m.metadata.generation = some generation → Managed m
  | reconciled {o : Operator} {time : String} {m : Manifest} {es : List Exchange} {out : Outcome} :
      Managed m → Ran (o.reconcile time m) es out → Managed (m.persist out)
  | edited {m m' : Manifest} {generation generation' : Int64} : Managed m → m'.status = m.status →
      m.metadata.generation = some generation → m'.metadata.generation = some generation' →
      generation ≤ generation' → Managed m'

theorem Managed.kept {m : Manifest} (h : Managed m) : m.Kept := by
  induction h with
  | new hempty hgeneration =>
    refine ⟨?_, _, hgeneration, ?_⟩
    · rw [hempty]
      exact Nat.zero_le 1
    · rw [hempty]
      exact fun g hg => nomatch hg
  | reconciled _ ran ih => exact ih.persist ran
  | @edited m m' _ generation' _ hstatus hgeneration hgeneration' hle ih =>
    have hbase : m'.base = m.base := by rw [Manifest.base, Manifest.base, hstatus]
    obtain ⟨_, hbefore, hseen⟩ := ih.generation
    obtain rfl := Option.some.inj (hgeneration.symm.trans hbefore)
    refine ⟨hbase ▸ ih.single, generation', hgeneration', fun g hg => ?_⟩
    exact Int64.le_trans (hseen g (hbase ▸ hg)) hle

namespace Operator

variable {o : Operator} {time : String} {m : Manifest} {es : List Exchange} {out : Outcome}

/-- Whatever has happened to the object before, and whatever the round is answered, the round keeps
the ledger. -/
theorem ledger_of_managed (managed : Managed m) (ran : Ran (o.reconcile time m) es out) :
    o.Ledger m es out :=
  managed.kept.ledger ran

end Operator

/-! ## A deployment in the ledger -/

namespace Sample

theorem Stage.Reached.ran {p : Plan} {x : Stage} (h : x.Reached p) (revision : String) :
    Ran (operator.reconcile (x.visit revision true).time x.object) (x.visit revision true).exchanges
      (x.visit revision true).outcome :=
  (supply revision).ran h.spec h.duty

theorem Stage.next_object (x : Stage) (revision : String) :
    (x.next revision true).object = x.object.persist (x.visit revision true).outcome := rfl

theorem Stage.Reached.managed {p : Plan} {x : Stage} (h : x.Reached p) (hmanaged : Managed x.object)
    (revision : String) : Managed (x.next revision true).object :=
  .reconciled hmanaged (h.ran revision)

theorem deployed_managed : Managed deployed.object :=
  created_reached.managed (first_reached.managed (.new rfl rfl) "a") "a"

end Sample

open Sample in
/-- The round that finds the change set executed records it as applied. -/
theorem ledger_of_managed_deployed : (deployed.visit "a" true).outcome.SaysReady ∧
    ∃ reference, (deployed.next "a" true).object.base.lastAttemptedChangeSet = some reference ∧
      (deployed.next "a" true).object.base.lastAppliedChangeSet = some reference := by
  obtain ⟨-, -, found, -, -, -, -, hattempted, happlied⟩ :=
    (Operator.ledger_of_managed deployed_managed (deployed_reached.ran "a")).deployed
      deployed_ready
  rw [Stage.next_object]
  exact ⟨deployed_ready, found.handle.reference, hattempted, happlied⟩

end StackSync
