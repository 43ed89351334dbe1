import StackSync.Proofs.Reconcile.Approach
import StackSync.Proofs.Reconcile.Finalizer
import StackSync.Proofs.Reconcile.Serving

/-!
# Ready within five rounds

An object is reconciled again and again, and every round is stored before the next. If the world
serves it and nothing is made to fail, the first round may have to add the finalizer, and each of
the next takes its turn on the cloud. `Approach` bounds these turns, so that one of the first five
rounds says ready. By then the stored status tells what the round has deployed, and the stack has
it.

The induction is on the turns that are ahead. What a round needs of the world and of the object is
`Cooperates`, and no round takes it away.
-/

namespace StackSync

open Program MemoryCloud

/-! ## What a status tells of a deployment -/

/-- The revision was attempted and applied, by one change set, and the generation was observed. -/
structure Status.Records (s : Status) (generation : Int64) (revision : String) : Prop where
  observed : s.observedGeneration = some generation
  attempted : s.lastAttemptedRevision = some revision
  applied : s.lastAppliedRevision = some revision
  changeSet : ∃ reference,
    s.lastAttemptedChangeSet = some reference ∧ s.lastAppliedChangeSet = some reference

section

variable {s d : Status} {a : Attempt} {generation : Int64} {revision reference : String}

theorem le_of_unseen {seen : Option Int64} (h : seen = none ∨ seen = some generation) :
    ∀ g ∈ seen, g ≤ generation := by
  rintro g hg
  rcases h with rfl | rfl
  · cases hg
  · exact Option.some.inj hg ▸ Int64.le_refl _

theorem Status.Moves.records (h : s.Moves a .true d)
    (hseen : newest s.observedGeneration a.generation = some generation)
    (hrevision : a.revision = some revision) (hchangeSet : a.changeSet = some reference) :
    d.Records generation revision := by
  have hobserved := h.observedGeneration.trans hseen
  cases h with
  | ready message =>
    have hattempted : (a.revision <|> s.lastAttemptedRevision) = some revision := by
      rw [hrevision]
      rfl
    have hreference : (a.changeSet <|> s.lastAttemptedChangeSet) = some reference := by
      rw [hchangeSet]
      rfl
    exact ⟨hobserved, hattempted, hattempted, reference, hreference, hreference⟩

theorem Status.Records.mergeOnto (h : d.Records generation revision) {stored : Option Status}
    (hseen : ∀ g ∈ (stored.getD .empty).observedGeneration, g ≤ generation) :
    (d.mergeOnto stored).Records generation revision := by
  obtain ⟨hobserved, hattempted, happlied, reference, hreference, hdeployed⟩ := h
  obtain ⟨hrevision, hchangeSet⟩ := d.lastAttempted_mergeOnto stored
  have hmerged := Status.lastApplied_mergeOnto_of_some happlied hdeployed stored
  exact ⟨Status.observedGeneration_mergeOnto_of_le hobserved hseen, hrevision.trans hattempted,
    hmerged.1, reference, hchangeSet.trans hreference, hmerged.2⟩

end

namespace Manifest

variable {m : Manifest} {out : Outcome}

theorem duty_of_active (hdeleting : m.isDeleting = false) (hsuspend : m.spec.suspend = false) :
    m.lifecycleFacts.choice.duty =
      some (if m.hasFinalizer then .reconcile else .addFinalizer) := by
  unfold lifecycleFacts LifecycleFacts.choice
  rw [hdeleting, hsuspend]
  cases m.hasFinalizer <;> rfl

/-- Statuses that have seen no generation but the object's stay so. -/
theorem observedGeneration_persist {generation : Int64} {s : Status} {a : Attempt}
    {st : ConditionStatus} (hwrites : out.Writes s a st)
    (hseen : newest s.observedGeneration a.generation = some generation)
    (hbase : m.base.observedGeneration = none ∨ m.base.observedGeneration = some generation) :
    (m.persist out).base.observedGeneration = some generation := by
  obtain ⟨d, hd, hmoves⟩ := hwrites
  have hobserved := hmoves.observedGeneration.trans hseen
  rw [base_persist_of_some hd]
  exact Status.observedGeneration_mergeOnto_of_le hobserved (le_of_unseen hbase)

end Manifest

/-! ## The target of the next round -/

namespace Operator

variable {o : Operator} {m : Manifest} {out : Outcome} {revision body reference : String}

theorem targetOf_following_self :
    (o.targetOf m revision body).following (o.targetOf m revision body).changeSet.reference =
      o.targetOf m revision body := by
  have hname := o.targetOf_changeSet_name m revision body
  unfold TargetStack.following
  rw [hname]
  have hagain : attemptHandle (some (o.targetOf m revision body).changeSet.reference)
      (ChangeSetName.of m.generation revision) = (o.targetOf m revision body).changeSet :=
    attemptHandle_reference _ _ _
  rw [hagain]

theorem targetOf_persist {s : Status} {a : Attempt} {st : ConditionStatus}
    (hchangeSet : a.changeSet = some reference) (hwrites : out.Writes s a st) :
    o.targetOf (m.persist out) revision body =
      (o.targetOf m revision body).following reference := by
  have hrecorded : (m.persist out).base.lastAttemptedChangeSet = some reference :=
    Visit.base_after_of_writes (v := ⟨o, a.time, m, [], out, none, true⟩) hchangeSet hwrites
  have hhandle : (m.persist out).handle revision =
      attemptHandle (some reference) (ChangeSetName.of m.generation revision) :=
    congrArg (attemptHandle · (ChangeSetName.of m.generation revision)) hrecorded
  have hbuilt : o.targetOf (m.persist out) revision body =
      { o.targetOf m revision body with changeSet := (m.persist out).handle revision } := rfl
  rw [hbuilt, hhandle, TargetStack.following, o.targetOf_changeSet_name]

end Operator

/-! ## Rounds over an object that is served -/

namespace World

/-- Nothing stands in the way of rounds over the object but what the cloud has of its stack. -/
structure Cooperates (w : World) (o : Operator) (m : Manifest) (revision body : String) :
    Prop where
  active : m.isDeleting = false ∧ m.spec.suspend = false
  readable : ∃ intervals, Intervals.ofSpec m.spec = .ok intervals
  serves : w.Serves o m revision body
  fits : o.settings.templateBucket = none → body.utf8ByteSize ≤ inlineLimit
  reachable : Reachable w.cloud
  works : w.cloud.Works
  uploads : w.templates.failure = none
  overrides : w.overrides = .none

variable {w : World} {o : Operator} {m : Manifest} {revision body time : String}

theorem Cooperates.after (h : w.Cooperates o m revision body) (time : String) :
    (w.round o time m).2.Cooperates o (w.round o time m).1.after revision body := by
  have hsame := SameSurroundings.run (o.reconcile time m) w
  obtain ⟨hreplay, hoverrides⟩ := replay_of_run (o.reconcile time m) w h.overrides
  exact {
    active := h.active
    readable := h.readable
    serves := (h.serves.of_same hsame).of_object rfl rfl rfl
    fits := h.fits
    reachable := h.reachable.replay hreplay
    works := hreplay.works h.works
    uploads := hsame.uploads.trans h.uploads
    overrides := hoverrides }

/-- A round over an object with its finalizer takes the turn of its target on the cloud. -/
theorem Cooperates.turn (h : w.Cooperates o m revision body) (hfinalizer : m.hasFinalizer = true)
    (time : String) :
    ∃ reference st s,
      ((o.targetOf m revision body).turn true w.cloud).Leads reference st
        (w.round o time m).2.cloud ∧
      s.observedGeneration = newest m.base.observedGeneration m.metadata.generation ∧
      (w.round o time m).1.outcome.Writes s
        ⟨m.metadata.generation, some m.spec.stackName, some revision, some reference, time⟩ st := by
  have hduty : m.lifecycleFacts.choice.duty = some .reconcile := by
    rw [Manifest.duty_of_active h.active.1 h.active.2, hfinalizer, if_pos rfl]
  obtain ⟨intervals, hreads⟩ := h.readable
  obtain ⟨reference, st, s, hpursuit, hobserved, hwrites⟩ := h.serves.pursuit hduty hreads time
  have hreplay := (replay_of_run (o.reconcile time m) w h.overrides).1.remote
  obtain ⟨placed, hleads, hplaces⟩ := TargetStack.turn_of_pursuit h.works hpursuit hreplay
  cases placed with
  | true => exact ⟨reference, st, s, hleads, hobserved, hwrites⟩
  | false =>
    refine absurd ⟨h.fits, ?_⟩ (hplaces rfl)
    intro e he
    exact SameSurroundings.not_failsUpload _ h.uploads e (List.mem_filter.1 he).1

/-- The `n`th round of a series, counted from zero: each is stored before the next. -/
def nthRound (o : Operator) : (Nat → String) → Manifest → World → Nat → Report × World
  | times, m, w, 0 => w.round o (times 0) m
  | times, m, w, n + 1 =>
    let first := w.round o (times 0) m
    nthRound o (fun k => times (k + 1)) first.1.after first.2 n

/-- The round says ready, what it returns and what is stored then tell of the revision at the
generation, and the stack has the template. -/
structure Converged (o : Operator) (m : Manifest) (generation : Int64) (revision body : String)
    (x : Report × World) : Prop where
  ready : x.1.outcome.SaysReady
  returned : ∃ d, x.1.outcome.status = some d ∧ d.Records generation revision
  stored : ∃ s, x.1.after.status = some s ∧ s.Records generation revision
  deployed : (x.2.cloud.stack? (m.stackKey o.settings)).bind (·.template) =
    some (m.source o.settings revision body)

theorem Converged.of_persist {out : Outcome} {generation : Int64} {x : Report × World}
    (h : Converged o (m.persist out) generation revision body x) :
    Converged o m generation revision body x :=
  ⟨h.ready, h.returned, h.stored, h.deployed⟩

/-- A round over an active object without its finalizer adds it, and asks for nothing. -/
theorem round_of_missing (hactive : m.isDeleting = false ∧ m.spec.suspend = false)
    (hmissing : m.hasFinalizer = false) (time : String) (w : World) :
    (w.round o time m).1.outcome = .addFinalizer ∧ (w.round o time m).2 = w := by
  have hduty : m.lifecycleFacts.choice.duty = some .addFinalizer := by
    rw [Manifest.duty_of_active hactive.1 hactive.2, hmissing, if_neg Bool.false_ne_true]
  have hprogram : o.reconcile time m = Program.done .addFinalizer := by
    unfold Operator.reconcile
    rw [hduty]
    rfl
  unfold World.round World.roundAfter
  rw [hprogram]
  exact ⟨rfl, rfl⟩

theorem converged_of_turn {generation : Int64} {reference : String} {s : Status}
    (hwrites : (w.round o time m).1.outcome.Writes s
      ⟨m.metadata.generation, some m.spec.stackName, some revision, some reference, time⟩ .true)
    (hseen : newest s.observedGeneration m.metadata.generation = some generation)
    (hbase : m.base.observedGeneration = none ∨ m.base.observedGeneration = some generation)
    (hholds : (o.targetOf m revision body).Holds (w.round o time m).2.cloud) :
    Converged o m generation revision body (w.round o time m) := by
  have hready := hwrites.saysReady_iff.2 rfl
  obtain ⟨d, hd, hmoves⟩ := hwrites
  have hrecords : d.Records generation revision := hmoves.records hseen rfl rfl
  refine ⟨hready, ⟨d, hd, hrecords⟩, ?_, ?_⟩
  · refine ⟨d.mergeOnto m.status, ?_, ?_⟩
    · show (m.persist (w.round o time m).1.outcome).status = _
      rw [Manifest.persist, hd]
    · exact hrecords.mergeOnto (le_of_unseen hbase)
  · rw [← o.targetOf_source]
    exact hholds

/-- With so many turns ahead, that many rounds are enough before the one that says ready. -/
theorem Cooperates.converges_of_ahead {generation : Int64} {k : Nat}
    (h : w.Cooperates o m revision body) (hfinalizer : m.hasFinalizer = true)
    (hgeneration : m.metadata.generation = some generation)
    (hbase : m.base.observedGeneration = none ∨ m.base.observedGeneration = some generation)
    (hahead : (o.targetOf m revision body).Ahead w.cloud k) (times : Nat → String) :
    ∃ n ≤ k, (∀ j < n, ¬ (nthRound o times m w j).1.outcome.SaysReady) ∧
      Converged o m generation revision body (nthRound o times m w n) := by
  induction k using Nat.strongRecOn generalizing w m times with
  | ind k ih =>
    obtain ⟨reference, st, s, hleads, hobserved, hwrites⟩ := h.turn hfinalizer (times 0)
    have hseen : newest s.observedGeneration m.metadata.generation = some generation := by
      rw [hobserved, hgeneration, (newest_of_le (le_of_unseen hbase)).1, newest, ite_self]
    rcases hahead.turn h.reachable.coherent Operator.targetOf_following_self with
      ⟨hverdict, hholds⟩ | ⟨hverdict, k', hk, hrest⟩
    · obtain rfl : ConditionStatus.true = st := hverdict.symm.trans hleads.verdict
      refine ⟨0, Nat.zero_le k, fun j hj => absurd hj (Nat.not_lt_zero j), ?_⟩
      refine converged_of_turn hwrites hseen hbase ?_
      rw [TargetStack.Holds, hleads.store.stack?]
      exact hholds
    · have hunready : ¬ (w.round o (times 0) m).1.outcome.SaysReady := fun hready =>
        hverdict (hleads.verdict.trans (hwrites.saysReady_iff.1 hready))
      have hahead' : (o.targetOf (w.round o (times 0) m).1.after revision body).Ahead
          (w.round o (times 0) m).2.cloud k' := by
        have htarget : o.targetOf (w.round o (times 0) m).1.after revision body =
            (o.targetOf m revision body).following reference :=
          Operator.targetOf_persist rfl hwrites
        rw [htarget, ← hleads.reference]
        exact hrest.of_sameStore hleads.store
      have hkept : (w.round o (times 0) m).1.after.hasFinalizer = true := by
        obtain ⟨d, hd, -⟩ := hwrites
        exact Manifest.hasFinalizer_persist hfinalizer
          (Operator.keep_of_reconcile (ran_run World.answer (o.reconcile (times 0) m) w) hd)
      obtain ⟨n, hn, hbefore, hconverged⟩ := ih k' hk (h.after (times 0)) hkept hgeneration
        (.inr (Manifest.observedGeneration_persist hwrites hseen hbase)) hahead'
        (fun j => times (j + 1))
      refine ⟨n + 1, by omega, ?_, hconverged.of_persist⟩
      intro j hj
      cases j with
      | zero => exact hunready
      | succ j => exact hbefore j (by omega)

/-- An object without an earlier status is ready within five rounds, over a stack that is absent or
whose status is known and not in progress, and that has no change sets. -/
theorem Cooperates.ready_within_five {generation : Int64} (h : w.Cooperates o m revision body)
    (hstatus : m.base = .empty) (hgeneration : m.metadata.generation = some generation)
    (hclear : w.cloud.changeSetsOf (m.stackKey o.settings) = [])
    (hphase : ∀ s, w.cloud.stack? (m.stackKey o.settings) = some s →
      StackRecord.phase s ∈ [StackPhase.notCreated, .success, .recoverableFailure,
        .rollbackContinuationNeeded, .unrecoverableFailure])
    (times : Nat → String) :
    ∃ n < 5, (∀ j < n, ¬ (nthRound o times m w j).1.outcome.SaysReady) ∧
      Converged o m generation revision body (nthRound o times m w n) := by
  have hid : (o.targetOf m revision body).changeSet.id = none := by
    show (attemptHandle m.base.lastAttemptedChangeSet _).id = none
    rw [hstatus]
    rfl
  have hunseen : m.base.observedGeneration = none ∨
      m.base.observedGeneration = some generation := by
    rw [hstatus]
    exact .inl rfl
  obtain ⟨k, hk, hahead⟩ := TargetStack.ahead_of_phase hid hclear hphase
  cases hfinalizer : m.hasFinalizer with
  | true =>
    obtain ⟨n, hn, hconverged⟩ :=
      h.converges_of_ahead hfinalizer hgeneration hunseen hahead times
    exact ⟨n, by omega, hconverged⟩
  | false =>
    obtain ⟨houtcome, hworld⟩ := round_of_missing (o := o) h.active hfinalizer (times 0) w
    have hafter : (w.round o (times 0) m).1.after = m.persist .addFinalizer := by
      rw [← houtcome]
      rfl
    have hnext := h.after (times 0)
    rw [hworld, hafter] at hnext
    obtain ⟨n, hn, hbefore, hconverged⟩ := hnext.converges_of_ahead
      (Manifest.hasFinalizer_persist_addFinalizer m) hgeneration hunseen hahead
      (fun j => times (j + 1))
    refine ⟨n + 1, by omega, ?_, ?_⟩
    · intro j hj
      -- the first round has added the finalizer, and says nothing
      cases j with
      | zero =>
        rintro ⟨d, -, hd, -⟩
        rw [nthRound, houtcome] at hd
        cases hd
      | succ j =>
        rw [nthRound, hworld, hafter]
        exact hbefore j (by omega)
    · rw [nthRound, hworld, hafter]
      exact hconverged.of_persist

end World

/-! ## A sample -/

namespace Sample

/-- The object of the sample before its first round, with a source. -/
def declared : Manifest :=
  { object with
    metadata := { object.metadata with finalizers := none }
    spec := { object.spec with sourceRef := ⟨"GitRepository", "repo", none⟩ } }

def reply : ScriptedReply := ⟨200, archive "a", false, none⟩

/-- The source is published, its server is up, and the rollback of the stack has got stuck. -/
def served : World :=
  { World.ofNetwork ⟨true, [(url.withoutUserInfo.withoutFragment.text, [reply])], []⟩ with
    cloud := MemoryCloud.empty.seedStack ("eu-north-1", "app-stack") "UPDATE_ROLLBACK_FAILED" none
    sources := [(("GitRepository", "infra", "repo"), some (artifact "a"))] }

theorem download_served {w : World} (h : World.SameSurroundings served w) :
    (World.answer (.download url) w).1 = .response 200 (.ok (archive "a")) := by
  have hscripted : ∀ n, w.network.scripted url.withoutUserInfo.withoutFragment.text n = reply := by
    intro n
    have hlisted : w.network.replies.lookup url.withoutUserInfo.withoutFragment.text =
        some [reply] := by
      rw [h.replies]
      exact List.lookup_cons_self
    rw [Network.scripted, hlisted]
    cases n <;> rfl
  have honline : w.network.isOnline = true := h.isOnline
  have hplain : url.scheme ≠ "https" := nofun
  show (w.network.attempt url).1 = _
  rw [Network.attempt, honline, Bool.not_true, if_neg Bool.false_ne_true, if_neg hplain]
  show Network.replyOf url (w.network.scripted _ _) = _
  rw [hscripted]
  rfl

theorem serves : served.Serves operator declared "a" "A" where
  dependencies := fun d hd => absurd hd List.not_mem_nil
  template := by
    refine ⟨artifact "a", rfl, rfl, fun w h => ?_⟩
    refine run_of_ran (I := World.SameSurroundings served) (fetched "a") (fun w h e he => ?_) h
    obtain rfl := List.mem_singleton.1 he
    exact ⟨download_served h, h.trans (.answer _ _)⟩

theorem cooperates : served.Cooperates operator declared "a" "A" where
  active := ⟨rfl, rfl⟩
  readable := ⟨_, (supply "a").reads⟩
  serves := serves
  fits := nofun
  reachable := .seedStack _ _ _ .empty
  works := rfl
  uploads := rfl
  overrides := rfl

end Sample

open Sample in
theorem ready_within_five_served : ∃ n < 5,
    (∀ j < n, ¬ (World.nthRound operator (fun _ => "2024-05-01T00:00:00+00:00") declared served
      j).1.outcome.SaysReady) ∧
    World.Converged operator declared 1 "a" "A"
      (World.nthRound operator (fun _ => "2024-05-01T00:00:00+00:00") declared served n) := by
  refine World.Cooperates.ready_within_five cooperates rfl rfl rfl ?_ _
  intro s hs
  obtain rfl := Option.some.inj hs
  decide +kernel

end StackSync
