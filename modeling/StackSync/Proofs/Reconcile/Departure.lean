import StackSync.Proofs.Cloud.Working
import StackSync.Proofs.Reconcile.Finalizer
import StackSync.Simulation.Rehearsal

/-!
# An object waits for the end of its stack

An object that is deleted together with its stack is held by the finalizer. Each round looks the
stack up; `Departure` lists what can come of that. There is one way to be released, and that is to
be told that the stack is gone. Every other way is pending: the object stays, its status says why,
and there is a delay after which the next round comes. A spec that cannot be read does not change
that, because the fallback intervals take over.

How often the cloud has to be asked depends on the cloud. The one in memory deletes a stack at once,
with its change sets; `Demolition` is what a round does there. So a stack that has come to rest is
deleted by one round, and the next one releases the object.
-/

namespace StackSync

open Program MemoryCloud

namespace Manifest

/-- The object is being deleted, and its stack with it. -/
structure Condemned (m : Manifest) : Prop where
  deleting : m.isDeleting = true
  held : m.hasFinalizer = true
  active : m.spec.suspend = false
  destroys : m.spec.destroyStackOnDeletion = true

variable {m : Manifest} {out : Outcome}

theorem deleting_of_destroyStack (h : m.lifecycleFacts.choice.duty = some .destroyStack) :
    m.isDeleting = true ∧ m.spec.destroyStackOnDeletion = true ∧ m.hasFinalizer = true ∧
      m.spec.suspend = false := by
  unfold lifecycleFacts LifecycleFacts.choice at h
  cases hdeleting : m.isDeleting <;> cases hfinalizer : m.hasFinalizer <;>
    cases hsuspend : m.spec.suspend <;> cases hdestroys : m.spec.destroyStackOnDeletion <;>
    simp_all

theorem condemned_iff : m.Condemned ↔ m.lifecycleFacts.choice.duty = some .destroyStack := by
  constructor
  · rintro ⟨hdeleting, hheld, hactive, hdestroys⟩
    simp [lifecycleFacts, LifecycleFacts.choice, hdeleting, hheld, hactive, hdestroys]
  · intro hduty
    obtain ⟨hdeleting, hdestroys, hheld, hactive⟩ := deleting_of_destroyStack hduty
    exact ⟨hdeleting, hheld, hactive, hdestroys⟩

theorem Condemned.persist (h : m.Condemned) (hkeep : out.finalizer = .keep) :
    (m.persist out).Condemned :=
  ⟨h.deleting, hasFinalizer_persist h.held hkeep, h.active, h.destroys⟩

end Manifest

/-- The object stays as it is, a status is written, and there will be another round. -/
structure Outcome.Pending (out : Outcome) : Prop where
  keeps : out.finalizer = .keep
  writes : out.status.isSome = true
  comesBack : out.requeue.isSome = true

/-! ## One round -/

/-- The ways a teardown can pass, by what the cloud is asked and by the outcome. -/
inductive Departure (key : StackKey) : List Exchange → Outcome → Prop where
  | unseen {e : CloudError} {out : Outcome} : out.Pending →
      Departure key [⟨.describeStack key.1 key.2, .error e⟩] out
  | released {found : Option StackDescription} : Operator.isGone found = true →
      Departure key [⟨.describeStack key.1 key.2, .ok found⟩] .removeFinalizer
  | unsettled {s : StackDescription} {out : Outcome} : s.status ≠ "DELETE_COMPLETE" →
      s.phase = .inProgress → out.Pending →
      Departure key [⟨.describeStack key.1 key.2, .ok (some s)⟩] out
  | deleting {s : StackDescription} {answer : CloudAnswer Unit} {out : Outcome} :
      s.status ≠ "DELETE_COMPLETE" → s.phase ≠ .inProgress → out.Pending →
      Departure key [⟨.describeStack key.1 key.2, .ok (some s)⟩, ⟨.deleteStack key.1 key.2, answer⟩]
        out

namespace Operator

variable {o : Operator} {m m' : Manifest} {time : String} {es : List Exchange} {out : Outcome}

theorem isGone_iff {found : Option StackDescription} :
    isGone found = true ↔ ∀ s ∈ found, s.status = "DELETE_COMPLETE" := by
  cases found with
  | none => exact ⟨fun _ => nofun, fun _ => rfl⟩
  | some s => simp [isGone]

theorem Exit.pending {r : Round} {fs : List String} {reason : String}
    (h : o.Exit r fs reason out) : out.Pending := by
  cases h <;> exact ⟨rfl, rfl, rfl⟩

theorem departure_of_advanceDeletion {intervals : Intervals} {x : Round × Outcome}
    (h : Ran (o.advanceDeletion (Round.start m intervals time)) es x) :
    Departure (m.stackKey o.settings) (remote es) x.2 := by
  unfold advanceDeletion at h
  rw [show (Round.start m intervals time).manifest = m from rfl, regionOf_eq_regionOr] at h
  obtain ⟨answer, rest, rfl, hrest⟩ := ran_request_bind_iff.1 h
  rw [remote_cons_of_isRemote rfl]
  cases answer with
  | error e =>
    obtain ⟨rfl, rfl⟩ := ran_pure_iff.1 hrest
    exact .unseen ⟨rfl, rfl, rfl⟩
  | ok found =>
    cases found with
    | none =>
      obtain ⟨rfl, rfl⟩ := ran_pure_iff.1 hrest
      exact .released rfl
    | some s =>
      dsimp only at hrest
      split at hrest
      · next hgone =>
        obtain ⟨rfl, rfl⟩ := ran_pure_iff.1 hrest
        exact .released hgone
      · next hthere =>
        have hstatus : s.status ≠ "DELETE_COMPLETE" := fun heq => hthere (beq_iff_eq.2 heq)
        split at hrest
        · next hphase =>
          obtain ⟨rfl, rfl⟩ := ran_pure_iff.1 hrest
          exact .unsettled hstatus hphase ⟨rfl, rfl, rfl⟩
        · next hphase =>
          obtain ⟨reason, hending⟩ := destroy_ends o _ _ s _ _ hrest
          obtain ⟨⟨answer, hdeletion⟩, -⟩ :=
            remote_of_destroy (m := m) rfl (m.attempts_start ..) hrest
          rw [hdeletion]
          exact .deleting hstatus hphase hending.exit.pending

theorem departure_of_reconcile (h : m.Condemned) (ran : Ran (o.reconcile time m) es out) :
    Departure (m.stackKey o.settings) (remote es) out := by
  unfold reconcile at ran
  rw [Manifest.condemned_iff.1 h] at ran
  dsimp only at ran
  unfold tearDown at ran
  obtain ⟨first, rest, x, rfl, hdeletion, hclose⟩ := ran_bind_iff.1 ran
  obtain ⟨hquiet, rfl⟩ := remote_of_close hclose
  rw [remote_append, hquiet, List.append_nil]
  exact departure_of_advanceDeletion hdeletion

end Operator

namespace Departure

variable {key : StackKey} {es : List Exchange} {out : Outcome}

/-- The release takes one look, at a stack that is gone. -/
theorem gone (h : Departure key es out) (hremove : out.finalizer = .remove) :
    ∃ found, Operator.isGone found = true ∧ es = [⟨.describeStack key.1 key.2, .ok found⟩] := by
  cases h with
  | released hgone => exact ⟨_, hgone, rfl⟩
  | unseen hpending | unsettled _ _ hpending | deleting _ _ hpending =>
    rw [hpending.keeps] at hremove
    cases hremove

/-- All that is asked is about the one stack. -/
theorem exists_lookup (h : Departure key es out) :
    ∃ (answer : CloudAnswer (Option StackDescription)) (rest : List Exchange),
      es = ⟨.describeStack key.1 key.2, answer⟩ :: rest ∧
      ∀ e ∈ rest, e.request = .deleteStack key.1 key.2 := by
  cases h with
  | unseen | released | unsettled => exact ⟨_, [], rfl, List.forall_mem_nil _⟩
  | deleting => exact ⟨_, [_], rfl, List.forall_mem_singleton.2 rfl⟩

/-- The first answer decides about the release. -/
theorem released_iff {answer : CloudAnswer (Option StackDescription)} {rest : List Exchange}
    (h : Departure key (⟨.describeStack key.1 key.2, answer⟩ :: rest) out) :
    out.finalizer = .remove ↔ ∃ found, answer = .ok found ∧ Operator.isGone found = true := by
  constructor
  · intro hremove
    obtain ⟨found, hgone, hes⟩ := h.gone hremove
    cases hes
    exact ⟨found, rfl, hgone⟩
  · rintro ⟨found, rfl, hgone⟩
    cases h with
    | released => rfl
    | unsettled hstatus | deleting hstatus => exact absurd (beq_iff_eq.1 hgone) hstatus

theorem released_or_pending (h : Departure key es out) :
    out.finalizer = .remove ∨ out.Pending := by
  cases h with
  | released => exact .inl rfl
  | unseen hpending | unsettled _ _ hpending | deleting _ _ hpending => exact .inr hpending

end Departure

/-! ## Round after round -/

/-- Rounds over an object, each written before the next, with their conversations. Whoever answers
may answer as they like. -/
inductive Operator.Rounds (o : Operator) : Manifest → List (List Exchange) → Manifest → Prop where
  | nil (m : Manifest) : Rounds o m [] m
  | cons {m m' : Manifest} {time : String} {es : List Exchange} {out : Outcome}
      {rounds : List (List Exchange)} : Ran (o.reconcile time m) es out →
      Rounds o (m.persist out) rounds m' → Rounds o m (es :: rounds) m'

/-- The cloud has said, in answer to the lookup, that the stack is gone. -/
def SaidGone (key : StackKey) (es : List Exchange) : Prop :=
  ∃ found : Option StackDescription, (∀ s ∈ found, s.status = "DELETE_COMPLETE") ∧
    (⟨.describeStack key.1 key.2, .ok found⟩ : Exchange) ∈ es

theorem Departure.saidGone {key : StackKey} {es : List Exchange} {out : Outcome}
    (h : Departure key (remote es) out) (hremove : out.finalizer = .remove) : SaidGone key es := by
  obtain ⟨found, hgone, hes⟩ := h.gone hremove
  have hlookup : (⟨.describeStack key.1 key.2, .ok found⟩ : Exchange) ∈ remote es := by
    rw [hes]
    exact List.mem_cons_self
  exact ⟨found, Operator.isGone_iff.1 hgone, (List.mem_filter.1 hlookup).1⟩

theorem Operator.Rounds.condemned {o : Operator} {m m' : Manifest}
    {rounds : List (List Exchange)} (run : o.Rounds m rounds m') (h : m.Condemned)
    (hthere : ∀ es ∈ rounds, ¬ SaidGone (m.stackKey o.settings) es) : m'.Condemned := by
  induction run with
  | nil => exact h
  | cons ran _ ih =>
    obtain ⟨hfirst, hrest⟩ := List.forall_mem_cons.1 hthere
    have hdeparture := departure_of_reconcile h ran
    rcases hdeparture.released_or_pending with hremove | hpending
    · exact absurd (hdeparture.saidGone hremove) hfirst
    · exact ih (h.persist hpending.keeps) hrest

/-! ## The cloud in memory -/

/-- What a teardown does where nothing is made to fail, by what has been there. -/
inductive Demolition (key : StackKey) (c : MemoryCloud) (out : Outcome) (c' : MemoryCloud) :
    Prop where
  | released : (∀ s ∈ c.stack? key, s.status = "DELETE_COMPLETE") → out = .removeFinalizer →
      SameStore c c' → Demolition key c out c'
  | unsettled {s : StackRecord} : c.stack? key = some s → s.status ≠ "DELETE_COMPLETE" →
      StackPhase.ofStatus s.status = .inProgress → out.Pending → SameStore c c' →
      Demolition key c out c'
  | deleted {s : StackRecord} : c.stack? key = some s → s.status ≠ "DELETE_COMPLETE" →
      StackPhase.ofStatus s.status ≠ .inProgress → out.Pending →
      SameStore (c.eraseStack key) c' → Demolition key c out c'

theorem Departure.demolition {key : StackKey} {es : List Exchange} {out : Outcome}
    {c c' : MemoryCloud} (h : Departure key es out) (replay : Replay c es c') (works : c.Works) :
    Demolition key c out c' := by
  have hlookup : ∀ {answer : CloudAnswer (Option StackDescription)} {rest : List Exchange},
      Replay c (⟨.describeStack key.1 key.2, answer⟩ :: rest) c' →
      answer = .ok ((c.stack? key).map (stackDescription key.1 key.2)) ∧
        ∃ c₁, SameStore c c₁ ∧ Replay c₁ rest c' := by
    intro answer rest h
    obtain ⟨c₁, hanswer, hrest⟩ := replay_cons_iff.1 h
    obtain ⟨hsaid, hs⟩ := works.describeStack hanswer
    exact ⟨hsaid, c₁, hs, hrest⟩
  have hrecord : ∀ {s : StackDescription},
      Except.ok (some s) = (.ok ((c.stack? key).map (stackDescription key.1 key.2)) :
        CloudAnswer (Option StackDescription)) →
      ∃ record, c.stack? key = some record ∧ s.status = record.status := by
    intro s h
    obtain ⟨record, hstack, rfl⟩ := Option.map_eq_some_iff.1 (Except.ok.inj h).symm
    exact ⟨record, hstack, rfl⟩
  cases h with
  | unseen _ => cases (hlookup replay).1
  | released hgone =>
    obtain ⟨hsaid, c₁, hs, hrest⟩ := hlookup replay
    obtain rfl := replay_nil_iff.1 hrest
    refine .released (fun s hstack => ?_) rfl hs
    rw [Except.ok.inj hsaid, show c.stack? key = some s from hstack] at hgone
    exact beq_iff_eq.1 hgone
  | unsettled hstatus hphase hpending =>
    obtain ⟨hsaid, c₁, hs, hrest⟩ := hlookup replay
    obtain rfl := replay_nil_iff.1 hrest
    obtain ⟨record, hstack, heq⟩ := hrecord hsaid
    rw [StackDescription.phase, heq] at hphase
    exact .unsettled hstack (heq ▸ hstatus) hphase hpending hs
  | deleting hstatus hphase hpending =>
    obtain ⟨hsaid, c₁, hs, hrest⟩ := hlookup replay
    obtain ⟨c₂, hanswer, hnil⟩ := replay_cons_iff.1 hrest
    obtain rfl := replay_nil_iff.1 hnil
    obtain ⟨-, herased⟩ := (hs.works works).deleteStack hanswer
    obtain ⟨record, hstack, heq⟩ := hrecord hsaid
    rw [StackDescription.phase, heq] at hphase
    exact .deleted hstack (heq ▸ hstatus) hphase hpending ((hs.eraseStack key).trans herased)

theorem Demolition.works {key : StackKey} {c c' : MemoryCloud} {out : Outcome}
    (h : Demolition key c out c') (works : c.Works) : c'.Works := by
  cases h with
  | released _ _ hs | unsettled _ _ _ _ hs | deleted _ _ _ _ hs => exact hs.works works

/-- A round over such an object in a world where nothing is made to fail. -/
theorem World.demolition_of_round {w : World} {o : Operator} {m : Manifest} (h : m.Condemned)
    (hoverrides : w.overrides = .none) (works : w.cloud.Works) (time : String) :
    Demolition (m.stackKey o.settings) w.cloud (w.round o time m).1.outcome
      (w.round o time m).2.cloud ∧ (w.round o time m).2.overrides = .none := by
  obtain ⟨hreplay, hnone⟩ := replay_of_run (o.reconcile time m) w hoverrides
  have ran := ran_run World.answer (o.reconcile time m) w
  exact ⟨(Operator.departure_of_reconcile h ran).demolition hreplay.remote works, hnone⟩

namespace Operator

/-- A round over an object that is deleted with its stack asks about the stack where a target of the
object would have it, in the region of the spec or the default one. It releases the object exactly
if it is told that the stack is gone; any other outcome is pending, so that the finalizer is there
until somebody has said so. In memory, where nothing is made to fail, a stack that is at rest is
deleted with its change sets by one round, and the next takes the finalizer away. -/
theorem released_iff_gone {o : Operator} {m : Manifest} (h : m.Condemned) :
    (∀ (time : String) (es : List Exchange) (out : Outcome), Ran (o.reconcile time m) es out →
      ∀ i : TargetInput, i.spec = m.spec → i.defaultRegion = o.settings.defaultRegion →
      ∃ (answer : CloudAnswer (Option StackDescription)) (rest : List Exchange),
        o.regionOf m = (TargetStack.build i).region ∧
        m.spec.Resides o.settings.defaultRegion (o.regionOf m) ∧
        remote es = ⟨.describeStack (TargetStack.build i).region (TargetStack.build i).stackName,
          answer⟩ :: rest ∧
        (∀ e ∈ rest, e.request =
          .deleteStack (TargetStack.build i).region (TargetStack.build i).stackName) ∧
        (out.finalizer = .remove ↔
          ∃ found, answer = .ok found ∧ ∀ s ∈ found, s.status = "DELETE_COMPLETE") ∧
        (out.finalizer = .remove ∨ out.Pending)) ∧
    (∀ (rounds : List (List Exchange)) (m' : Manifest), o.Rounds m rounds m' →
      (∀ es ∈ rounds, ¬ SaidGone (m.stackKey o.settings) es) → m'.hasFinalizer = true) ∧
    ∀ (w : World) (time later : String) (s : StackRecord), w.overrides = .none →
      w.cloud.Works → w.cloud.stack? (m.stackKey o.settings) = some s →
      s.status ≠ "DELETE_COMPLETE" → StackPhase.ofStatus s.status ≠ .inProgress →
      ((w.round o time m).1.after.hasFinalizer = true ∧
        (w.round o time m).2.cloud.stack? (m.stackKey o.settings) = none ∧
        (w.round o time m).2.cloud.changeSetsOf (m.stackKey o.settings) = []) ∧
      ((w.round o time m).2.round o later (w.round o time m).1.after).1.outcome.finalizer =
        .remove ∧
      ((w.round o time m).2.round o later (w.round o time m).1.after).1.after.hasFinalizer =
        false := by
  refine ⟨?_, fun rounds m' run hthere => (run.condemned h hthere).held, ?_⟩
  · intro time es out ran i hspec hdefault
    have hregion : o.regionOf m = (TargetStack.build i).region := by
      rw [regionOf_eq_regionOr, ← hspec, ← hdefault]
      rfl
    have hkey : m.stackKey o.settings =
        ((TargetStack.build i).region, (TargetStack.build i).stackName) := by
      rw [Manifest.stackKey, ← hregion, ← regionOf_eq_regionOr, ← hspec]
      rfl
    have hdeparture := departure_of_reconcile h ran
    rw [hkey] at hdeparture
    obtain ⟨answer, rest, hes, hrest⟩ := hdeparture.exists_lookup
    rw [hes] at hdeparture
    have hiff := hdeparture.released_iff
    simp only [isGone_iff] at hiff
    exact ⟨answer, rest, hregion, o.resides_regionOf m, hes, hrest, hiff,
      hdeparture.released_or_pending⟩
  · intro w time later s hoverrides works hstack hthere hrest
    obtain ⟨hfirst, hnone⟩ := World.demolition_of_round (o := o) h hoverrides works time
    have hworks := hfirst.works works
    cases hfirst with
    | released hgone => exact absurd (hgone s hstack) hthere
    | unsettled hstack' _ hphase =>
      obtain rfl := Option.some.inj (hstack.symm.trans hstack')
      exact absurd hphase hrest
    | deleted _ _ _ hpending hs =>
      have hcleared : (w.round o time m).2.cloud.stack? (m.stackKey o.settings) = none := by
        rw [hs.stack?, stack?_eraseStack, if_pos rfl]
      have hsets : (w.round o time m).2.cloud.changeSetsOf (m.stackKey o.settings) = [] := by
        rw [changeSetsOf, hs.changeSets]
        exact changeSetsOf_eraseStack
      have hcondemned : (w.round o time m).1.after.Condemned := h.persist hpending.keeps
      obtain ⟨hsecond, -⟩ := World.demolition_of_round (o := o) hcondemned hnone hworks later
      have hremove : ((w.round o time m).2.round o later
          (w.round o time m).1.after).1.outcome.finalizer = .remove := by
        cases hsecond with
        | released _ hreleased => exact congrArg (·.finalizer) hreleased
        | unsettled hstack' | deleted hstack' =>
          cases hcleared.symm.trans hstack'
      exact ⟨⟨hcondemned.held, hcleared, hsets⟩, hremove,
        Manifest.hasFinalizer_persist_of_remove _ hremove⟩

end Operator

/-! ## A stack that could not be deleted -/

namespace Sample

/-- The object is deleted, with an interval that is no duration. -/
def unreadable : Manifest :=
  { object with
    metadata := { object.metadata with deleting := true }
    spec := { object.spec with destroyStackOnDeletion := true, interval := "" } }

theorem unreadable_condemned : unreadable.Condemned := ⟨rfl, rfl, rfl, rfl⟩

/-- Its stack has been deleted before, without success, and still has a change set. -/
def undeleted : World :=
  { World.ofNetwork default with
    cloud := ((MemoryCloud.empty.seedStack (unreadable.stackKey operator.settings)
      "DELETE_FAILED" (some "The bucket is not empty")).seedChangeSet
        (unreadable.stackKey operator.settings) "flux-1-a" "CREATE_COMPLETE" (some "AVAILABLE")
        none).2 }

end Sample

open Sample in
theorem Operator.released_iff_gone_undeleted :
    unreadable.Condemned ∧ (Intervals.ofSpec unreadable.spec).toOption = none ∧
      undeleted.cloud.changeSets ≠ [] ∧
      (undeleted.round operator "t" unreadable).2.cloud.changeSetsOf
        (unreadable.stackKey operator.settings) = [] ∧
      ((undeleted.round operator "t" unreadable).2.round operator "u"
        (undeleted.round operator "t" unreadable).1.after).1.after.hasFinalizer = false := by
  obtain ⟨-, -, hcloud⟩ := released_iff_gone (o := operator) unreadable_condemned
  obtain ⟨⟨-, -, hsets⟩, -, hreleased⟩ := hcloud undeleted "t" "u"
    ⟨"DELETE_FAILED", some "The bucket is not empty", none⟩ rfl rfl rfl nofun nofun
  exact ⟨unreadable_condemned, rfl, nofun, hsets, hreleased⟩

end StackSync
