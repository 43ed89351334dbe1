import StackSync.Proofs.Cluster.StatusWrite
import StackSync.Proofs.Reconcile.Imprint
import StackSync.Proofs.Reconcile.InStep
import StackSync.Proofs.Reconcile.Serving

/-!
# A round and its repetition

A round is repeated over the same object with another status, at another time. Following the program,
the two stay in step up to the change set, which the repetition looks up by what its status has
recorded. If the cloud has the same to say about both handles, the two rounds pass the same judgement
(`reconcile_inStep`).
-/

namespace StackSync

open Program MemoryCloud

/-- The states of two rounds, one over the object and one over it with another status, that have come to
the same point. Both either address a change set they have found, or each the one it would attempt. -/
structure Twins (m : Manifest) (l : Status) (r r' : Round) : Prop where
  object : r.manifest = m
  object' : r'.manifest = m.restated l
  current : m.Observed r.current
  current' : (m.restated l).Observed r'.current
  generation : r.attempt.generation = m.metadata.generation
  stackName : r.attempt.stackName = some m.spec.stackName
  attempt : r'.attempt =
    { r.attempt with time := r'.attempt.time, changeSet := r'.attempt.changeSet }
  changeSet : r'.attempt.changeSet = r.attempt.changeSet ∨ ∃ revision,
    r.attempt.changeSet = some (m.handle revision).reference ∧
      r'.attempt.changeSet = some ((m.restated l).handle revision).reference

/-- Neither outcome has a status, or the two pass the same judgement. -/
def Agree (m : Manifest) (l : Status) (out out' : Outcome) : Prop :=
  (out.status = none ∧ out'.status = none) ∨ ∃ (j : Judgement) (r r' : Round), Twins m l r r' ∧
    out.status = some (j.move r.current r.attempt) ∧ out'.status = some (j.move r'.current r'.attempt)

namespace Twins

variable {m : Manifest} {l : Status} {r r' : Round}

theorem spec (h : Twins m l r r') : r.manifest.spec = m.spec := congrArg Manifest.spec h.object

theorem spec' (h : Twins m l r r') : r'.manifest.spec = m.spec := by
  rw [h.object']
  rfl

theorem agree (h : Twins m l r r') (j : Judgement) {out out' : Outcome}
    (hout : out.status = some (j.move r.current r.attempt))
    (hout' : out'.status = some (j.move r'.current r'.attempt)) : Agree m l out out' :=
  .inr ⟨j, r, r', h, hout, hout'⟩

theorem emitted (h : Twins m l r r') :
    Twins m l { r with emitted := true } { r' with emitted := true } :=
  ⟨h.object, h.object', h.current, h.current', h.generation, h.stackName, h.attempt, h.changeSet⟩

theorem withRevision (h : Twins m l r r') (revision : String) :
    Twins m l (r.withRevision revision) (r'.withRevision revision) := by
  refine ⟨h.object, h.object', h.current, h.current', h.generation, h.stackName, ?_, h.changeSet⟩
  unfold Round.withRevision
  rw [h.attempt]

theorem withFound (h : Twins m l r r') (handle : ChangeSetHandle) :
    Twins m l (r.withChangeSet handle) (r'.withChangeSet handle) := by
  refine ⟨h.object, h.object', h.current, h.current', h.generation, h.stackName, ?_, .inl rfl⟩
  unfold Round.withChangeSet
  rw [h.attempt]

theorem withAttempted (h : Twins m l r r') (revision : String) :
    Twins m l (r.withChangeSet (m.handle revision))
      (r'.withChangeSet ((m.restated l).handle revision)) := by
  refine ⟨h.object, h.object', h.current, h.current', h.generation, h.stackName, ?_,
    .inr ⟨revision, rfl, rfl⟩⟩
  unfold Round.withChangeSet
  rw [h.attempt]

/-- They have one target, save for the change set. -/
theorem target (h : Twins m l r r') (o : Operator) (revision body : String) :
    o.target r' revision body =
        { o.target r revision body with changeSet := (m.restated l).handle revision } ∧
      (o.target r revision body).changeSet = m.handle revision ∧
      (o.target r revision body).key = m.stackKey o.settings := by
  rw [o.target_eq_targetOf h.object h.current.lastAttemptedChangeSet,
    o.target_eq_targetOf h.object' h.current'.lastAttemptedChangeSet]
  exact ⟨rfl, rfl, rfl⟩

theorem start (m : Manifest) (l : Status) (intervals : Intervals) (time time' : String) :
    Twins m l (.start m intervals time) (.start (m.restated l) intervals time') :=
  ⟨rfl, rfl, .inl rfl, .inl rfl, rfl, rfl, rfl, .inl rfl⟩

theorem observe (m : Manifest) (l : Status) (intervals : Intervals) (time time' : String) :
    Twins m l (Operator.observeGeneration (.start m intervals time))
      (Operator.observeGeneration (.start (m.restated l) intervals time')) := by
  have hfresh := Operator.fresh_observeGeneration m intervals time
  have hfresh' := Operator.fresh_observeGeneration (m.restated l) intervals time'
  refine ⟨hfresh.manifest, hfresh'.manifest, hfresh.current, hfresh'.current, ?_, ?_, ?_, ?_⟩ <;>
    simp only [Operator.attempt_observeGeneration]
  · rfl
  · rfl
  · rfl
  · exact .inl rfl

theorem named (h : Twins m l r r') : r.attempt.stackName ≠ none := by
  rw [h.stackName]
  nofun

/-- What a judgement of the first round leaves. -/
theorem timeless_mergeOnto (h : Twins m l r r') (j : Judgement)
    (distinct : (m.base.conditions.map (·.type)).Nodup) :
    ((j.move r.current r.attempt).mergeOnto m.status).timeless = j.imprint m.base r.attempt :=
  j.timeless_mergeOnto h.current distinct h.generation h.named

end Twins

namespace InStep

variable {α β : Type} {c : MemoryCloud} {heard : Exchange → Prop} {R : α → β → Prop} {r r' : Round}

theorem emit_bind {e e' : Event} {f : Round → Program α} {f' : Round → Program β}
    (h : InStep c heard R (f { r with emitted := true }) (f' { r' with emitted := true })) :
    InStep c heard R (r.emit e >>= f) (r'.emit e' >>= f') :=
  .emitLeft (.emitRight h)

theorem close_left {R : Outcome → β → Prop} {out : Outcome} {p : Program β}
    (h : InStep c heard R (pure out) p) : InStep c heard R (r.close out) p := by
  unfold Round.close
  split
  · exact h
  · split
    · exact h
    · split
      · exact h
      · exact .emitLeft h

theorem close_right {R : α → Outcome → Prop} {out : Outcome} {p : Program α}
    (h : InStep c heard R p (pure out)) : InStep c heard R p (r.close out) := by
  unfold Round.close
  split
  · exact h
  · split
    · exact h
    · split
      · exact h
      · exact .emitRight h

end InStep

namespace Operator

variable {m : Manifest} {l : Status} {r r' : Round} {c : MemoryCloud} {heard : Exchange → Prop}
  {t : TargetStack} {o : Operator}

/-- Two rounds whose ends agree. -/
abbrev AgreeEnds (m : Manifest) (l : Status) (x x' : Round × Outcome) : Prop := Agree m l x.2 x'.2

/-! ## The change set -/

theorem submitTemplate_inStep (h : Twins m l r r') (handle : ChangeSetHandle) (isCreate : Bool) :
    InStep c heard (AgreeEnds m l) (submitTemplate r t isCreate)
      (submitTemplate r' { t with changeSet := handle } isCreate) := by
  unfold submitTemplate
  dsimp only
  cases t.bucket with
  | some bucket => exact .write rfl
  | none =>
    dsimp only
    split
    · exact .done (h.agree (.notReady _ _) rfl rfl)
    · unfold requestChangeSet
      cases isCreate <;> exact .write rfl

theorem advanceChangeSet_inStep (h : Twins m l r r') {handle : ChangeSetHandle} (isCreate : Bool)
    (hfind : c.find? t.key handle = c.find? t.key t.changeSet) :
    InStep c heard (AgreeEnds m l) (advanceChangeSet r t isCreate)
      (advanceChangeSet r' { t with changeSet := handle } isCreate) := by
  unfold advanceChangeSet
  rw [request_bind, request_bind]
  refine .describe hfind fun answer => ?_
  cases answer with
  | error e => exact .done (h.agree (.notReady _ _) rfl rfl)
  | ok found =>
    cases found with
    | none => exact submitTemplate_inStep h handle isCreate
    | some d =>
      have hfound := h.withFound d.handle
      simp only [Option.map_some, Option.getD_some, Option.isSome_some, if_true, ChangeSetMove.ofFound]
      cases d.move with
      | create => exact submitTemplate_inStep hfound handle isCreate
      | deleteEmpty => exact .write rfl
      | deleteFailed message => exact .write rfl
      | wait message => exact .done (hfound.agree (.progressing message) rfl rfl)
      | ready => exact .done (hfound.agree (.ready _) rfl rfl)
      | execute => exact .write rfl
      | unexpected message =>
        exact .emit_bind
          (.done (hfound.emitted.agree (.notReady Reason.unexpectedStatus message) rfl rfl))

/-! ## The stack -/

theorem advanceStack_inStep (h : Twins m l r r') {handle : ChangeSetHandle}
    (hfind : c.find? t.key handle = c.find? t.key t.changeSet) :
    InStep c heard (AgreeEnds m l) (advanceStack r t)
      (advanceStack r' { t with changeSet := handle }) := by
  unfold advanceStack
  refine .request fun answer _ => ?_
  cases answer with
  | error e => exact .done (h.agree (.notReady _ _) rfl rfl)
  | ok found =>
    dsimp only
    cases StackMove.ofFound found with
    | changeSet isCreate recovering =>
      cases recovering with
      | false => exact advanceChangeSet_inStep h isCreate hfind
      | true => exact .emit_bind (advanceChangeSet_inStep h.emitted isCreate hfind)
    | wait message => exact .done (h.agree (.progressing message) rfl rfl)
    | continueRollback => exact .write rfl
    | deleteUnrecoverable message => exact .write rfl
    | unexpected message => exact .done (h.agree (.notReady Reason.unexpectedStatus message) rfl rfl)

/-! ## The artifact -/

/-- The cloud finds the same by either handle of the attempt at a revision. -/
abbrev FindsAlike (o : Operator) (c : MemoryCloud) (m : Manifest) (l : Status) (revision : String) :
    Prop :=
  c.find? (m.stackKey o.settings) ((m.restated l).handle revision) =
    c.find? (m.stackKey o.settings) (m.handle revision)

theorem advanceArtifact_inStep (h : Twins m l r r') {artifact : Artifact}
    (hfind : o.FindsAlike c m l artifact.revision) :
    InStep c heard (AgreeEnds m l) (o.advanceArtifact r artifact) (o.advanceArtifact r' artifact) := by
  unfold advanceArtifact
  have hround := h.withRevision artifact.revision
  dsimp only
  rw [hround.spec, hround.spec']
  refine .bind_same _ fun found => ?_
  cases found with
  | error e => exact .done (hround.agree (.notReady Reason.artifactFailed e.message) rfl rfl)
  | ok body =>
    obtain ⟨htarget', hhandle, hkey⟩ := hround.target o artifact.revision body
    dsimp only
    rw [htarget', hhandle]
    refine advanceStack_inStep (hround.withAttempted artifact.revision) ?_
    rw [hkey, hhandle]
    exact hfind

theorem advanceSource_inStep (h : Twins m l r r')
    (hfind : ∀ kind ns name artifact, heard ⟨.findArtifact kind ns name, .ok (some artifact)⟩ →
      o.FindsAlike c m l artifact.revision) :
    InStep c heard (AgreeEnds m l) (o.advanceSource r) (o.advanceSource r') := by
  unfold advanceSource
  have hns : r'.manifest.ns = r.manifest.ns := by
    rw [h.object, h.object']
    rfl
  dsimp only
  rw [h.spec, h.spec', hns]
  refine .request fun answer hheard => ?_
  cases answer with
  | error e => exact .done (h.agree (.notReady Reason.artifactFailed e.message) rfl rfl)
  | ok found =>
    cases found with
    | none => exact .done (h.agree (.notReady Reason.artifactFailed _) rfl rfl)
    | some artifact => exact advanceArtifact_inStep h (hfind _ _ _ _ hheard)

/-! ## The round -/

theorem firstBlocked_restated (m : Manifest) (l : Status) (ds : List DependencyRef) :
    firstBlocked (m.restated l) ds = firstBlocked m ds := by
  induction ds with
  | nil => rfl
  | cons d rest ih =>
    unfold firstBlocked
    rw [ih]
    rfl

theorem advance_inStep (intervals : Intervals) (time time' : String)
    (hfind : ∀ kind ns name artifact, heard ⟨.findArtifact kind ns name, .ok (some artifact)⟩ →
      o.FindsAlike c m l artifact.revision) :
    InStep c heard (AgreeEnds m l) (o.advance (.start m intervals time))
      (o.advance (.start (m.restated l) intervals time')) := by
  have h := Twins.observe m l intervals time time'
  have hgate : dependencyGate (m.restated l) = dependencyGate m := firstBlocked_restated m l _
  unfold advance
  dsimp only
  rw [h.object, h.object', hgate]
  refine .bind_same _ fun found => ?_
  cases found with
  | none => exact advanceSource_inStep h hfind
  | some blocked =>
    exact .emit_bind
      (.done (h.emitted.agree (.notReady Reason.dependencyNotReady blocked.message) rfl rfl))

theorem invalidSpec_inStep (m : Manifest) (l : Status) (time time' message : String) :
    InStep c heard (Agree m l) (invalidSpec m time message)
      (invalidSpec (m.restated l) time' message) := by
  have hagree : InStep c heard (Agree m l)
      (.done (Round.outcome ((Round.start m .fallback time).current.notReady
        (Round.start m .fallback time).attempt Reason.invalidSpec message) none))
      (.done (Round.outcome ((Round.start (m.restated l) .fallback time').current.notReady
        (Round.start (m.restated l) .fallback time').attempt Reason.invalidSpec message) none)) :=
    .done ((Twins.start m l .fallback time time').agree (.notReady Reason.invalidSpec message) rfl rfl)
  unfold invalidSpec
  dsimp only
  split
  · split
    · exact hagree
    · exact .emitRight hagree
  · refine .emitLeft ?_
    split
    · exact hagree
    · exact .emitRight hagree

theorem keepInSync_inStep (m : Manifest) (l : Status) (time time' : String)
    (hfind : ∀ kind ns name artifact, heard ⟨.findArtifact kind ns name, .ok (some artifact)⟩ →
      o.FindsAlike c m l artifact.revision) :
    InStep c heard (Agree m l) (o.keepInSync time m) (o.keepInSync time' (m.restated l)) := by
  unfold keepInSync
  rw [show (m.restated l).spec = m.spec from rfl]
  cases Intervals.ofSpec m.spec with
  | error invalid => exact invalidSpec_inStep m l time time' invalid.message
  | ok intervals =>
    refine (advance_inStep intervals time time' hfind).bind fun x x' hagree => ?_
    exact .close_left (.close_right (.done hagree))

/-! ## Tearing down -/

theorem advanceDeletion_inStep (h : Twins m l r r') :
    InStep c heard (AgreeEnds m l) (o.advanceDeletion r) (o.advanceDeletion r') := by
  unfold advanceDeletion
  dsimp only
  rw [regionOf_eq_regionOr, regionOf_eq_regionOr, h.spec, h.spec']
  refine .request fun answer _ => ?_
  cases answer with
  | error e => exact .done (h.agree (.notReady Reason.apiCallFailed _) rfl rfl)
  | ok found =>
    cases found with
    | none => exact .done (.inl ⟨rfl, rfl⟩)
    | some s =>
      dsimp only
      split
      · exact .done (.inl ⟨rfl, rfl⟩)
      · split
        · exact .done (h.agree (.progressing _) rfl rfl)
        · unfold destroy
          dsimp only
          split
          · exact .emitLeft (.write rfl)
          · exact .write rfl

theorem tearDown_inStep (m : Manifest) (l : Status) (time time' : String) :
    InStep c heard (Agree m l) (o.tearDown time m) (o.tearDown time' (m.restated l)) := by
  unfold tearDown
  rw [show (m.restated l).spec = m.spec from rfl]
  refine (advanceDeletion_inStep (Twins.start m l _ time time')).bind fun x x' hagree => ?_
  exact .close_left (.close_right (.done hagree))

/-- Where the cloud finds the same for both, a round and its repetition over another status stay in step
to the same judgement. -/
theorem reconcile_inStep (m : Manifest) (l : Status) (time time' : String)
    (hfind : ∀ kind ns name artifact, heard ⟨.findArtifact kind ns name, .ok (some artifact)⟩ →
      o.FindsAlike c m l artifact.revision) :
    InStep c heard (Agree m l) (o.reconcile time m) (o.reconcile time' (m.restated l)) := by
  have hduty : (m.restated l).lifecycleFacts = m.lifecycleFacts := rfl
  unfold reconcile
  rw [hduty]
  cases m.lifecycleFacts.choice.duty with
  | none => exact .done (.inl ⟨rfl, rfl⟩)
  | some duty =>
    cases duty with
    | addFinalizer => exact .done (.inl ⟨rfl, rfl⟩)
    | removeFinalizer => exact .done (.inl ⟨rfl, rfl⟩)
    | destroyStack => exact tearDown_inStep m l time time'
    | reconcile => exact keepInSync_inStep m l time time' hfind

end Operator

end StackSync
