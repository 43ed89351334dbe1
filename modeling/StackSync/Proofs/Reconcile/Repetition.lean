import StackSync.Proofs.Reconcile.Gate
import StackSync.Proofs.Reconcile.Stability
import StackSync.Proofs.Reconcile.Twins

/-!
# Seeing the same again

A status that is written wakes the controller, so a round that finds everything as it was must have
nothing to write. Three things could keep it from that. It looks the change set up by another handle
than the round before; but the record that a round leaves leads back to the change set that it has seen
(`findsAlike_of_ran`). It may have seen the generation by then; but its judgement is the same, and
leaves the same imprint. And what it starts from has been read from JSON onto which a status has been
merged; but nothing of that is lost (`Cluster.exists_restated`).
-/

namespace StackSync

open Program MemoryCloud

/-! ## A conversation that changes nothing -/

theorem OnlyLooks.change? {es : List Exchange} (h : OnlyLooks es) : change? es = none := by
  refine List.findSome?_eq_none_iff.2 fun e he => ?_
  have hquiet := h e he
  obtain ⟨request, answer⟩ := e
  cases request <;> first | rfl | cases hquiet

theorem answeredAlike_self (es : List Exchange) : AnsweredAlike es es := by
  induction es with
  | nil => trivial
  | cons e rest ih => exact fun _ => ⟨rfl, ih⟩

theorem Alike.self {c c₁ : MemoryCloud} {es : List Exchange} (looks : OnlyLooks es)
    (replay : Replay c es c₁) : Alike c (· ∈ es) es es :=
  ⟨looks, fun _ he => he, answeredAlike_self _, ⟨c, c₁, .refl c, replay⟩, ⟨c, c₁, .refl c, replay⟩⟩

/-! ## What a round records -/

namespace Operator

variable {o : Operator} {m : Manifest} {l d : Status} {time : String} {es : List Exchange}
  {out : Outcome} {c c₁ : MemoryCloud} {revision body reference : String} {st : ConditionStatus}

/-- What a round has pursued without making a change set is found again by what it records. -/
theorem findsAlike_of_pursuit (coherent : Coherent c) (replay : Replay c es c₁) (looks : OnlyLooks es)
    (hpursuit : (o.targetOf m revision body).Pursuit (remote es) reference st)
    (hrecorded : l.lastAttemptedChangeSet = some reference) : o.FindsAlike c m l revision := by
  have hhandle : (m.restated l).handle revision =
      attemptHandle (some reference) (ChangeSetName.of m.generation revision) :=
    congrArg (attemptHandle · _) hrecorded
  have hasked : reference = (m.handle revision).reference → o.FindsAlike c m l revision := by
    rintro rfl
    rw [FindsAlike, hhandle, Manifest.handle, attemptHandle_reference]
  have hseen : ∀ s, c.find? (m.stackKey o.settings) (m.handle revision) = some (reference, s) →
      o.FindsAlike c m l revision := by
    intro s hfind
    rw [FindsAlike, hhandle, hfind]
    exact coherent.find?_again hfind
  have hunchanged : change? (remote es) = none := (change?_remote es).trans looks.change?
  cases TargetStack.effect_of_pursuit hpursuit replay.remote with
  | noted _ _ _ href =>
    rcases href with hsame | ⟨s, hfind⟩
    · exact hasked hsame
    · exact hseen s hfind
  | upToDate _ hfind _ _ => exact hseen _ hfind
  | dropped _ hfind _ _ _ => exact hseen _ hfind
  | executed _ hfind _ _ => exact hseen _ hfind
  | created hmade _ _ _ _ => cases hunchanged.symm.trans hmade
  | updated hmade _ _ _ _ _ => cases hunchanged.symm.trans hmade
  | resumed _ _ _ _ => exact hasked rfl
  | cleared _ _ _ _ => exact hasked rfl

theorem findsAlike_of_unchanged (h : l.lastAttemptedChangeSet = m.base.lastAttemptedChangeSet) :
    o.FindsAlike c m l revision :=
  congrArg (fun recorded => c.find? _ (attemptHandle recorded _)) h

/-- Whatever artifact a round has found, what it records leads to the change set that it has looked at.
-/
theorem findsAlike_of_ran (ran : Ran (o.reconcile time m) es out) (coherent : Coherent c)
    (replay : Replay c es c₁) (looks : OnlyLooks es) (hstatus : out.status = some d)
    (hrecorded : l.lastAttemptedChangeSet = d.lastAttemptedChangeSet) (kind ns name : String)
    (artifact : Artifact) (hheard : ⟨.findArtifact kind ns name, .ok (some artifact)⟩ ∈ es) :
    o.FindsAlike c m l artifact.revision := by
  cases passage_of_reconcile ran with
  | idle _ _ hnone => cases hnone.symm.trans hstatus
  | tornDown _ _ hunready =>
    obtain ⟨a, st, hattempts, -, hmoves⟩ := hunready d hstatus
    refine findsAlike_of_unchanged ?_
    rw [hrecorded, hmoves.lastAttemptedChangeSet, hattempts.changeSet]
    rfl
  | stopped _ hobserved hattempts hwrites =>
    obtain ⟨d', hstatus', hmoves⟩ := hwrites
    cases hstatus.symm.trans hstatus'
    refine findsAlike_of_unchanged ?_
    rw [hrecorded, hmoves.lastAttemptedChangeSet, hattempts.changeSet, hobserved.lastAttemptedChangeSet]
    rfl
  | @pursued revision _ reference _ _ _ _ hloaded hpursuit _ hattempts hwrites =>
    obtain ⟨d', hstatus', hmoves⟩ := hwrites
    cases hstatus.symm.trans hstatus'
    have hsame : artifact.revision = revision := by
      obtain ⟨found, loading, hrevision, -, before, after, rfl⟩ := hloaded
      obtain ⟨before', after', hsplit⟩ := List.append_of_mem hheard
      rw [List.append_assoc, List.cons_append] at hsplit
      have hcount := reconcile_looksUpOnce o time m _ _ ran
      rw [List.append_assoc, List.cons_append, hsplit] at hcount
      cases (eq_of_countP_le_one hcount rfl rfl hsplit).1
      exact hrevision
    rw [hsame]
    refine findsAlike_of_pursuit coherent replay looks hpursuit ?_
    rw [hrecorded, hmoves.lastAttemptedChangeSet, hattempts.changeSet]
    rfl

theorem hasFinalizer_of_status (ran : Ran (o.reconcile time m) es out) (hstatus : out.status = some d) :
    m.hasFinalizer = true := by
  unfold reconcile at ran
  split at ran
  · obtain ⟨-, rfl⟩ := ran_pure_iff.1 ran
    cases hstatus
  · obtain ⟨-, rfl⟩ := ran_pure_iff.1 ran
    cases hstatus
  · obtain ⟨-, rfl⟩ := ran_pure_iff.1 ran
    cases hstatus
  · next hduty => exact (Manifest.deleting_of_destroyStack hduty).2.2.1
  · next hduty => exact (Manifest.active_of_reconcile hduty).2.1

/-! ## What a round leaves -/

/-- The status of a round, merged, has every field of the stored one: a round agrees with itself on a
judgement, and the imprint of that has. -/
theorem covers_of_ran (ran : Ran (o.reconcile time m) es out) (replay : Replay c es c₁)
    (looks : OnlyLooks es) (hstatus : out.status = some d)
    (distinct : (m.base.conditions.map (·.type)).Nodup) : (d.mergeOnto m.status).Covers m.base := by
  cases hstored : m.status with
  | none =>
    rw [Manifest.base_of_none hstored]
    exact Status.covers_empty _
  | some s =>
    have hobject : m.restated s = m := by
      rw [Manifest.restated, ← hstored]
    have hsame : InStep c (· ∈ es) (Agree m s) (o.reconcile time m) (o.reconcile time m) := by
      have hstep : InStep c (· ∈ es) (Agree m s) (o.reconcile time m) (o.reconcile time (m.restated s)) :=
        reconcile_inStep m s time time fun _ _ _ _ _ => by rw [FindsAlike, hobject]
      rw [hobject] at hstep
      exact hstep
    rcases hsame.results ran ran (.self looks replay) with ⟨hnone, -⟩ | ⟨j, r, r', htwins, hmoved, -⟩
    · cases hnone.symm.trans hstatus
    · cases hstatus.symm.trans hmoved
      refine .of_timeless ?_
      rw [← hstored, htwins.timeless_mergeOnto j distinct]
      exact j.covers_imprint m.base htwins.named

end Operator

open Cluster in
/-- Where two rounds agree, and the second one started from what the first one left, it has nothing to
write. -/
theorem Agree.statusToWrite? {m : Manifest} {l d : Status} {out out' : Outcome} (h : Agree m l out out')
    (hstatus : out.status = some d) (distinct : (m.base.conditions.map (·.type)).Nodup)
    (hleft : l.timeless = (d.mergeOnto m.status).timeless) :
    ∃ d', out'.status = some d' ∧ statusToWrite? (some l) d' = none := by
  rcases h with ⟨hnone, -⟩ | ⟨j, r, r', htwins, hmoved, hagain⟩
  · cases hnone.symm.trans hstatus
  · cases hstatus.symm.trans hmoved
    have himprint : l.timeless = j.imprint m.base r.attempt :=
      hleft.trans (htwins.timeless_mergeOnto j distinct)
    have hchangeSet : r'.attempt.changeSet = r.attempt.changeSet := by
      rcases htwins.changeSet with hfound | ⟨revision, hfirst, hsecond⟩
      · exact hfound
      · have hrecorded : l.lastAttemptedChangeSet = some (m.handle revision).reference := by
          have hfield := congrArg Status.lastAttemptedChangeSet himprint
          rw [Judgement.imprint, hfirst] at hfield
          exact hfield
        have hhandle : (m.restated l).handle revision = m.handle revision :=
          (congrArg (attemptHandle · _) hrecorded).trans (attemptHandle_reference _ _ _)
        rw [hsecond, hhandle, hfirst]
    have hattempt : r'.attempt = { r.attempt with time := r'.attempt.time } := by
      have hsame := htwins.attempt
      rw [hchangeSet] at hsame
      exact hsame
    have hgeneration : r'.attempt.generation = (m.restated l).metadata.generation := by
      rw [hattempt]
      exact htwins.generation
    have hdistinct : (l.conditions.map (·.type)).Nodup := Judgement.distinct_of_imprint himprint distinct
    have hname' : r'.attempt.stackName ≠ none := by
      rw [hattempt]
      exact htwins.named
    refine ⟨_, hagain, statusToWrite?_eq_none_iff.2 ?_⟩
    rw [show some l = (m.restated l).status from rfl,
      j.timeless_mergeOnto htwins.current' hdistinct hgeneration hname', hattempt]
    exact (Judgement.imprint_imprint himprint _).symm

namespace Cluster

variable {k : Cluster} {ns name : String} {m : Manifest} {d : Status}

/-- Once a status has been written, or nothing but times was to be written, the object is there with
that status, times aside. -/
theorem exists_restated (hfound : (findStack ns name k).1 = .ok (some m)) (hheld : m.hasFinalizer = true)
    (hcovers : (d.mergeOnto m.status).Covers m.base) (hwritten : (writeStatus ns name d k).1 = .ok ()) :
    ∃ l, (findStack ns name (writeStatus ns name d k).2).1 = .ok (some (m.restated l)) ∧
      l.timeless = (d.mergeOnto m.status).timeless := by
  obtain ⟨object, hstored⟩ := exists_stored hfound
  cases hwrite : statusToWrite? m.status d with
  | some merged =>
    obtain rfl : d.mergeOnto m.status = merged := mergeOnto_of_statusToWrite? hwrite
    have hafter := hstored.writeStatus_of_some hheld hcovers hwrite hwritten
    exact ⟨_, congrArg Prod.fst hafter.findStack, rfl⟩
  | none =>
    cases hstatus : m.status with
    | none =>
      rw [hstatus] at hwrite
      cases hwrite
    | some l =>
      rw [hstatus] at hwrite
      refine ⟨l, ?_, statusToWrite?_eq_none_iff.1 hwrite⟩
      rw [hstored.writeStatus_of_none (hstatus ▸ hwrite), Manifest.restated, ← hstatus]
      exact congrArg Prod.fst hstored.looked.findStack

end Cluster

/-- Seeing the same again writes nothing. A round has changed nothing and its status has been written.
Then the object is as before, with the merged status, times aside; and a round over it that is answered
as the first one was, over the same cloud, comes to a status that is not written anywhere the object is
found so. -/
theorem Operator.repeated_writes_nothing {o : Operator} {m : Manifest} {time : String}
    {es : List Exchange} {out : Outcome} {d : Status} {c c₁ : MemoryCloud} {k : Cluster} {ns : String}
    (ran : Ran (o.reconcile time m) es out) (reachable : Reachable c) (replay : Replay c es c₁)
    (looks : OnlyLooks es) (hstatus : out.status = some d)
    (distinct : (m.base.conditions.map (·.type)).Nodup)
    (hfound : (Cluster.findStack ns m.name k).1 = .ok (some m))
    (hwritten : (Cluster.writeStatus ns m.name d k).1 = .ok ()) :
    ∃ l, (Cluster.findStack ns m.name (Cluster.writeStatus ns m.name d k).2).1 =
          .ok (some (m.restated l)) ∧
      l.timeless = (d.mergeOnto m.status).timeless ∧
      ∀ time' es' out' c' c₁', Ran (o.reconcile time' (m.restated l)) es' out' → SameStore c c' →
        Replay c' es' c₁' → AnsweredAlike (around es) (around es') →
        ∃ d', out'.status = some d' ∧
          ∀ k', (Cluster.findStack ns m.name k').1 = .ok (some (m.restated l)) →
            Cluster.writeStatus ns m.name d' k' = (.ok (), (Cluster.findStack ns m.name k').2) := by
  obtain ⟨l, hrestated, hleft⟩ := Cluster.exists_restated hfound (hasFinalizer_of_status ran hstatus)
    (covers_of_ran ran replay looks hstatus distinct) hwritten
  refine ⟨l, hrestated, hleft, fun time' es' out' c' c₁' ran' same replay' hanswers => ?_⟩
  have hrecorded : l.lastAttemptedChangeSet = d.lastAttemptedChangeSet :=
    (congrArg Status.lastAttemptedChangeSet hleft).trans (Status.lastAttempted_mergeOnto d m.status).2
  have hstep : InStep c (· ∈ es) (Agree m l) (o.reconcile time m) (o.reconcile time' (m.restated l)) :=
    reconcile_inStep m l time time'
      (findsAlike_of_ran ran reachable.coherent replay looks hstatus hrecorded)
  have hagree : Agree m l out out' := hstep.results ran ran'
    ⟨looks, fun _ he => he, hanswers, ⟨c, c₁, .refl c, replay⟩, ⟨c', c₁', same, replay'⟩⟩
  obtain ⟨d', hstatus', hnone⟩ := hagree.statusToWrite? hstatus distinct hleft
  refine ⟨d', hstatus', fun k' hfound' => ?_⟩
  obtain ⟨object, hstored⟩ := Cluster.exists_stored hfound'
  rw [hstored.writeStatus_of_none hnone, hstored.findStack]

/-! ## A sample

A stack whose change set has been executed already is declared. The first round finds the change set by
its name and writes its ARN, by which the second one finds it. -/

namespace Sample

/-- The status of an earlier generation, with a condition that somebody else has set. -/
def audited : Status :=
  { Status.empty with
    observedGeneration := some 0
    conditions := [⟨"Audited", .true, none, none, none, some "2024-04-01T00:00:00+00:00"⟩] }

def executedBefore : MemoryCloud :=
  let key := object.stackKey operator.settings
  ((MemoryCloud.empty.seedStack key "CREATE_COMPLETE" none).seedChangeSet key (ChangeSetName.of 1 "a")
    "CREATE_COMPLETE" (some "EXECUTE_COMPLETE") none).2

theorem executedBefore_reachable : Reachable executedBefore :=
  .seedChangeSet _ _ _ _ _ (.seedStack _ _ _ .empty)

def adopting : Stage :=
  ⟨[], { object with status := some audited }, { World.ofNetwork default with cloud := executedBefore }⟩

/-- The object as the API server has it. -/
def adoptingJson : Json :=
  .record [
    ("metadata", .record [("name", .string "app"), ("namespace", .string "infra"),
      ("generation", .integer 1), ("finalizers", .array [.string finalizerName])]),
    ("spec", object.spec.toJson),
    ("status", audited.toJson)]

def adoptingCluster : Cluster where
  server := ⟨[(Cluster.Resource.stack.path "infra" "app", adoptingJson)], [], []⟩
  recorder := default
  world := adopting.world

def adoptedStatus : Status := (adopting.visit "a" true).outcome.status.getD .empty

/-- The cluster once the status has been written. -/
def adoptedCluster : Cluster := (Cluster.writeStatus "infra" "app" adoptedStatus adoptingCluster).2

theorem Stage.valid_of_spec {x : Stage} (hspec : x.object.spec = Sample.object.spec)
    (hduty : x.object.lifecycleFacts.choice.duty = some .reconcile)
    (hworld : x.world.overrides = .none) :
    (x.visit "a" true).Valid x.world.cloud (x.next "a" true).world.cloud ∧
      (x.next "a" true).world.overrides = .none :=
  (supply "a").valid hspec hduty hworld

/-- Apart from the cloud, a round of the sample looks the artifact up and downloads it. -/
theorem Stage.around_visit {x : Stage}
    (hremote : (exchanges World.answer ((supply "a").program "2024-05-01T00:00:00+00:00" x.object)
      x.world).all (!·.request.isAround) = true) :
    around (x.visit "a" true).exchanges =
      Operator.artifactFound x.object (artifact "a") :: around (supply "a").loading := by
  have hnone : around (exchanges World.answer ((supply "a").program "2024-05-01T00:00:00+00:00" x.object)
      x.world) = [] :=
    List.filter_eq_nil_iff.2 fun e he => by simpa using List.all_eq_true.1 hremote e he
  have happend : ∀ es more : List Exchange, around (es ++ more) = around es ++ around more :=
    fun _ _ => List.filter_append ..
  have hcons : around (x.visit "a" true).exchanges = Operator.artifactFound x.object (artifact "a") ::
      around ((supply "a").loading ++ exchanges World.answer
        ((supply "a").program "2024-05-01T00:00:00+00:00" x.object) x.world) :=
    around_cons_of_isAround rfl
  rw [hcons, happend, hnone, List.append_nil]

end Sample

open Sample in
theorem repeated_writes_nothing_adopting :
    Cluster.statusToWrite? adopting.object.status adoptedStatus ≠ none ∧
      ∃ d', ((adopting.next "a" true).visit "a" true).outcome.status = some d' ∧
        Cluster.writeStatus "infra" "app" d' adoptedCluster =
          (.ok (), (Cluster.findStack "infra" "app" adoptedCluster).2) := by
  refine ⟨nofun, ?_⟩
  have hduty : adopting.object.lifecycleFacts.choice.duty = some .reconcile ∧
      (adopting.next "a" true).object.lifecycleFacts.choice.duty = some .reconcile := ⟨rfl, rfl⟩
  have hspec : (adopting.next "a" true).object.spec = object.spec :=
    Visit.after_spec (adopting.visit "a" true)
  obtain ⟨hvalid, hworld⟩ := Stage.valid_of_spec (x := adopting) rfl hduty.1 rfl
  obtain ⟨hvalid', -⟩ := Stage.valid_of_spec hspec hduty.2 hworld
  have hlooks : OnlyLooks (adopting.visit "a" true).exchanges := by
    have hall : (adopting.visit "a" true).exchanges.all (!·.request.isWrite) = true := rfl
    exact fun e he => by simpa using List.all_eq_true.1 hall e he
  have hfound : (Cluster.findStack "infra" adopting.object.name adoptingCluster).1 =
      .ok (some adopting.object) := rfl
  have hwritten : (Cluster.writeStatus "infra" adopting.object.name adoptedStatus adoptingCluster).1 =
      .ok () := rfl
  have hstatus : (adopting.visit "a" true).outcome.status = some adoptedStatus := rfl
  have hdistinct : (adopting.object.base.conditions.map (·.type)).Nodup := by decide +kernel
  obtain ⟨l, hrestated, -, hquiet⟩ := Operator.repeated_writes_nothing (m := adopting.object)
    hvalid.ran executedBefore_reachable hvalid.replay hlooks hstatus hdistinct hfound hwritten
  have hafter : (Cluster.findStack "infra" adopting.object.name adoptedCluster).1 =
      .ok (some (adopting.next "a" true).object) := rfl
  have hobject : adopting.object.restated l = (adopting.next "a" true).object :=
    Option.some.inj (Except.ok.inj (hrestated.symm.trans hafter))
  have hsame : SameStore executedBefore (adopting.next "a" true).world.cloud := by
    constructor <;> rfl
  have hanswers : AnsweredAlike (around (adopting.visit "a" true).exchanges)
      (around ((adopting.next "a" true).visit "a" true).exchanges) := by
    rw [Stage.around_visit rfl, Stage.around_visit rfl,
      Operator.artifactFound, Operator.artifactFound, hspec]
    exact answeredAlike_self _
  rw [hobject] at hquiet
  obtain ⟨d', hstatus', hspared⟩ := hquiet _ _ _ _ _ hvalid'.ran hsame hvalid'.replay hanswers
  exact ⟨d', hstatus', hspared adoptedCluster hafter⟩

end StackSync
