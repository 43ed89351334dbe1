import Mathlib.Logic.Basic
import StackSync.Cluster.Round
import StackSync.Proofs.Reconcile.Ending
import StackSync.Proofs.Reconcile.Rounds

/-!
# The parts of an outcome agree

An outcome says the same thing several times. The `Ready` condition has a status, a reason and a
message; the delay follows from the first two; and if there is an error, it repeats the message and
the delay, because the controller hands on one of the two and schedules by it. `Consistent` is the
agreement of all this, and with what the calls of the round have come to.

That every round is consistent is a case analysis over the exits of `Ending`. Two exits lie outside:
the release of a deleted object, and a spec whose intervals cannot be read, which is reported
without any delay. While an object is torn down, intervals that cannot be read give way to
fallbacks.
-/

namespace StackSync

open Program

/-- The intervals of the spec, or the fallbacks. -/
def Manifest.intervals (m : Manifest) : Intervals :=
  match Intervals.ofSpec m.spec with
  | .ok intervals => intervals
  | .error _ => .fallback

def Outcome.ready? (out : Outcome) : Option Condition := out.status.bind (·.ready?)

namespace Operator

/-- When to come back, by what `Ready` says. -/
def delay (o : Operator) (m : Manifest) (c : Condition) : Option Duration :=
  match c.status with
  | .true => some m.intervals.interval
  | .unknown => some m.intervals.poll
  | .false =>
    if c.reason = some Reason.dependencyNotReady then some o.settings.dependencyRequeue
    else if c.reason = some Reason.invalidSpec then none
    else some m.intervals.retry

/-- What an outcome says about the object, after these exchanges, fits together. -/
structure Consistent (o : Operator) (m : Manifest) (es : List Exchange) (out : Outcome) : Prop where
  edits : out.finalizer ≠ .keep → out.status = none ∧ out.requeue = none ∧ out.error = none
  writes : out.status.isSome = true → out.finalizer = .keep ∧ out.ready?.isSome = true
  delays : ∀ c, out.ready? = some c → out.requeue = o.delay m c
  errs : ∀ c, out.ready? = some c → c.status ≠ .false → out.error = none
  /-- A call of the cloud or of the template store that has failed is what the round fails with. -/
  failed : ∀ reason ∈ failures es, ∃ c, out.ready? = some c ∧ c.status = .false ∧
    c.reason = some reason ∧ out.error.isSome = true
  /-- An error has the message and the delay of the outcome, so that it does not matter by which of
  the two the next round is scheduled. -/
  reports : ∀ err, out.error = some err →
    (∃ c, out.ready? = some c ∧ c.message = some err.message) ∧
    err.requeue = out.requeue ∧ Cluster.actionOf (.error err) = Cluster.actionOf (.ok out.requeue)

end Operator

/-! ## What the exits say -/

/-- The outcome writes a status with this `Ready` condition. -/
structure Outcome.Shows (out : Outcome) (st : ConditionStatus) (reason message : String) :
    Prop where
  keeps : out.finalizer = .keep
  ready : ∃ c, out.ready? = some c ∧ c.status = st ∧ c.reason = some reason ∧
    c.message = some message

theorem Outcome.Shows.reason_of_ready? {out : Outcome} {st : ConditionStatus}
    {reason message : String} {c : Condition} (h : out.Shows st reason message)
    (hc : out.ready? = some c) : c.reason = some reason := by
  obtain ⟨-, c', hc', -, hreason, -⟩ := h
  rw [← Option.some.inj (hc'.symm.trans hc)]
  exact hreason

namespace Round

variable (r : Round)

theorem outcome_shows (s : Status) (a : Attempt) (st : ConditionStatus) (reason message : String)
    (requeue : Option Duration) :
    (Round.outcome (s.apply a st reason message) requeue).Shows st reason message := by
  obtain ⟨c, hready, hst, hreason, hmessage, -⟩ := s.ready?_apply a st reason message
  exact ⟨rfl, c, hready, hst, hreason, hmessage⟩

theorem wait_shows (message : String) :
    (r.wait message).Shows .unknown Reason.progressing message :=
  outcome_shows _ _ _ _ _ _

theorem succeed_shows (message : String) :
    (r.succeed message).Shows .true Reason.succeeded message := by
  -- what was applied last is no part of the conditions
  obtain ⟨keeps, ready⟩ := outcome_shows r.current r.attempt .true Reason.succeeded message none
  exact ⟨keeps, ready⟩

theorem fail_shows (reason message : String) :
    (r.fail reason message).Shows .false reason message :=
  outcome_shows _ _ _ _ _ _

theorem failByStatus_shows (message : String) :
    (r.failByStatus message).Shows .false Reason.unexpectedStatus message := by
  obtain ⟨keeps, ready⟩ := r.fail_shows Reason.unexpectedStatus message
  exact ⟨keeps, ready⟩

theorem failByCloud_shows (reason message : String) :
    (r.failByCloud reason message).Shows .false reason message := by
  obtain ⟨keeps, ready⟩ := r.fail_shows reason message
  exact ⟨keeps, ready⟩

end Round

namespace Operator

variable {o : Operator} {m : Manifest} {time : String} {es : List Exchange} {out : Outcome}

theorem delay_retry {c : Condition} {reason : String} (hst : c.status = .false)
    (hreason : c.reason = some reason) (hdependency : reason ≠ Reason.dependencyNotReady)
    (hspec : reason ≠ Reason.invalidSpec) : o.delay m c = some m.intervals.retry := by
  rw [delay, hst, hreason]
  dsimp only
  rw [if_neg (fun h => hdependency (Option.some.inj h)),
    if_neg (fun h => hspec (Option.some.inj h))]

/-- Nothing is written, and nothing has gone wrong. -/
theorem Consistent.of_none (hstatus : out.status = none) (hrequeue : out.requeue = none)
    (herror : out.error = none) (hfailures : failures es = []) : o.Consistent m es out := by
  have hready : ∀ c, out.ready? ≠ some c := by
    intro c hc
    rw [Outcome.ready?, hstatus] at hc
    cases hc
  refine ⟨fun _ => ⟨hstatus, hrequeue, herror⟩, fun h => ?_, fun c hc => absurd hc (hready c),
    fun c hc => absurd hc (hready c), fun reason hreason => ?_, fun err herr => ?_⟩
  · rw [hstatus] at h
    cases h
  · rw [hfailures] at hreason
    cases hreason
  · rw [herror] at herr
    cases herr

theorem Consistent.of_shows {st : ConditionStatus} {reason message : String}
    (hshows : out.Shows st reason message)
    (hrequeue : ∀ c, c.status = st → c.reason = some reason → out.requeue = o.delay m c)
    (herror : ∀ err, out.error = some err →
      st = .false ∧ err.message = message ∧ err.requeue = out.requeue)
    (hfailures : ∀ failure ∈ failures es, failure = reason ∧ out.error.isSome = true) :
    o.Consistent m es out := by
  obtain ⟨hkeeps, c, hready, hst, hreason, hmessage⟩ := hshows
  have honly : ∀ c', out.ready? = some c' → c' = c := fun c' hc' =>
    Option.some.inj (hc'.symm.trans hready)
  refine ⟨fun h => absurd hkeeps h, fun _ => ⟨hkeeps, ?_⟩, ?_, ?_, ?_, ?_⟩
  · rw [hready]
    rfl
  · intro c' hc'
    rw [honly c' hc']
    exact hrequeue c hst hreason
  · intro c' hc' hnot
    rw [honly c' hc', hst] at hnot
    refine Option.eq_none_iff_forall_ne_some.2 fun err herr => ?_
    exact hnot (herror err herr).1
  · intro failure hfailure
    obtain ⟨rfl, hsome⟩ := hfailures failure hfailure
    obtain ⟨err, herr⟩ := Option.isSome_iff_exists.1 hsome
    exact ⟨c, hready, hst.trans (herror err herr).1, hreason, hsome⟩
  · intro err herr
    obtain ⟨-, rfl, hdelay⟩ := herror err herr
    exact ⟨⟨c, hready, hmessage⟩, hdelay, hdelay⟩

theorem Exit.reason_of_ready? {r : Round} {fs : List String} {reason : String} {c : Condition}
    (h : o.Exit r fs reason out) (hc : out.ready? = some c) :
    c.reason = some reason ∧ reason ≠ Reason.invalidSpec := by
  cases h with
  | waits message => exact ⟨(r.wait_shows message).reason_of_ready? hc, nofun⟩
  | succeeds message => exact ⟨(r.succeed_shows message).reason_of_ready? hc, nofun⟩
  | fails message hreason =>
    exact ⟨(r.fail_shows reason message).reason_of_ready? hc,
      ne_of_mem_of_not_mem hreason nofun⟩
  | unexpected message => exact ⟨(r.failByStatus_shows message).reason_of_ready? hc, nofun⟩
  | callFails message hreason =>
    exact ⟨(r.failByCloud_shows reason message).reason_of_ready? hc,
      ne_of_mem_of_not_mem hreason nofun⟩
  | blocked message =>
    exact ⟨(Round.outcome_shows _ _ _ _ message _).reason_of_ready? hc, nofun⟩

/-- Every exit of a round that goes by the intervals of its object is consistent. -/
theorem Exit.consistent {r : Round} {reason : String} (hintervals : r.intervals = m.intervals)
    (h : o.Exit r (failures es) reason out) : o.Consistent m es out := by
  generalize hfailures : failures es = fs at h
  have hnothing : fs = [] →
      ∀ failure ∈ failures es, failure = reason ∧ out.error.isSome = true := by
    rintro rfl failure hfailure
    rw [hfailures] at hfailure
    cases hfailure
  cases h with
  | waits message =>
    refine .of_shows (r.wait_shows message) (fun c hst _ => ?_) (fun err herr => by cases herr)
      (hnothing rfl)
    rw [delay, hst, ← hintervals]
    rfl
  | succeeds message =>
    refine .of_shows (r.succeed_shows message) (fun c hst _ => ?_) (fun err herr => by cases herr)
      (hnothing rfl)
    rw [delay, hst, ← hintervals]
    rfl
  | fails message hreason =>
    refine .of_shows (r.fail_shows reason message) (fun c hst hc => ?_)
      (fun err herr => by cases herr) (hnothing rfl)
    rw [delay_retry hst hc (ne_of_mem_of_not_mem hreason nofun)
      (ne_of_mem_of_not_mem hreason nofun), ← hintervals]
    rfl
  | unexpected message =>
    refine .of_shows (r.failByStatus_shows message) (fun c hst hc => ?_) (fun err herr => ?_)
      (hnothing rfl)
    · rw [delay_retry hst hc nofun nofun, ← hintervals]
      rfl
    · obtain rfl := Option.some.inj herr
      exact ⟨rfl, rfl, rfl⟩
  | callFails message hreason =>
    refine .of_shows (r.failByCloud_shows reason message) (fun c hst hc => ?_) (fun err herr => ?_)
      (fun failure hfailure => ?_)
    · rw [delay_retry hst hc (ne_of_mem_of_not_mem hreason nofun)
        (ne_of_mem_of_not_mem hreason nofun), ← hintervals]
      rfl
    · obtain rfl := Option.some.inj herr
      exact ⟨rfl, rfl, rfl⟩
    · rw [hfailures] at hfailure
      exact ⟨List.mem_singleton.1 hfailure, rfl⟩
  | blocked message =>
    refine .of_shows (Round.outcome_shows _ _ _ _ message _) (fun c hst hc => ?_)
      (fun err herr => by cases herr) (hnothing rfl)
    rw [delay, hst, hc]
    rfl

/-! ## Whole rounds -/

theorem close_ends (r : Round) (out : Outcome) :
    (r.close out).Ends fun es out' => out' = out ∧ failures es = [] := by
  unfold Round.close
  split
  · exact .pure ⟨rfl, rfl⟩
  · split
    · exact .pure ⟨rfl, rfl⟩
    · split
      · exact .pure ⟨rfl, rfl⟩
      · exact .emit_bind (.pure ⟨rfl, rfl⟩)

theorem tearDown_consistent (o : Operator) (m : Manifest) (time : String) :
    (o.tearDown time m).Ends (o.Consistent m) := by
  unfold tearDown
  refine .bind (advanceDeletion_ends o _) fun first x hx => ?_
  refine (close_ends x.1 x.2).mono fun es out hout => ?_
  obtain ⟨rfl, hquiet⟩ := hout
  have hfailures : failures (first ++ es) = failures first := by
    rw [failures_append, hquiet, List.append_nil]
  rcases hx with ⟨hnone, hremoved⟩ | ⟨reason, hending⟩
  · rw [hremoved]
    exact .of_none rfl rfl rfl (hfailures.trans hnone)
  · have hexit := hending.exit
    rw [← hfailures] at hexit
    exact hexit.consistent hending.intervals

theorem invalidSpec_consistent (o : Operator) (m : Manifest) (time message : String) :
    (invalidSpec m time message).Ends (o.Consistent m) := by
  have hconsistent : ∀ es (r : Round), failures es = [] →
      o.Consistent m es (Round.outcome
        (r.current.notReady r.attempt Reason.invalidSpec message) none) := by
    intro es r hquiet
    refine .of_shows (Round.outcome_shows _ _ _ _ message _) (fun c hst hc => ?_)
      (fun err herr => by cases herr) (fun failure hfailure => ?_)
    · rw [delay, hst, hc]
      rfl
    · rw [hquiet] at hfailure
      cases hfailure
  unfold invalidSpec
  dsimp only
  split
  · exact .pure (hconsistent _ (Round.start m .fallback time) rfl)
  · exact .emit_bind (.pure (hconsistent _ (Round.start m .fallback time) rfl))

theorem keepInSync_consistent (o : Operator) (m : Manifest) (time : String) :
    (o.keepInSync time m).Ends (o.Consistent m) := by
  unfold keepInSync
  split
  · exact invalidSpec_consistent o m time _
  · next intervals hread =>
    refine .bind (advance_ends o _) fun first x hx => ?_
    obtain ⟨reason, hending⟩ := hx
    refine (close_ends x.1 x.2).mono fun es out hout => ?_
    obtain ⟨rfl, hquiet⟩ := hout
    have hexit := hending.exit
    rw [← List.append_nil (failures first), ← hquiet, ← failures_append] at hexit
    refine hexit.consistent (hending.intervals.trans ?_)
    rw [Manifest.intervals, hread]
    rfl

theorem reconcile_consistent (o : Operator) (m : Manifest) (time : String) :
    (o.reconcile time m).Ends (o.Consistent m) := by
  unfold reconcile
  split
  · exact .pure (.of_none rfl rfl rfl rfl)
  · exact .pure (.of_none rfl rfl rfl rfl)
  · exact .pure (.of_none rfl rfl rfl rfl)
  · exact tearDown_consistent o m time
  · exact keepInSync_consistent o m time

end Operator

/-- When the controller comes back after a round: by the delay of the outcome, if it was written. -/
def Cluster.comesBack (o : Operator) (time : String) (m : Manifest) (c : Cluster) :
    Option Duration :=
  match m.metadata.ns with
  | none => none
  | some ns =>
    let (out, c) := (o.reconcile time m).run (answer m) c
    match (write m ns out c).1 with
    | .error _ => some Intervals.defaultRetry
    | .ok () => out.requeue

/-- Whatever object a round is over and whatever it is answered, the parts of its outcome agree. So
the controller comes back at the same time whether it is told so by the outcome or by the error. -/
theorem Operator.consistent_of_reconcile (o : Operator) (time : String) (m : Manifest) :
    (∀ es out, Ran (o.reconcile time m) es out → o.Consistent m es out) ∧
      ∀ c : Cluster, Cluster.actionOf (Cluster.reconcile o time m c).1 = c.comesBack o time m := by
  refine ⟨fun es out h => reconcile_consistent o m time es out h, fun c => ?_⟩
  unfold Cluster.reconcile Cluster.comesBack
  cases hns : m.metadata.ns with
  | none => rfl
  | some ns =>
    have hconsistent := reconcile_consistent o m time _ _
      (ran_run (Cluster.answer m) (o.reconcile time m) c)
    generalize (o.reconcile time m).run (Cluster.answer m) c = result at hconsistent ⊢
    obtain ⟨out, c'⟩ := result
    dsimp only at hconsistent ⊢
    generalize Cluster.write m ns out c' = written
    obtain ⟨result, c''⟩ := written
    cases result with
    | error e => rfl
    | ok done =>
      cases herr : out.error with
      | none => rfl
      | some err =>
        obtain ⟨-, hdelay, -⟩ := hconsistent.reports err herr
        exact hdelay

/-- A round that cannot get the stack described. -/
def Sample.throttled : Stage where
  visits := []
  object := object
  world := { World.ofNetwork default with
    cloud := MemoryCloud.empty.breakOperation .describeStack "Throttling: Rate exceeded" }

open Sample in
theorem consistent_of_reconcile_throttled :
    (throttled.visit "a" true).outcome.error =
        some (.cloud "Failed to describe stack: CloudFormation API error: Throttling: Rate exceeded"
          (.ofSeconds 60)) ∧
      operator.Consistent object (throttled.visit "a" true).exchanges
        (throttled.visit "a" true).outcome := by
  have hduty : object.lifecycleFacts.choice.duty = some .reconcile := rfl
  have hran : Ran (operator.reconcile "2024-05-01T00:00:00+00:00" object)
      (throttled.visit "a" true).exchanges (throttled.visit "a" true).outcome :=
    (supply "a").ran rfl hduty
  exact ⟨rfl, (operator.consistent_of_reconcile _ object).1 _ _ hran⟩

end StackSync
