import StackSync.Proofs.Reconcile.Consistency
import StackSync.Proofs.Reconcile.Justification

/-!
# Which transitions are announced

A round that moves `Ready` to another status or another reason should say so with an event. The
close of a round sees to it, unless the round has emitted an event already; it takes for granted
that this one was about the transition. Mostly it was, because a branch that speaks goes on to end
with the reason it has said. But a round over a stack that recovers from a failed update speaks
first, of progress, and how it ends is decided later, by the change set and by calls that may fail.
And a spec that cannot be read is announced once, whatever status `Ready` had in between.

So there are transitions that stay `Unsaid`, and `announced_iff` says that there are no others.
-/

namespace StackSync

open Program

/-- An event of the round has the reason of the condition. -/
def Announced (es : List Exchange) (c : Condition) : Prop :=
  ∃ event, ⟨.emit event, ()⟩ ∈ es ∧ c.reason = some event.reason

theorem announced_iff_mem_said {es : List Exchange} {c : Condition} {reason : String}
    (hreason : c.reason = some reason) : Announced es c ↔ reason ∈ said es := by
  rw [said, List.mem_filterMap]
  constructor
  · rintro ⟨event, he, hevent⟩
    exact ⟨⟨.emit event, ()⟩, he, hevent.symm.trans hreason⟩
  · rintro ⟨⟨request, answer⟩, he, hsaid⟩
    cases request with
    | emit event => exact ⟨event, he, hreason.trans hsaid.symm⟩
    | findStack | findArtifact | download | describeStack | createStack | updateStack | deleteStack
    | continueRollback | describeChangeSet | executeChangeSet | deleteChangeSet | uploadTemplate =>
      cases hsaid

namespace Manifest

/-- `Ready` moves: the object has not had this status together with this reason. -/
def Moves (m : Manifest) (c : Condition) : Prop :=
  m.ready?.map (fun old => (old.status, old.reason)) ≠ some (c.status, c.reason)

/-- The transition goes under: behind the event about a recovery, or because the reason was that the
spec is invalid before. -/
def Unsaid (m : Manifest) (es : List Exchange) (c : Condition) : Prop :=
  (showRecovery es = true ∧ ∃ reason ∈ Reason.unvoiced, c.reason = some reason) ∨
    (c.reason = some Reason.invalidSpec ∧ m.ready?.bind (·.reason) = some Reason.invalidSpec)

theorem unsaid_iff {m : Manifest} {es : List Exchange} {c : Condition} {reason : String}
    (hreason : c.reason = some reason) (hspec : reason ≠ Reason.invalidSpec) :
    m.Unsaid es c ↔ showRecovery es = true ∧ reason ∈ Reason.unvoiced := by
  rw [Unsaid, hreason]
  constructor
  · rintro (⟨hshown, unvoiced, hmem, heq⟩ | ⟨heq, -⟩)
    · exact ⟨hshown, Option.some.inj heq ▸ hmem⟩
    · exact absurd (Option.some.inj heq) hspec
  · rintro ⟨hshown, hmem⟩
    exact .inl ⟨hshown, reason, hmem, rfl⟩

end Manifest

namespace Operator

variable {o : Operator} {m : Manifest} {time : String} {es : List Exchange} {out : Outcome}
  {c : Condition}

theorem close_says {r : Round} (hc : out.ready? = some c) (hmoves : r.manifest.Moves c) :
    (r.close out).Ends fun es out' => out' = out ∧ showRecovery es = false ∧
      said es = if r.emitted then [] else [c.reason.getD ""] := by
  have hready : out.status.bind (·.ready?) = some c := hc
  unfold Round.close
  split
  · exact .pure ⟨rfl, rfl, rfl⟩
  · next hemitted =>
    rw [hready]
    dsimp only
    rw [if_neg hmoves]
    refine .emit_bind (.pure ⟨rfl, rfl, ?_⟩)
    show [(r.details (Round.announcement c)).reason] = _
    rw [Round.reason_details]
    unfold Round.announcement
    dsimp only
    split <;> rfl

theorem announced_of_ending {intervals : Intervals} {first rest : List Exchange}
    {x : Round × Outcome} {reason : String}
    (h : o.SyncEnding (Round.start m intervals time) first x reason) (hc : x.2.ready? = some c)
    (hmoves : m.Moves c) (hclose : Ran (x.1.close x.2) rest out) :
    Announced (first ++ rest) c ↔ ¬ m.Unsaid (first ++ rest) c := by
  obtain ⟨hreason, hspec⟩ := h.exit.reason_of_ready? hc
  have hmanifest : x.1.manifest = m := h.manifest
  obtain ⟨-, hsettled, hsaid⟩ := close_says hc (hmanifest ▸ hmoves) rest out hclose
  rw [hreason, Option.getD_some] at hsaid
  rw [announced_iff_mem_said hreason, Manifest.unsaid_iff hreason hspec, said_append,
    showRecovery_append, hsettled, Bool.or_false, hsaid]
  cases h.announces with
  | later hnone hemitted hfirst =>
    have hsilent : x.1.emitted = false := hemitted
    simp [hnone, hsilent, hfirst]
  | itself hself hemitted hfirst => simp [hself, hemitted, hfirst]
  | recovering hemitted hfirst hiff => simp [hemitted, hfirst, hiff]

theorem invalidSpec_announced (m : Manifest) (time message : String) :
    (invalidSpec m time message).Ends fun es out =>
      ∀ c, out.ready? = some c → (Announced es c ↔ ¬ m.Unsaid es c) := by
  have hshows := Round.outcome_shows (Round.start m .fallback time).current
    (Round.start m .fallback time).attempt .false Reason.invalidSpec message none
  unfold invalidSpec
  dsimp only
  split
  · next hbefore =>
    refine .pure fun c hc => ?_
    have hreason := hshows.reason_of_ready? hc
    rw [announced_iff_mem_said hreason]
    exact ⟨fun hsaid => absurd hsaid List.not_mem_nil,
      fun hnot => absurd (.inr ⟨hreason, hbefore⟩) hnot⟩
  · next hbefore =>
    refine .emit_bind (.pure fun c hc => ?_)
    have hreason := hshows.reason_of_ready? hc
    refine ⟨fun _ => ?_, fun _ => ?_⟩
    · rintro (⟨hshown, -⟩ | ⟨-, hsame⟩)
      · cases hshown
      · exact hbefore hsame
    · refine (announced_iff_mem_said hreason).2 (List.mem_singleton.2 ?_)
      exact (Round.reason_details (Round.start m .fallback time)
        (.warning Reason.invalidSpec message)).symm

theorem duty_of_ready? (h : Ran (o.reconcile time m) es out) (hactive : m.isDeleting = false)
    (hc : out.ready? = some c) : Ran (o.keepInSync time m) es out := by
  have hsilent : ∀ out' : Outcome, out'.status = none → out'.ready? ≠ some c := by
    intro out' hnone hready
    rw [Outcome.ready?, hnone] at hready
    cases hready
  unfold reconcile at h
  split at h
  · obtain ⟨-, rfl⟩ := ran_pure_iff.1 h
    exact absurd hc (hsilent _ rfl)
  · obtain ⟨-, rfl⟩ := ran_pure_iff.1 h
    exact absurd hc (hsilent _ rfl)
  · obtain ⟨-, rfl⟩ := ran_pure_iff.1 h
    exact absurd hc (hsilent _ rfl)
  · next hduty =>
    rw [(Manifest.deleting_of_destroyStack hduty).1] at hactive
    cases hactive
  · exact h

/-- A round that moves `Ready`, over an object that is not deleted, announces it with the new
reason, except for the transitions that stay unsaid. -/
theorem announced_iff (h : Ran (o.reconcile time m) es out) (hactive : m.isDeleting = false)
    (hc : out.ready? = some c) (hmoves : m.Moves c) : Announced es c ↔ ¬ m.Unsaid es c := by
  have hsync := duty_of_ready? h hactive hc
  unfold keepInSync at hsync
  split at hsync
  · exact invalidSpec_announced m time _ es out hsync c hc
  · obtain ⟨first, rest, x, rfl, hadvance, hclose⟩ := ran_bind_iff.1 hsync
    obtain ⟨reason, hending⟩ := advance_ends o _ first x hadvance
    obtain ⟨-, rfl⟩ := remote_of_close hclose
    exact announced_of_ending hending hc hmoves hclose

end Operator

/-! ## A recovery -/

namespace Sample

/-- The last update of the stack has been rolled back. -/
def rolledBack : MemoryCloud :=
  MemoryCloud.empty.seedStack (object.stackKey operator.settings) "UPDATE_ROLLBACK_COMPLETE" none

def recovering : Stage := ⟨[], object, { World.ofNetwork default with cloud := rolledBack }⟩

/-- The next update cannot even be looked up. -/
def stuck : Stage where
  visits := []
  object := object
  world := { World.ofNetwork default with
    cloud := rolledBack.breakOperation .describeChangeSet "Throttling: Rate exceeded" }

theorem ran_of_object (x : Stage) (hobject : x.object = object) :
    Ran (operator.reconcile "2024-05-01T00:00:00+00:00" x.object) (x.visit "a" true).exchanges
      (x.visit "a" true).outcome := by
  have hduty : object.lifecycleFacts.choice.duty = some .reconcile := rfl
  exact (supply "a").ran (congrArg Manifest.spec hobject) (hobject ▸ hduty)

end Sample

open Sample in
/-- A new change set for a stack that recovers is progress, as the first event has said. -/
theorem announced_iff_recovering : ∃ c, (recovering.visit "a" true).outcome.ready? = some c ∧
    showRecovery (recovering.visit "a" true).exchanges = true ∧
    Announced (recovering.visit "a" true).exchanges c := by
  have hready : ((recovering.visit "a" true).outcome.ready?.map (·.reason)) =
      some (some Reason.progressing) := rfl
  obtain ⟨c, hc, hreason⟩ := Option.map_eq_some_iff.1 hready
  have hmoves : recovering.object.Moves c := fun h => by cases h
  refine ⟨c, hc, rfl, ?_⟩
  refine (Operator.announced_iff (ran_of_object recovering rfl) rfl hc hmoves).2 fun hunsaid => ?_
  obtain ⟨-, hunvoiced⟩ := (Manifest.unsaid_iff hreason nofun).1 hunsaid
  revert hunvoiced
  nofun

open Sample in
/-- If a call fails after the event about the recovery, nobody is told. -/
theorem not_always_announced : ¬ ∀ (o : Operator) (time : String) (m : Manifest)
    (es : List Exchange) (out : Outcome) (c : Condition), Ran (o.reconcile time m) es out →
    m.isDeleting = false → out.ready? = some c → m.Moves c → Announced es c := by
  intro always
  have hready : ((stuck.visit "a" true).outcome.ready?.map (·.reason)) =
      some (some Reason.apiCallFailed) := rfl
  have hsaid : said (stuck.visit "a" true).exchanges = [Reason.progressing] := rfl
  obtain ⟨c, hc, hreason⟩ := Option.map_eq_some_iff.1 hready
  have hannounced := always operator _ stuck.object _ _ c (ran_of_object stuck rfl) rfl hc
    fun h => by cases h
  rw [announced_iff_mem_said hreason, hsaid] at hannounced
  revert hannounced
  nofun

end StackSync
