import StackSync.Json.Patch
import StackSync.Reconcile.Operator
import StackSync.Reconcile.Persist
import StackSync.Resource.Decode
import StackSync.Simulation.World

/-!
# Rehearsing rounds over one object

A rehearsal keeps an object and a world. Each round runs against the world, its outcome is written onto the
object, and a report says what the round did. The cloud may be called between rounds as well, and the next
report has these calls too.
-/

namespace StackSync

structure Rehearsal where
  operator : Operator
  object : Json
  world : World
  /-- How many calls the reports so far have. -/
  reported : Nat

structure Report where
  before : Manifest
  after : Manifest
  outcome : Outcome
  /-- All calls that no report before has. -/
  calls : List LoggedCall
  submitted : List ChangeSetRequest
  downloads : List String
  events : List Event

/-- What has been added to a log since it had `n` entries. -/
def since (log : List α) (n : Nat) : List α := log.drop n

/-- A round, and the report of it if `reported` calls have been reported before. -/
def World.roundAfter (reported : Nat) (w : World) (e : Operator) (time : String) (m : Manifest) :
    Report × World :=
  let (outcome, later) := (e.reconcile time m).run World.answer w
  ({ before := m
     after := m.persist outcome
     outcome := outcome
     calls := since later.cloud.calls reported
     submitted := since later.submitted w.submitted.length
     downloads := since later.network.attempts w.network.attempts.length
     events := since later.events w.events.length }, later)

/-- A round with nothing left to report from the time before it. -/
def World.round (w : World) (e : Operator) (time : String) (m : Manifest) : Report × World :=
  w.roundAfter w.cloud.calls.length e time m

namespace Rehearsal

/-- The stored object with what a round has written. -/
def written (object : Json) (r : Report) : Json :=
  let object := match r.outcome.finalizer with
    | .keep => object
    | _ =>
      let finalizers := (r.after.metadata.finalizers.getD []).map Json.string
      object.mergePatch (.record [("metadata", .record [("finalizers", .array finalizers)])])
  match r.outcome.status, r.after.status, object with
  | some _, some status, .object fields => .object (Fields.insert "status" status.toJson fields)
  | _, _, object => object

def reconcile (h : Rehearsal) (time : String) : Json.Decoded (Report × Rehearsal) := do
  let m ← Manifest.decode h.object
  let (report, world) := h.world.roundAfter h.reported h.operator time m
  let reported := world.cloud.calls.length
  return (report, { h with world, reported, object := written h.object report })

/-- Changes the stored object by a merge patch, if it can still be read then. -/
def patch (h : Rehearsal) (change : Json) : Json.Decoded Rehearsal := do
  let object := h.object.mergePatch change
  let _ ← Manifest.decode object
  return { h with object }

end Rehearsal

end StackSync
