import StackSync.Cluster.Recorder
import StackSync.Reconcile.Operator
import StackSync.Resource.Decode
import StackSync.Resource.Encode
import StackSync.Simulation.World

/-!
# Rounds against a cluster

The controller runs a round with the API server for sources, other stacks and events, and then writes what it
came to: the finalizer by a patch of the whole list, and the status by a patch onto whatever is stored by then.
A write that would only move timestamps is not made.
-/

namespace StackSync

open Cluster in
/-- The API server with an event recorder, and everything else a round talks to. -/
structure Cluster where
  server : Server
  recorder : Recorder
  world : World
  deriving Inhabited

namespace Cluster

/-- A step against the cluster. -/
abbrev Access (α : Type) := Cluster → α × Cluster

def ask (act : Server → Except ApiError α × Server) : Access (Except ApiError α) := fun c =>
  let (result, server) := act c.server
  (result, { c with server })

def getObject (r : Resource) (ns name : String) : Access (Except ApiError Json) := fun c =>
  match requestPath r ns name with
  | .error e => (.error e, c)
  | .ok path => ask (Server.get path) c

/-- An object that there may not be. -/
def getIfPresent (r : Resource) (ns name : String) : Access (Except ApiError (Option Json)) := fun c =>
  match getObject r ns name c with
  | (.ok object, c) => (.ok (some object), c)
  | (.error e, c) => (if e.isAbsence then .ok none else .error e, c)

def readStack (object : Json) : Except ApiError Manifest :=
  (Manifest.decode object).mapError fun e => .unreadable e.message

def findStack (ns name : String) : Access (Except ApiError (Option Manifest)) := fun c =>
  let (found, c) := getIfPresent .stack ns name c
  (do
    match ← found with
    | none => return none
    | some object => return some (← readStack object), c)

def findArtifact (kind ns name : String) : Access (Except SourceError (Option Artifact)) := fun c =>
  match Resource.sources.find? (·.kind == kind) with
  | none => (.error (.unsupportedKind kind), c)
  | some r =>
    let label := sourceLabel kind ns name
    match getIfPresent r ns name c with
    | (.error e, c) => (.error (.api e.message), c)
    | (.ok none, c) => (.error (.notFound label), c)
    | (.ok (some object), c) => (artifactOfSource label object, c)

/-- Answers the requests of a round over an object. -/
def answer (m : Manifest) : Program.Handler Cluster
  | .findStack ns name, c =>
    let (found, c) := findStack ns name c
    (found.mapError (·.message), c)
  | .findArtifact kind ns name, c => findArtifact kind ns name c
  | .emit event, c =>
    let (recorder, server) := c.recorder.publish m event c.server
    ((), { c with recorder, server })
  | r, c =>
    let (result, world) := World.answer r c.world
    (result, { c with world })

/-! ## Writing what a round came to -/

def finalizersPatch (finalizers : List String) : Json :=
  .record [("metadata", .record [("finalizers", .array (finalizers.map .string))])]

def addFinalizerPatch (m : Manifest) : Json := finalizersPatch (m.finalizers ++ [finalizerName])

def removeFinalizerPatch (m : Manifest) : Json := finalizersPatch (m.finalizers.filter (· ≠ finalizerName))

def statusPatch (s : Status) : Json := .record [("status", s.toJson)]

/-- The status to write onto the stored one, if more than timestamps would change. -/
def statusToWrite? (stored : Option Status) (desired : Status) : Option Status :=
  let merged := desired.mergeOnto stored
  if needsWrite stored merged then some merged else none

def patchObject (m : Manifest) (ns : String) (change : Json) : Access (Except ApiError Unit) := fun c =>
  match requestPath .stack ns m.name with
  | .error e => (.error e, c)
  | .ok path =>
    let (result, c) := ask (Server.patch path change) c
    ((result.bind readStack).map fun _ => (), c)

/-- Changes the finalizers; an object that is gone needs no finalizer taken away. -/
def writeFinalizer (m : Manifest) (ns : String) : FinalizerEdit → Access (Except ApiError Unit)
  | .keep, c => (.ok (), c)
  | .add, c => patchObject m ns (addFinalizerPatch m) c
  | .remove, c =>
    match patchObject m ns (removeFinalizerPatch m) c with
    | (.error e, c) => (if e.hasCode 404 then .ok () else .error e, c)
    | done => done

/-- Merges a status onto the one that is stored now. -/
def writeStatus (ns name : String) (desired : Status) : Access (Except ApiError Unit) := fun c =>
  match findStack ns name c with
  | (.error e, c) => (.error e, c)
  | (.ok none, c) => (.ok (), c)
  | (.ok (some stored), c) =>
    match statusToWrite? stored.status desired with
    | none => (.ok (), c)
    | some merged =>
      let (result, c) := ask (Server.patchStatus (Resource.stack.path ns name) (statusPatch merged)) c
      ((result.bind readStack).map fun _ => (), c)

/-- Writes an outcome: the finalizer first, and the status only if that worked. -/
def write (m : Manifest) (ns : String) (o : Outcome) : Access (Except ApiError Unit) := fun c =>
  match writeFinalizer m ns o.finalizer c with
  | (.error e, c) => (.error e, c)
  | (.ok (), c) =>
    match o.status with
    | none => (.ok (), c)
    | some desired => writeStatus ns m.name desired c

/-- A round over an object and the writing of its outcome: an error, or when to come back. -/
def reconcile (e : Operator) (time : String) (m : Manifest) :
    Access (Except ReconcileError (Option Duration)) := fun c =>
  match m.metadata.ns with
  | none => (.error (.spec "CloudFormationStack must be namespaced"), c)
  | some ns =>
    let (outcome, c) := (e.reconcile time m).run (answer m) c
    match write m ns outcome c with
    | (.error e, c) => (.error (.kubernetes e.message), c)
    | (.ok (), c) =>
      (match outcome.error with
        | some error => .error error
        | none => .ok outcome.requeue, c)

def actionOf : Except ReconcileError (Option Duration) → Option Duration
  | .ok requeue => requeue
  | .error e => e.requeue

end Cluster

end StackSync
