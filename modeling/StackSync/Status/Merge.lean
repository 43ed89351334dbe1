import StackSync.Resource.Encode

/-!
# Merging statuses

A status is computed from a snapshot and written onto whatever is stored by then. Conditions are upserted by
type, so those of other writers survive; a transition time stays while the status of its condition does; and
a write that would only move timestamps is not made.
-/

namespace StackSync

/-- The conditions of type `Ready` first; within the two parts the order stays. -/
def readyFirst (conditions : List Condition) : List Condition :=
  conditions.filter (·.isReady) ++ conditions.filter (!·.isReady)

/-- The new condition, with the transition time of the old one unless the status has changed. -/
def Condition.replacing (new old : Condition) : Condition :=
  if old.status = new.status then { new with lastTransitionTime := old.lastTransitionTime } else new

/-- Replaces the first condition of the type, or appends the condition. -/
def putCondition (new : Condition) : List Condition → List Condition
  | [] => [new]
  | old :: rest => if old.type = new.type then new.replacing old :: rest else old :: putCondition new rest

def putConditions (existing incoming : List Condition) : List Condition :=
  readyFirst (incoming.foldl (fun acc new => putCondition new acc) existing)

/-- The order of generations: an absent one comes before all others. -/
def generationBefore : Option Int64 → Option Int64 → Bool
  | none, some _ => true
  | some a, some b => a < b
  | _, none => false

/-- The computed status onto the stored one. -/
def Status.mergeOnto (latest : Option Status) (desired : Status) : Status :=
  match latest with
  | none => desired
  | some stored =>
    { desired with
      conditions := putConditions stored.conditions desired.conditions
      lastAppliedRevision := desired.lastAppliedRevision <|> stored.lastAppliedRevision
      lastAppliedChangeSet := desired.lastAppliedChangeSet <|> stored.lastAppliedChangeSet
      observedGeneration :=
        if generationBefore desired.observedGeneration stored.observedGeneration then
          stored.observedGeneration
        else desired.observedGeneration }

/-- A condition as it is written, less its transition time. -/
def withoutTransitionTime : Json → Json
  | .object fields => .object (Fields.erase "lastTransitionTime" fields)
  | v => v

/-- A status as it is written, less all transition times. -/
def Status.comparable (s : Status) : Json :=
  match s.toJson with
  | .object fields =>
    match Fields.get? "conditions" fields with
    | some (.array conditions) =>
      .object (Fields.insert "conditions" (.array (conditions.map withoutTransitionTime)) fields)
    | _ => .object fields
  | v => v

/-- Whether writing the status would change more than timestamps. -/
def needsWrite (current : Option Status) (desired : Status) : Bool :=
  match current with
  | none => true
  | some stored => stored.comparable ≠ desired.comparable

end StackSync
