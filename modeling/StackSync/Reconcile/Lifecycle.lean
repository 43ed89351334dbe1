import StackSync.Resource.Basic

/-!
# Lifecycle

Before anything is looked up, the object alone decides what a round is for: nothing, the finalizer, the stack,
or its destruction. Suspension wins over everything but the release of a deleted object.
-/

namespace StackSync

structure LifecycleFacts where
  isDeleting : Bool
  hasFinalizer : Bool
  suspended : Bool
  destroyOnDeletion : Bool
  deriving DecidableEq, Repr

inductive LifecyclePhase where
  | suspended
  | active
  | deleting
  | released
  deriving DecidableEq, Repr, Inhabited

inductive LifecycleDuty where
  | addFinalizer
  | reconcile
  | destroyStack
  | removeFinalizer
  deriving DecidableEq, Repr, Inhabited

structure LifecycleChoice where
  phase : LifecyclePhase
  duty : Option LifecycleDuty
  deriving DecidableEq, Repr, Inhabited

def Manifest.lifecycleFacts (m : Manifest) : LifecycleFacts :=
  ⟨m.isDeleting, m.hasFinalizer, m.spec.suspend, m.spec.destroyStackOnDeletion⟩

def LifecycleFacts.choice (i : LifecycleFacts) : LifecycleChoice :=
  if i.isDeleting then
    if !i.hasFinalizer then ⟨.released, none⟩
    else if i.suspended || !i.destroyOnDeletion then ⟨.released, some .removeFinalizer⟩
    else ⟨.deleting, some .destroyStack⟩
  else if i.suspended then ⟨.suspended, none⟩
  else if !i.hasFinalizer then ⟨.active, some .addFinalizer⟩
  else ⟨.active, some .reconcile⟩

end StackSync
