import StackSync.Reconcile.Outcome

/-!
# Persisting an outcome

What a round came to is written onto the object: the finalizer is appended, or all copies of it are taken out,
and the status is merged onto the one that is stored.
-/

namespace StackSync

/-- The finalizers after a change. -/
def FinalizerEdit.apply (change : FinalizerEdit) (finalizers : Option (List String)) :
    Option (List String) :=
  match change with
  | .keep => finalizers
  | .add => some (finalizers.getD [] ++ [finalizerName])
  | .remove => some ((finalizers.getD []).filter (· ≠ finalizerName))

/-- The object once an outcome has been written onto it. -/
def Manifest.persist (m : Manifest) (o : Outcome) : Manifest where
  metadata := { m.metadata with finalizers := o.finalizer.apply m.metadata.finalizers }
  spec := m.spec
  status :=
    match o.status with
    | none => m.status
    | some desired => some (desired.mergeOnto m.status)

end StackSync
