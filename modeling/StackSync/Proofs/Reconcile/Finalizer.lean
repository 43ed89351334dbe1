import StackSync.Proofs.Reconcile.Consistency
import StackSync.Reconcile.Persist

/-!
# Rounds that write a status keep the finalizer

The finalizer is added before anything is asked, and it is taken away once there is no stack to be
destroyed; neither writes a status. So an object whose status a round has written has the finalizers
it had (`keep_of_reconcile`). That is read off the exits of a round, as `Consistent` collects them.
-/

namespace StackSync

open Program

/-! ## Finalizers that are stored -/

namespace Manifest

variable {m : Manifest} {out : Outcome}

theorem hasFinalizer_persist_addFinalizer (m : Manifest) :
    (m.persist .addFinalizer).hasFinalizer = true := by
  show (m.metadata.finalizers.getD [] ++ [finalizerName]).contains finalizerName = true
  rw [List.contains_iff_mem]
  exact List.mem_append_right _ List.mem_cons_self

theorem hasFinalizer_persist (hfinalizer : m.hasFinalizer = true) (hkeep : out.finalizer = .keep) :
    (m.persist out).hasFinalizer = true := by
  show ((out.finalizer.apply m.metadata.finalizers).getD []).contains finalizerName = true
  rw [hkeep]
  exact hfinalizer

theorem hasFinalizer_persist_of_remove (m : Manifest) (hremove : out.finalizer = .remove) :
    (m.persist out).hasFinalizer = false := by
  show ((out.finalizer.apply m.metadata.finalizers).getD []).contains finalizerName = false
  rw [hremove, ← Bool.not_eq_true, List.contains_iff_mem]
  exact fun hmem => of_decide_eq_true (List.mem_filter.1 hmem).2 rfl

end Manifest

/-! ## Finalizers and statuses of an outcome -/

/-- Whatever is answered, the program comes to a result like this. -/
def Program.Yields {α : Type} (p : Program α) (Q : α → Prop) : Prop := ∀ es a, Ran p es a → Q a

/-- The outcome does not both write a status and edit the finalizers. -/
def Outcome.Keeps (out : Outcome) : Prop := out.status = none ∨ out.finalizer = .keep

namespace Operator

theorem reconcile_keeps (o : Operator) (m : Manifest) (time : String) :
    (o.reconcile time m).Yields Outcome.Keeps := by
  intro es out ran
  cases hstatus : out.status with
  | none => exact .inl hstatus
  | some d =>
    have hwrites := (reconcile_consistent o m time es out ran).writes
    rw [hstatus] at hwrites
    exact .inr (hwrites rfl).1

theorem keep_of_reconcile {o : Operator} {m : Manifest} {time : String} {es : List Exchange}
    {out : Outcome} {d : Status} (h : Ran (o.reconcile time m) es out) (hd : out.status = some d) :
    out.finalizer = .keep := by
  rcases reconcile_keeps o m time es out h with hnone | hkeep
  · rw [hd] at hnone
    cases hnone
  · exact hkeep

end Operator

end StackSync
