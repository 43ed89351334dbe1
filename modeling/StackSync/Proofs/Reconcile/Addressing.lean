import StackSync.Proofs.Reconcile.Course

/-!
# What a round addresses

Every call of a round is about the stack of the object, in the region and under the name that its spec has; a
change set is asked for under the name of the attempt, and what is uploaded is the template, under its key.
Which templates a round may have loaded does not matter here, so a call is said to be addressed by some
target of the object.
-/

namespace StackSync

open Program

/-- If the request goes to the cloud, it is one about this target. -/
def TargetStack.Addresses (t : TargetStack) : Request → Prop
  | .describeStack region name | .deleteStack region name | .continueRollback region name
  | .executeChangeSet region name _ | .deleteChangeSet region name _ =>
    region = t.region ∧ name = t.stackName
  | .describeChangeSet region name h => region = t.region ∧ name = t.stackName ∧ h = t.changeSet
  | .createStack r | .updateStack r => ∃ template, r = t.request template
  | .uploadTemplate bucket region key body =>
    t.bucket = some bucket ∧ region = t.region ∧ key = t.objectKey ∧ body = t.templateBody
  | _ => True

namespace TargetStack

variable {t : TargetStack} {es : List Exchange} {isCreate : Bool} {ref reference : String}
  {st : ConditionStatus}

theorem addresses_of_not_isRemote {r : Request} (h : r.isRemote = false) : t.Addresses r := by
  cases r with
  | findStack | findArtifact | download | emit => trivial
  | _ => cases h

theorem addresses_submission (template : TemplateSource) (answer : CloudAnswer ChangeSetHandle) :
    t.Addresses (t.submission isCreate template answer).request := by
  cases isCreate <;> exact ⟨template, rfl⟩

theorem Placed.addresses {template : TemplateSource} (h : t.Placed es template) :
    ∀ e ∈ es, t.Addresses e.request := by
  cases h with
  | inline _ _ => exact List.forall_mem_nil _
  | uploaded hbucket => exact List.forall_mem_singleton.2 ⟨hbucket, rfl, rfl, rfl⟩

theorem Submitted.addresses (h : t.Submitted isCreate ref es reference st) :
    ∀ e ∈ es, t.Addresses e.request := by
  have hplaced : ∀ {placing : List Exchange} {template : TemplateSource} answer,
      t.Placed placing template →
      ∀ e ∈ placing ++ [t.submission isCreate template answer], t.Addresses e.request :=
    fun answer placed => List.forall_mem_append.2
      ⟨placed.addresses, List.forall_mem_singleton.2 (addresses_submission _ answer)⟩
  cases h with
  | oversized _ _ => exact List.forall_mem_nil _
  | notUploaded hbucket => exact List.forall_mem_singleton.2 ⟨hbucket, rfl, rfl, rfl⟩
  | refused placed => exact hplaced _ placed
  | accepted placed => exact hplaced _ placed

theorem ChangeSetPursuit.addresses (h : t.ChangeSetPursuit isCreate es reference st) :
    ∀ e ∈ es, t.Addresses e.request := by
  have hlookup : ∀ answer, t.Addresses (t.changeSetLookup answer).request :=
    fun _ => ⟨rfl, rfl, rfl⟩
  cases h with
  | missing _ hsubmitted => exact List.forall_mem_cons.2 ⟨hlookup _, hsubmitted.addresses⟩
  | unseen | waiting _ | unexpected _ | executed _ => exact List.forall_mem_singleton.2 (hlookup _)
  | executing _ | notExecuted _ | emptyDropped _ | emptyKept _ | failedDeletion _ =>
    exact List.forall_mem_cons.2 ⟨hlookup _, List.forall_mem_singleton.2 ⟨rfl, rfl⟩⟩

theorem Pursuit.addresses (h : t.Pursuit es reference st) : ∀ e ∈ es, t.Addresses e.request := by
  cases h with
  | changeSet _ hpursuit => exact List.forall_mem_cons.2 ⟨⟨rfl, rfl⟩, hpursuit.addresses⟩
  | unseen | waiting _ | unexpected _ => exact List.forall_mem_singleton.2 ⟨rfl, rfl⟩
  | rollingBack _ | deleting _ =>
    exact List.forall_mem_cons.2 ⟨⟨rfl, rfl⟩, List.forall_mem_singleton.2 ⟨rfl, rfl⟩⟩

end TargetStack

namespace Operator

variable {o : Operator} {time : String} {m : Manifest} {es : List Exchange} {out : Outcome}

theorem TornDown.addresses (h : o.TornDown m es) (revision body : String) :
    ∀ e ∈ es, (o.targetOf m revision body).Addresses e.request := by
  cases h with
  | looked => exact List.forall_mem_singleton.2 ⟨rfl, rfl⟩
  | deleted => exact List.forall_mem_cons.2 ⟨⟨rfl, rfl⟩, List.forall_mem_singleton.2 ⟨rfl, rfl⟩⟩

/-- All that a round asks of the cloud is about targets of its object. -/
theorem exists_addresses_of_reconcile (ran : Ran (o.reconcile time m) es out) {e : Exchange}
    (he : e ∈ es) : ∃ revision body, (o.targetOf m revision body).Addresses e.request := by
  cases hsort : e.request.isRemote with
  | false => exact ⟨"", "", TargetStack.addresses_of_not_isRemote hsort⟩
  | true =>
    have hremote : e ∈ remote es := List.mem_filter.2 ⟨he, hsort⟩
    cases passage_of_reconcile ran with
    | idle _ hnone _ | stopped hnone _ _ _ => rw [hnone] at hremote; cases hremote
    | tornDown _ htorn _ => exact ⟨"", "", htorn.addresses "" "" e hremote⟩
    | pursued _ _ hpursuit _ _ _ => exact ⟨_, _, hpursuit.addresses e hremote⟩

end Operator

end StackSync
