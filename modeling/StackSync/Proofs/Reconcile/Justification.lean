import StackSync.Proofs.Reconcile.Departure

/-!
# Why a round makes its calls

Deleting or executing the wrong thing destroys infrastructure, so a call that changes something has
to follow from what the same round has been told before it. `Justifies` says, call by call, what
that is: the stack described in such a phase, the change set in such another, addressed by the very
region, name and handle of the call. A round makes one such call at most, so there is nothing
between the look-ups and the call that could have made them out of date.

The three machines (lifecycle, stack, change set) were composed once, in `Pursuit`. What is left is
a walk along each of its conversations, with the exchanges so far as what has been seen.
-/

namespace StackSync

open Program

/-! ## Sorts of requests -/

/-- What a request to the cloud is for. -/
inductive CallSort where
  | stackLookup
  | changeSetLookup
  | upload
  /-- It changes a stack or a change set. -/
  | change
  deriving DecidableEq, Repr

/-- The order in which a round comes to its calls; it makes none of a sort twice. -/
def CallSort.order : List CallSort := [.stackLookup, .changeSetLookup, .upload, .change]

theorem CallSort.lookup_sublist_order : [stackLookup].Sublist order :=
  (List.nil_sublist _).cons_cons _

theorem CallSort.lookup_change_sublist_order : [stackLookup, change].Sublist order :=
  ((List.Sublist.refl _).cons _ |>.cons _).cons_cons _

theorem CallSort.nodup_order : order.Nodup := by simp [order]

def Request.sort? : Request → Option CallSort
  | .describeStack .. => some .stackLookup
  | .describeChangeSet .. => some .changeSetLookup
  | .uploadTemplate .. => some .upload
  | .createStack _ | .updateStack _ | .deleteStack .. | .continueRollback ..
  | .executeChangeSet .. | .deleteChangeSet .. => some .change
  | .findStack .. | .findArtifact .. | .download _ | .emit _ => none

/-- The sorts of the requests to the cloud, in their order. -/
def sorts (es : List Exchange) : List CallSort := es.filterMap (·.request.sort?)

theorem Request.sort?_eq_none {r : Request} (h : r.isRemote = false) : r.sort? = none := by
  cases r <;> first | rfl | cases h

theorem sorts_remote (es : List Exchange) : sorts (remote es) = sorts es := by
  induction es with
  | nil => rfl
  | cons e rest ih =>
    cases hremote : e.request.isRemote with
    | true =>
      rw [remote_cons_of_isRemote hremote]
      simp only [sorts, List.filterMap_cons] at ih ⊢
      rw [ih]
    | false =>
      rw [remote_cons_of_not_isRemote hremote, ih]
      simp only [sorts, List.filterMap_cons, Request.sort?_eq_none hremote]

/-! ## What justifies a call -/

/-- The object and what has been seen in the conversation call for the request; only requests that
change something need a reason. -/
def Manifest.Justifies (m : Manifest) (seen : List Exchange) : Request → Prop
  | .deleteStack region name => ∃ s, ⟨.describeStack region name, .ok (some s)⟩ ∈ seen ∧
      ((m.isDeleting = true ∧ m.spec.destroyStackOnDeletion = true ∧
          s.status ≠ "DELETE_COMPLETE" ∧ s.phase ≠ .inProgress) ∨
        (m.isDeleting = false ∧ s.phase = .unrecoverableFailure))
  | .continueRollback region name => m.isDeleting = false ∧
      ∃ s, ⟨.describeStack region name, .ok (some s)⟩ ∈ seen ∧ s.status = "UPDATE_ROLLBACK_FAILED"
  | .executeChangeSet region name handle => m.isDeleting = false ∧
      ∃ asked d, ⟨.describeChangeSet region name asked, .ok (some d)⟩ ∈ seen ∧ d.handle = handle ∧
        d.status = "CREATE_COMPLETE" ∧ d.execution = "AVAILABLE"
  | .deleteChangeSet region name handle => m.isDeleting = false ∧
      ∃ asked d, ⟨.describeChangeSet region name asked, .ok (some d)⟩ ∈ seen ∧ d.handle = handle ∧
        (d.phase = .empty ∨ d.phase = .failed)
  | .createStack r => m.isDeleting = false ∧
      (∃ found, ⟨.describeStack r.region r.stackName, .ok found⟩ ∈ seen ∧
        ∀ s, found = some s → s.phase = .notCreated) ∧
      ∃ asked found, ⟨.describeChangeSet r.region r.stackName asked, .ok found⟩ ∈ seen ∧
        asked.name = r.changeSetName ∧ ChangeSetPhase.ofFound found = .notFound
  | .updateStack r => m.isDeleting = false ∧
      (∃ s, ⟨.describeStack r.region r.stackName, .ok (some s)⟩ ∈ seen ∧
        (s.phase = .success ∨ s.phase = .recoverableFailure)) ∧
      ∃ asked found, ⟨.describeChangeSet r.region r.stackName asked, .ok found⟩ ∈ seen ∧
        asked.name = r.changeSetName ∧ ChangeSetPhase.ofFound found = .notFound
  | .uploadTemplate _ region _ _ => m.isDeleting = false ∧
      ∃ name asked found, ⟨.describeChangeSet region name asked, .ok found⟩ ∈ seen ∧
        ChangeSetPhase.ofFound found = .notFound
  | _ => True

namespace Manifest

variable {m : Manifest} {seen more es : List Exchange}

theorem justifies_of_not_isRemote {r : Request} (h : r.isRemote = false) : m.Justifies seen r := by
  cases r <;> trivial

theorem Justifies.mono {r : Request} (h : m.Justifies seen r) (hsub : seen ⊆ more) :
    m.Justifies more r := by
  cases r with
  | deleteStack region name =>
    obtain ⟨s, hs, hreason⟩ := h
    exact ⟨s, hsub hs, hreason⟩
  | continueRollback region name =>
    obtain ⟨hactive, s, hs, hstatus⟩ := h
    exact ⟨hactive, s, hsub hs, hstatus⟩
  | executeChangeSet region name handle =>
    obtain ⟨hactive, asked, d, hd, hreason⟩ := h
    exact ⟨hactive, asked, d, hsub hd, hreason⟩
  | deleteChangeSet region name handle =>
    obtain ⟨hactive, asked, d, hd, hreason⟩ := h
    exact ⟨hactive, asked, d, hsub hd, hreason⟩
  | createStack r =>
    obtain ⟨hactive, ⟨s, hs, hphase⟩, asked, found, hfound, hreason⟩ := h
    exact ⟨hactive, ⟨s, hsub hs, hphase⟩, asked, found, hsub hfound, hreason⟩
  | updateStack r =>
    obtain ⟨hactive, ⟨s, hs, hphase⟩, asked, found, hfound, hreason⟩ := h
    exact ⟨hactive, ⟨s, hsub hs, hphase⟩, asked, found, hsub hfound, hreason⟩
  | uploadTemplate bucket region key body =>
    obtain ⟨hactive, name, asked, found, hfound, hreason⟩ := h
    exact ⟨hactive, name, asked, found, hsub hfound, hreason⟩
  | _ => trivial

/-- The exchanges that follow, each justified by those before it. -/
def Accounts (m : Manifest) : (seen es : List Exchange) → Prop
  | _, [] => True
  | seen, e :: rest => m.Justifies seen e.request ∧ m.Accounts (seen ++ [e]) rest

theorem Accounts.justifies {before after : List Exchange} {e : Exchange}
    (h : m.Accounts seen (before ++ e :: after)) : m.Justifies (seen ++ before) e.request := by
  induction before generalizing seen with
  | nil =>
    rw [List.append_nil]
    exact h.1
  | cons first rest ih =>
    have hrest := ih h.2
    rwa [List.append_assoc, List.singleton_append] at hrest

/-- What is said elsewhere neither justifies a call of the round nor needs a reason. -/
theorem Accounts.of_remote (h : m.Accounts [] (remote es)) {before after : List Exchange}
    {e : Exchange} (hsplit : es = before ++ e :: after) : m.Justifies before e.request := by
  cases hremote : e.request.isRemote with
  | false => exact justifies_of_not_isRemote hremote
  | true =>
    rw [hsplit, remote_append, remote_cons_of_isRemote hremote] at h
    have hjustified := h.justifies
    rw [List.nil_append] at hjustified
    exact hjustified.mono List.filter_sublist.subset

end Manifest

/-! ## Phases and what they stand for -/

theorem StackPhase.status_of_rollbackContinuationNeeded {status : String}
    (h : StackPhase.ofStatus status = .rollbackContinuationNeeded) :
    status = "UPDATE_ROLLBACK_FAILED" := by
  unfold StackPhase.ofStatus at h
  split at h <;> first | rfl | cases h | (split at h <;> cases h)

theorem ChangeSetPhase.notFound_of_create {found : Option ChangeSetDescription}
    (h : ChangeSetMove.ofFound found = .create) : ChangeSetPhase.ofFound found = .notFound := by
  cases found with
  | none => rfl
  | some d =>
    have hphase := d.phase_of_move
    rw [show d.move = .create from h] at hphase
    exact hphase

theorem StackMove.notCreated_of_create {found : Option StackDescription} {recovering : Bool}
    (h : StackMove.ofFound found = .changeSet true recovering) :
    ∀ s, found = some s → s.phase = .notCreated := by
  rintro s rfl
  have hphase := s.phase_of_move
  rw [show s.move = .changeSet true recovering from h] at hphase
  exact hphase

theorem StackMove.created_of_update {found : Option StackDescription} {recovering : Bool}
    (h : StackMove.ofFound found = .changeSet false recovering) :
    ∃ s, found = some s ∧ (s.phase = .success ∨ s.phase = .recoverableFailure) := by
  cases found with
  | none => cases (StackMove.changeSet.inj h).1
  | some s =>
    have hphase := s.phase_of_move
    rw [show s.move = .changeSet false recovering from h] at hphase
    exact ⟨s, rfl, hphase⟩

/-! ## Along a pursuit -/

namespace TargetStack

variable {t : TargetStack} {m : Manifest} {seen es : List Exchange} {isCreate recovering : Bool}
  {found : Option StackDescription} {foundChangeSet : Option ChangeSetDescription}
  {ref reference : String} {st : ConditionStatus}

theorem justifies_submission (hactive : m.isDeleting = false)
    (hstack : t.stackLookup (.ok found) ∈ seen)
    (hmove : StackMove.ofFound found = .changeSet isCreate recovering)
    (hchangeSet : t.changeSetLookup (.ok foundChangeSet) ∈ seen)
    (hmissing : ChangeSetMove.ofFound foundChangeSet = .create) (template : TemplateSource)
    (answer : CloudAnswer ChangeSetHandle) :
    m.Justifies seen (t.submission isCreate template answer).request := by
  have hvacant : ∃ asked found,
      ⟨.describeChangeSet t.region t.stackName asked, .ok found⟩ ∈ seen ∧
        asked.name = t.changeSet.name ∧ ChangeSetPhase.ofFound found = .notFound :=
    ⟨t.changeSet, foundChangeSet, hchangeSet, rfl, ChangeSetPhase.notFound_of_create hmissing⟩
  cases isCreate with
  | true => exact ⟨hactive, ⟨found, hstack, StackMove.notCreated_of_create hmove⟩, hvacant⟩
  | false =>
    obtain ⟨s, rfl, hphase⟩ := StackMove.created_of_update hmove
    exact ⟨hactive, ⟨s, hstack, hphase⟩, hvacant⟩

theorem accounts_of_submitted (hactive : m.isDeleting = false)
    (hstack : t.stackLookup (.ok found) ∈ seen)
    (hmove : StackMove.ofFound found = .changeSet isCreate recovering)
    (hchangeSet : t.changeSetLookup (.ok foundChangeSet) ∈ seen)
    (hmissing : ChangeSetMove.ofFound foundChangeSet = .create)
    (h : t.Submitted isCreate ref es reference st) : m.Accounts seen es := by
  have hupload : ∀ bucket key body,
      m.Justifies seen (.uploadTemplate bucket t.region key body) := fun _ _ _ =>
    ⟨hactive, t.stackName, t.changeSet, foundChangeSet, hchangeSet,
      ChangeSetPhase.notFound_of_create hmissing⟩
  have hsubmitted : ∀ {placing : List Exchange} {template : TemplateSource} answer,
      t.Placed placing template →
      m.Accounts seen (placing ++ [t.submission isCreate template answer]) := by
    intro placing template answer placed
    cases placed with
    | inline _ _ =>
      exact ⟨justifies_submission hactive hstack hmove hchangeSet hmissing _ answer, trivial⟩
    | uploaded _ =>
      refine ⟨hupload _ _ _, justifies_submission hactive ?_ hmove ?_ hmissing _ answer, trivial⟩
      · exact List.mem_append_left _ hstack
      · exact List.mem_append_left _ hchangeSet
  cases h with
  | oversized _ _ => exact trivial
  | notUploaded _ => exact ⟨hupload _ _ _, trivial⟩
  | refused placed => exact hsubmitted _ placed
  | accepted placed => exact hsubmitted _ placed

theorem accounts_of_changeSetPursuit (hactive : m.isDeleting = false)
    (hstack : t.stackLookup (.ok found) ∈ seen)
    (hmove : StackMove.ofFound found = .changeSet isCreate recovering)
    (h : t.ChangeSetPursuit isCreate es reference st) : m.Accounts seen es := by
  have hseen : ∀ e : Exchange, e ∈ seen ++ [e] := fun e => List.mem_append_right _ (by simp)
  have hdeletion : ∀ (d : ChangeSetDescription) answer, d.phase = .empty ∨ d.phase = .failed →
      m.Accounts seen [t.changeSetLookup (.ok (some d)), t.deletion d.handle answer] :=
    fun d answer hphase =>
      ⟨trivial, ⟨hactive, t.changeSet, d, hseen _, rfl, hphase⟩, trivial⟩
  have hexecution : ∀ (d : ChangeSetDescription) answer, d.move = .execute →
      m.Accounts seen [t.changeSetLookup (.ok (some d)), t.execution d.handle answer] := by
    intro d answer hexecute
    have hphase := d.phase_of_move
    rw [hexecute] at hphase
    exact ⟨trivial, ⟨hactive, t.changeSet, d, hseen _, rfl,
      ChangeSetDescription.available_of_readyForExecution hphase⟩, trivial⟩
  have hempty : ∀ d : ChangeSetDescription, d.move = .deleteEmpty → d.phase = .empty := by
    intro d hmove
    have hphase := d.phase_of_move
    rwa [hmove] at hphase
  cases h with
  | unseen => exact ⟨trivial, trivial⟩
  | waiting _ => exact ⟨trivial, trivial⟩
  | unexpected _ => exact ⟨trivial, trivial⟩
  | executed _ => exact ⟨trivial, trivial⟩
  | missing hmissing hsubmitted =>
    exact ⟨trivial, accounts_of_submitted hactive (List.mem_append_left _ hstack) hmove (hseen _)
      hmissing hsubmitted⟩
  | executing hexecute => exact hexecution _ _ hexecute
  | notExecuted hexecute => exact hexecution _ _ hexecute
  | emptyDropped hdelete => exact hdeletion _ _ (.inl (hempty _ hdelete))
  | emptyKept hdelete => exact hdeletion _ _ (.inl (hempty _ hdelete))
  | @failedDeletion d message answer hdelete =>
    have hphase := d.phase_of_move
    rw [hdelete] at hphase
    exact hdeletion d answer (.inr hphase)

theorem accounts_of_pursuit (hactive : m.isDeleting = false) (h : t.Pursuit es reference st) :
    m.Accounts [] es := by
  have hcall : ∀ {found : Option StackDescription} {e : Exchange},
      m.Justifies [t.stackLookup (.ok found)] e.request →
      m.Accounts [] [t.stackLookup (.ok found), e] := fun h => ⟨trivial, h, trivial⟩
  cases h with
  | unseen => exact ⟨trivial, trivial⟩
  | waiting _ => exact ⟨trivial, trivial⟩
  | unexpected _ => exact ⟨trivial, trivial⟩
  | @rollingBack found answer hmove =>
    cases found with
    | none => cases hmove
    | some s =>
      have hphase := s.phase_of_move
      rw [show s.move = .continueRollback from hmove] at hphase
      exact hcall ⟨hactive, s, List.mem_singleton_self _,
        StackPhase.status_of_rollbackContinuationNeeded hphase⟩
  | @deleting found message answer hmove =>
    cases found with
    | none => cases hmove
    | some s =>
      have hphase := s.phase_of_move
      rw [show s.move = .deleteUnrecoverable message from hmove] at hphase
      exact hcall ⟨s, List.mem_singleton_self _, .inr ⟨hactive, hphase⟩⟩
  | changeSet hmove hpursuit =>
    exact ⟨trivial, accounts_of_changeSetPursuit hactive (List.mem_singleton_self _) hmove hpursuit⟩

/-! ## How many calls -/

theorem sorts_of_submitted (h : t.Submitted isCreate ref es reference st) :
    (sorts es).Sublist [.upload, .change] := by
  have hsubmission : ∀ template answer, (t.submission isCreate template answer).request.sort? =
      some .change := by
    cases isCreate <;> exact fun _ _ => rfl
  have hsubmitted : ∀ {placing : List Exchange} {template : TemplateSource} answer,
      t.Placed placing template →
      (sorts (placing ++ [t.submission isCreate template answer])).Sublist [.upload, .change] := by
    intro placing template answer placed
    have hlast : sorts [t.submission isCreate template answer] = [.change] := by
      simp only [sorts, List.filterMap_cons, hsubmission, List.filterMap_nil]
    cases placed with
    | inline _ _ =>
      rw [List.nil_append, hlast]
      simp
    | uploaded _ =>
      refine List.Sublist.cons_cons CallSort.upload ?_
      show (sorts [t.submission isCreate _ answer]).Sublist _
      exact hlast ▸ List.Sublist.refl _
  cases h with
  | oversized _ _ => exact List.nil_sublist _
  | notUploaded _ => exact .cons_cons _ (List.nil_sublist _)
  | refused placed => exact hsubmitted _ placed
  | accepted placed => exact hsubmitted _ placed

theorem sorts_of_changeSetPursuit (h : t.ChangeSetPursuit isCreate es reference st) :
    (sorts es).Sublist [.changeSetLookup, .upload, .change] := by
  have hlooked : [CallSort.changeSetLookup].Sublist [.changeSetLookup, .upload, .change] := by
    simp
  have hcalled : [CallSort.changeSetLookup, .change].Sublist
      [.changeSetLookup, .upload, .change] := by simp
  cases h with
  | missing _ hsubmitted => exact .cons_cons _ (sorts_of_submitted hsubmitted)
  | unseen | waiting _ | unexpected _ | executed _ => exact hlooked
  | executing _ | notExecuted _ | emptyDropped _ | emptyKept _ | failedDeletion _ => exact hcalled

theorem sorts_of_pursuit (h : t.Pursuit es reference st) : (sorts es).Sublist CallSort.order := by
  cases h with
  | changeSet _ hpursuit => exact .cons_cons _ (sorts_of_changeSetPursuit hpursuit)
  | unseen | waiting _ | unexpected _ => exact CallSort.lookup_sublist_order
  | rollingBack _ | deleting _ => exact CallSort.lookup_change_sublist_order

end TargetStack

/-! ## Tearing down -/

namespace Operator

variable {o : Operator} {m : Manifest} {es : List Exchange} {out : Outcome}

/-- What a round that tears down says to the cloud. A deletion is asked for when the stack was found
in a status it can be deleted from, and then only. -/
inductive Teardown (o : Operator) (m : Manifest) : List Exchange → Prop where
  | looked {answer : CloudAnswer (Option StackDescription)} :
      Teardown o m [⟨.describeStack (m.spec.regionOr o.settings.defaultRegion) m.spec.stackName,
        answer⟩]
  | deleted {s : StackDescription} {answer : CloudAnswer Unit} : s.status ≠ "DELETE_COMPLETE" →
      s.phase ≠ .inProgress →
      Teardown o m [⟨.describeStack (m.spec.regionOr o.settings.defaultRegion) m.spec.stackName,
        .ok (some s)⟩,
        ⟨.deleteStack (m.spec.regionOr o.settings.defaultRegion) m.spec.stackName, answer⟩]

theorem Teardown.of_departure (h : Departure (m.stackKey o.settings) es out) : o.Teardown m es := by
  cases h with
  | unseen _ | released _ | unsettled _ _ _ => exact .looked
  | deleting hpresent hsettled _ => exact .deleted hpresent hsettled

theorem Teardown.accounts (hdeleting : m.isDeleting = true)
    (hdestroys : m.spec.destroyStackOnDeletion = true) (h : o.Teardown m es) :
    m.Accounts [] es := by
  cases h with
  | looked => exact ⟨trivial, trivial⟩
  | @deleted s answer hpresent hsettled =>
    exact ⟨trivial, ⟨s, List.mem_singleton_self _, .inl ⟨hdeleting, hdestroys, hpresent, hsettled⟩⟩,
      trivial⟩

theorem Teardown.sorts (h : o.Teardown m es) : (sorts es).Sublist CallSort.order := by
  cases h with
  | looked => exact CallSort.lookup_sublist_order
  | deleted _ _ => exact CallSort.lookup_change_sublist_order

end Operator

/-! ## A whole round -/

namespace Manifest

variable {m : Manifest}

theorem active_of_reconcile (h : m.lifecycleFacts.choice.duty = some .reconcile) :
    m.isDeleting = false ∧ m.hasFinalizer = true ∧ m.spec.suspend = false := by
  unfold lifecycleFacts LifecycleFacts.choice at h
  cases hdeleting : m.isDeleting <;> cases hfinalizer : m.hasFinalizer <;>
    cases hsuspend : m.spec.suspend <;> cases hdestroys : m.spec.destroyStackOnDeletion <;>
    simp_all

end Manifest

namespace Operator

variable {o : Operator} {m : Manifest} {time : String} {es : List Exchange} {out : Outcome}

theorem duty_of_exchanges (h : Ran (o.reconcile time m) es out) (hasks : es ≠ []) :
    m.lifecycleFacts.choice.duty = some .reconcile ∨
      m.lifecycleFacts.choice.duty = some .destroyStack := by
  unfold reconcile at h
  split at h
  · exact absurd (ran_pure_iff.1 h).1 hasks
  · exact absurd (ran_pure_iff.1 h).1 hasks
  · exact absurd (ran_pure_iff.1 h).1 hasks
  · next hduty => exact .inr hduty
  · next hduty => exact .inl hduty

theorem accounts_of_reconcile (h : Ran (o.reconcile time m) es out) :
    m.Accounts [] (remote es) ∧ (sorts (remote es)).Sublist CallSort.order := by
  have hsilent : remote es = [] →
      m.Accounts [] (remote es) ∧ (sorts (remote es)).Sublist CallSort.order := by
    intro hnil
    rw [hnil]
    exact ⟨trivial, List.nil_sublist _⟩
  cases passage_of_reconcile h with
  | idle _ hnil _ => exact hsilent hnil
  | stopped hnil _ _ _ => exact hsilent hnil
  | tornDown hduty _ _ =>
    have hcondemned := Manifest.condemned_iff.2 hduty
    have hteardown := Teardown.of_departure (departure_of_reconcile hcondemned h)
    exact ⟨hteardown.accounts hcondemned.deleting hcondemned.destroys, hteardown.sorts⟩
  | pursued hduty _ hpursuit _ _ _ =>
    obtain ⟨hactive, -, -⟩ := Manifest.active_of_reconcile hduty
    exact ⟨TargetStack.accounts_of_pursuit hactive hpursuit, TargetStack.sorts_of_pursuit hpursuit⟩

/-- One round asks for one change and one upload at most, only about an object that carries the
finalizer and is not suspended, and each call has its reason in what was answered before it. -/
theorem justified_of_reconcile (h : Ran (o.reconcile time m) es out) :
    (sorts es).Sublist CallSort.order ∧
    (es ≠ [] → m.hasFinalizer = true ∧ m.spec.suspend = false) ∧
    ∀ before e after, es = before ++ e :: after → m.Justifies before e.request := by
  obtain ⟨haccounts, hsorts⟩ := accounts_of_reconcile h
  refine ⟨sorts_remote es ▸ hsorts, fun hasks => ?_, fun before e after => haccounts.of_remote⟩
  rcases duty_of_exchanges h hasks with hduty | hduty
  · exact (Manifest.active_of_reconcile hduty).2
  · exact (Manifest.deleting_of_destroyStack hduty).2.2

end Operator

open Sample in
/-- The first round over the sample asks for a change, and it has a reason to. -/
theorem justified_of_reconcile_sample : ∃ (before : List Exchange) (e : Exchange)
    (after : List Exchange),
    (Stage.visit ⟨[], object, .ofNetwork default⟩ "a" true).exchanges = before ++ e :: after ∧
      e.request.sort? = some .change ∧ object.Justifies before e.request := by
  have hduty : object.lifecycleFacts.choice.duty = some .reconcile := rfl
  have hran : Ran (operator.reconcile "2024-05-01T00:00:00+00:00" object)
      (Stage.visit ⟨[], object, .ofNetwork default⟩ "a" true).exchanges
      (Stage.visit ⟨[], object, .ofNetwork default⟩ "a" true).outcome := (supply "a").ran rfl hduty
  have hchange : (Stage.visit ⟨[], object, .ofNetwork default⟩ "a" true).exchanges.any
      (·.request.sort? = some .change) = true := rfl
  obtain ⟨e, he, hsort⟩ := List.any_eq_true.1 hchange
  obtain ⟨before, after, hsplit⟩ := List.append_of_mem he
  obtain ⟨-, -, hjustified⟩ := Operator.justified_of_reconcile hran
  exact ⟨before, e, after, hsplit, of_decide_eq_true hsort, hjustified _ _ _ hsplit⟩

end StackSync
