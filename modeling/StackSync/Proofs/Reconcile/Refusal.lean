import StackSync.Proofs.Reconcile.Course

/-!
# Requests for change sets that are refused

The name of a change set is meant to be the lock that keeps two rounds from making it twice. A round
looks the change set up first, and asks for a new one only if it found none, so a request would be
refused as existing only if the look-up had missed what has the name. By name it never misses. By a
recorded ARN it does, once that change set has been taken away and another made under the same name:
then the round finds nothing, asks, and is refused, and so is every round after it.

Along the course of one attempt this needs a lost write, because a round that makes a change set
also records its ARN. The invariant ties the record to the change sets that live: the one there is,
if there is one, is what the recorded handle finds, unless a round that made a change set has failed
to write its status.
-/

namespace StackSync

open Program MemoryCloud

def submissionOperation : (isCreate : Bool) → CloudOperation
  | true => .createStack
  | false => .updateStack

def Program.Exchange.isSubmission : Exchange → Bool
  | ⟨.createStack _, _⟩ | ⟨.updateStack _, _⟩ => true
  | _ => false

/-- A request for a change set that was refused because there is one of the name. -/
def Program.Exchange.isRefused : Exchange → Bool
  | ⟨.createStack r, Except.error e⟩ | ⟨.updateStack r, Except.error e⟩ =>
      e == alreadyExists r.changeSetName
  | _ => false

theorem exists_submission_of_isRefused {e : Exchange} (h : e.isRefused = true) :
    ∃ isCreate r, e = Exchange.submission isCreate r (.error (alreadyExists r.changeSetName)) := by
  obtain ⟨request, answer⟩ := e
  cases request <;> try cases h
  case createStack r =>
    cases answer with
    | ok handle => cases h
    | error e =>
      obtain rfl := beq_iff_eq.1 h
      exact ⟨true, r, rfl⟩
  case updateStack r =>
    cases answer with
    | ok handle => cases h
    | error e =>
      obtain rfl := beq_iff_eq.1 h
      exact ⟨false, r, rfl⟩

theorem exists_submission_of_isSubmission {e : Exchange} (h : e.isSubmission = true) :
    ∃ isCreate r answer, e = Exchange.submission isCreate r answer := by
  obtain ⟨request, answer⟩ := e
  cases request with
  | createStack r => exact ⟨true, r, answer, rfl⟩
  | updateStack r => exact ⟨false, r, answer, rfl⟩
  | _ => cases h

theorem isRemote_of_isSubmission {e : Exchange} (h : e.isSubmission = true) :
    e.request.isRemote = true := by
  obtain ⟨request, answer⟩ := e
  cases request with
  | createStack | updateStack => rfl
  | _ => cases h

theorem not_isSubmission_of_remote {es : List Exchange}
    (h : ∀ e ∈ remote es, e.isSubmission = false) :
    ∀ e ∈ es, e.isSubmission = false := by
  intro e he
  cases hsubmission : e.isSubmission with
  | false => rfl
  | true =>
    have hremote := h e (List.mem_filter.2 ⟨he, isRemote_of_isSubmission hsubmission⟩)
    rw [hsubmission] at hremote
    cases hremote

theorem isSubmission_submission (isCreate : Bool) (r : ChangeSetRequest)
    (answer : CloudAnswer ChangeSetHandle) :
    (Exchange.submission isCreate r answer).isSubmission = true := by
  cases isCreate <;> rfl

theorem submission_not_mem {es : List Exchange} (h : ∀ e ∈ es, e.isSubmission = false)
    (isCreate : Bool) (r : ChangeSetRequest) (answer : CloudAnswer ChangeSetHandle) :
    Exchange.submission isCreate r answer ∉ es := by
  intro hmem
  have hsubmission := isSubmission_submission isCreate r answer
  rw [h _ hmem] at hsubmission
  cases hsubmission

theorem submission_inj {isCreate isCreate' : Bool} {r r' : ChangeSetRequest}
    {answer answer' : CloudAnswer ChangeSetHandle}
    (h : Exchange.submission isCreate r answer = Exchange.submission isCreate' r' answer') :
    isCreate = isCreate' ∧ r = r' ∧ answer = answer' := by
  cases isCreate <;> cases isCreate' <;> cases h <;> exact ⟨rfl, rfl, rfl⟩

namespace TargetStack

variable {t : TargetStack} {c c' : MemoryCloud} {es : List Exchange} {reference : String}
  {st : ConditionStatus} {isCreate : Bool} {answer : CloudAnswer ChangeSetHandle}

/-- The request a round makes is refused as existing exactly if the name is taken, unless the
operation fails. -/
theorem refused_iff_taken (hallows : t.StackAllows c isCreate) {template : TemplateSource}
    (hr : Replay c [t.submission isCreate template answer] c')
    (hworks : c.failures.lookup (submissionOperation isCreate) = none) :
    answer = .error (alreadyExists t.changeSet.name) ↔ c.Taken t.key t.changeSet.name := by
  cases isCreate with
  | true =>
    obtain ⟨c₁, hanswer, -⟩ := replay_cons_iff.1 hr
    rcases createStack_law hanswer with ⟨_, hfails, -⟩ | ⟨-, htaken, rfl, -⟩ | ⟨-, hfree, rfl, -⟩
    · exact absurd (hfails.symm.trans hworks) (by simp)
    · exact iff_of_true rfl htaken
    · exact iff_of_false (by simp) hfree
  | false =>
    obtain ⟨c₁, hanswer, -⟩ := replay_cons_iff.1 hr
    rcases updateStack_law hanswer with
      ⟨_, hfails, -⟩ | ⟨-, htaken, rfl, -⟩ | ⟨-, -, hmissing, -⟩ | ⟨s, -, hfree, -, rfl, -⟩
    · exact absurd (hfails.symm.trans hworks) (by simp)
    · exact iff_of_true rfl htaken
    · obtain ⟨s, hstack, -⟩ := hallows
      exact absurd (hstack.symm.trans hmissing) (by simp)
    · exact iff_of_false (by simp) hfree

theorem not_submission_of_placed {template : TemplateSource} (h : t.Placed es template) :
    ∀ e ∈ es, e.isSubmission = false := by
  cases h with
  | inline => exact List.forall_mem_nil _
  | uploaded => exact List.forall_mem_singleton.2 rfl

/-- The request a round makes is the last exchange it has. -/
theorem submission_of_submitted {isCreate' : Bool} {r : ChangeSetRequest} {ref : String}
    (h : t.Submitted isCreate ref es reference st) (hr : Replay c es c')
    (hmem : Exchange.submission isCreate' r answer ∈ es) :
    isCreate' = isCreate ∧ ∃ template, r = t.request template ∧
      Replay c [t.submission isCreate template answer] c' := by
  have hlast : ∀ {placing : List Exchange} {template : TemplateSource}
      {answer' : CloudAnswer ChangeSetHandle},
      t.Placed placing template →
      Replay c (placing ++ [t.submission isCreate template answer']) c' →
      Exchange.submission isCreate' r answer ∈ placing ++ [t.submission isCreate template answer'] →
      isCreate' = isCreate ∧ ∃ template, r = t.request template ∧
        Replay c [t.submission isCreate template answer] c' := by
    intro placing template answer' placed hreplay hmem
    obtain ⟨c₁, hplacing, hsubmission⟩ := replay_append_iff.1 hreplay
    obtain ⟨rfl, -, -⟩ := source_of_placed placed hplacing
    rcases List.mem_append.1 hmem with hmem | hmem
    · exact absurd hmem (submission_not_mem (not_submission_of_placed placed) _ _ _)
    · obtain ⟨rfl, rfl, rfl⟩ := submission_inj (List.mem_singleton.1 hmem)
      exact ⟨rfl, template, rfl, hsubmission⟩
  cases h with
  | oversized => cases hmem
  | notUploaded => exact absurd hmem (submission_not_mem (List.forall_mem_singleton.2 rfl) _ _ _)
  | refused placed => exact hlast placed hr hmem
  | accepted placed => exact hlast placed hr hmem

/-- A round asks for a change set only if it has found none that it could go on with, and then the
request is refused as existing exactly if the name is taken, unless the operation is made to
fail. -/
theorem submission_of_changeSetPursuit {isCreate' : Bool} {r : ChangeSetRequest}
    (h : t.ChangeSetPursuit isCreate es reference st) (hallows : t.StackAllows c isCreate)
    (hr : Replay c es c') (hmem : Exchange.submission isCreate' r answer ∈ es) :
    t.Vacant c ∧ r.changeSetName = t.changeSet.name ∧
      (c.failures.lookup (submissionOperation isCreate') = none →
        (answer = .error (alreadyExists t.changeSet.name) ↔ c.Taken t.key t.changeSet.name)) := by
  have hquiet : ∀ {es : List Exchange}, (∀ e ∈ es, e.isSubmission = false) →
      Exchange.submission isCreate' r answer ∉ es :=
    fun hes => submission_not_mem hes _ _ _
  cases h with
  | @missing found rest _ _ hmove hsubmitted =>
    obtain ⟨c₁, hs, hrest, hfound⟩ := replay_changeSetLookup hr
    have hmem' : Exchange.submission isCreate' r answer ∈ rest := by
      rcases List.mem_cons.1 hmem with heq | hmem
      · exact absurd (List.mem_singleton.2 heq) (hquiet (List.forall_mem_singleton.2 rfl))
      · exact hmem
    obtain ⟨rfl, template, rfl, hsubmission⟩ := submission_of_submitted hsubmitted hrest hmem'
    refine ⟨?_, rfl, fun hworks => ?_⟩
    · have hfound := hfound found rfl
      cases found with
      | none => exact .inl (Option.map_eq_none_iff.1 hfound.symm)
      | some d =>
        obtain ⟨id, s, hfind, rfl⟩ := find?_of_found hfound
        have hphase := ChangeSetDescription.phase_of_move (description (id, s))
        rw [show (description (id, s)).move = .create from hmove] at hphase
        exact .inr ⟨id, s, hfind, hphase⟩
    · rw [← hs.taken_iff]
      rw [← hs.failures] at hworks
      exact refused_iff_taken (hallows.of_sameStore hs) hsubmission hworks
  | unseen => exact absurd hmem (hquiet (List.forall_mem_singleton.2 rfl))
  | waiting => exact absurd hmem (hquiet (List.forall_mem_singleton.2 rfl))
  | unexpected => exact absurd hmem (hquiet (List.forall_mem_singleton.2 rfl))
  | executed => exact absurd hmem (hquiet (List.forall_mem_singleton.2 rfl))
  | executing =>
    exact absurd hmem (hquiet (List.forall_mem_cons.2 ⟨rfl, List.forall_mem_singleton.2 rfl⟩))
  | notExecuted =>
    exact absurd hmem (hquiet (List.forall_mem_cons.2 ⟨rfl, List.forall_mem_singleton.2 rfl⟩))
  | emptyDropped =>
    exact absurd hmem (hquiet (List.forall_mem_cons.2 ⟨rfl, List.forall_mem_singleton.2 rfl⟩))
  | emptyKept =>
    exact absurd hmem (hquiet (List.forall_mem_cons.2 ⟨rfl, List.forall_mem_singleton.2 rfl⟩))
  | failedDeletion =>
    exact absurd hmem (hquiet (List.forall_mem_cons.2 ⟨rfl, List.forall_mem_singleton.2 rfl⟩))

theorem submission_of_pursuit {isCreate' : Bool} {r : ChangeSetRequest}
    (h : t.Pursuit es reference st)
    (hr : Replay c es c') (hmem : Exchange.submission isCreate' r answer ∈ es) :
    t.Vacant c ∧ r.changeSetName = t.changeSet.name ∧
      (c.failures.lookup (submissionOperation isCreate') = none →
        (answer = .error (alreadyExists t.changeSet.name) ↔ c.Taken t.key t.changeSet.name)) := by
  have hquiet : ∀ {es : List Exchange}, (∀ e ∈ es, e.isSubmission = false) →
      Exchange.submission isCreate' r answer ∉ es :=
    fun hes => submission_not_mem hes _ _ _
  cases h with
  | unseen => exact absurd hmem (hquiet (List.forall_mem_singleton.2 rfl))
  | waiting => exact absurd hmem (hquiet (List.forall_mem_singleton.2 rfl))
  | unexpected => exact absurd hmem (hquiet (List.forall_mem_singleton.2 rfl))
  | rollingBack =>
    exact absurd hmem (hquiet (List.forall_mem_cons.2 ⟨rfl, List.forall_mem_singleton.2 rfl⟩))
  | deleting =>
    exact absurd hmem (hquiet (List.forall_mem_cons.2 ⟨rfl, List.forall_mem_singleton.2 rfl⟩))
  | @changeSet found isCreate recovering rest _ _ hmove hpursuit =>
    obtain ⟨c₁, hs, hrest, hfound⟩ := replay_stackLookup hr
    have hallows := stackAllows_of_move (hfound _ rfl) hmove
    have hmem' : Exchange.submission isCreate' r answer ∈ rest := by
      rcases List.mem_cons.1 hmem with heq | hmem
      · exact absurd (List.mem_singleton.2 heq) (hquiet (List.forall_mem_singleton.2 rfl))
      · exact hmem
    obtain ⟨hvacant, hname, hiff⟩ :=
      submission_of_changeSetPursuit hpursuit (hallows.of_sameStore hs) hrest hmem'
    refine ⟨hvacant.of_sameStore hs, hname, fun hworks => ?_⟩
    rw [← hs.taken_iff]
    rw [← hs.failures] at hworks
    exact hiff hworks

end TargetStack

theorem Operator.TornDown.not_isSubmission {o : Operator} {m : Manifest} {es : List Exchange}
    (h : o.TornDown m es) : ∀ e ∈ es, e.isSubmission = false := by
  cases h with
  | looked => exact List.forall_mem_singleton.2 rfl
  | deleted => exact List.forall_mem_cons.2 ⟨rfl, List.forall_mem_singleton.2 rfl⟩

/-- Whenever a round asks for a change set, it has loaded a template, found nothing that it could go
on with, and is refused exactly if the name is taken. -/
theorem Visit.Valid.submission {v : Visit} {c c' : MemoryCloud} (h : v.Valid c c') {isCreate : Bool}
    {r : ChangeSetRequest} {answer : CloudAnswer ChangeSetHandle}
    (hmem : Exchange.submission isCreate r answer ∈ v.exchanges) :
    ∃ revision body, v.loaded = some (revision, body) ∧
      (v.operator.targetOf v.object revision body).Vacant c ∧
      r.changeSetName = ChangeSetName.of v.object.generation revision ∧
      (c.failures.lookup (submissionOperation isCreate) = none →
        (answer = .error (alreadyExists r.changeSetName) ↔ c.Taken v.key r.changeSetName)) := by
  have hremote := h.replay.remote
  have hmem' : Exchange.submission isCreate r answer ∈ remote v.exchanges :=
    List.mem_filter.2 ⟨hmem, by cases isCreate <;> rfl⟩
  have hquiet : remote v.exchanges ≠ [] := List.ne_nil_of_mem hmem'
  cases Operator.passage_of_reconcile h.ran with
  | idle _ hnone _ => exact absurd hnone hquiet
  | stopped hnone _ _ _ => exact absurd hnone hquiet
  | tornDown _ htorn _ => exact absurd hmem' (submission_not_mem htorn.not_isSubmission _ _ _)
  | @pursued revision body _ _ _ _ _ hloaded hpursuit _ _ _ =>
    obtain ⟨hvacant, hname, hiff⟩ := TargetStack.submission_of_pursuit hpursuit hremote hmem'
    have hof := hname.trans (v.operator.targetOf_changeSet_name v.object revision body)
    refine ⟨revision, body, (h.loaded _ _).1 hloaded, hvacant, hof, ?_⟩
    rw [hname]
    exact hiff

end StackSync
