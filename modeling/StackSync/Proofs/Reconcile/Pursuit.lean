import StackSync.Proofs.Reconcile.Conversation
import StackSync.Proofs.Status.Moves
import StackSync.Reconcile.Operator

/-!
# What one round asks of the cloud

Once a template is loaded, a round looks up the stack, mostly goes on to the change set, and makes
at most one call that changes something. `Pursuit` lists the conversations with the cloud this can
come to, one constructor an ending, together with the reference that is recorded as attempted and
the verdict on `Ready`. That the program has no others is said once, by `pursuit_of_advanceStack`;
what holds of a round against any cloud is then a case analysis, and the program text is not opened
again.
-/

namespace StackSync

open Program

/-- A request for a change set, to create or to update a stack, and its answer. -/
def Program.Exchange.submission (isCreate : Bool) (r : ChangeSetRequest)
    (answer : CloudAnswer ChangeSetHandle) : Exchange :=
  match isCreate with
  | true => ⟨.createStack r, answer⟩
  | false => ⟨.updateStack r, answer⟩

namespace TargetStack

/-- What the request for a change set says about the template, if an upload goes to where it is
sent. -/
def source (t : TargetStack) : TemplateSource :=
  match t.bucket with
  | some bucket => .url (objectUrl bucket t.region t.objectKey)
  | none => .body t.templateBody

/-- How the template gets to the service: inline, or by an upload that answers with its address. -/
inductive Placed (t : TargetStack) : List Exchange → TemplateSource → Prop where
  | inline : t.bucket = none → t.templateBody.utf8ByteSize ≤ inlineLimit →
      Placed t [] (.body t.templateBody)
  | uploaded {bucket url : String} : t.bucket = some bucket →
      Placed t [⟨.uploadTemplate bucket t.region t.objectKey t.templateBody, .ok url⟩] (.url url)

def submission (t : TargetStack) (isCreate : Bool) (template : TemplateSource)
    (answer : CloudAnswer ChangeSetHandle) : Exchange :=
  .submission isCreate (t.request template) answer

/-- Making a change set, when `reference` is what has been attempted before. -/
inductive Submitted (t : TargetStack) (isCreate : Bool) (reference : String) :
    List Exchange → String → ConditionStatus → Prop where
  | oversized : t.bucket = none → inlineLimit < t.templateBody.utf8ByteSize →
      Submitted t isCreate reference [] reference .false
  | notUploaded {bucket : String} {e : CloudError} : t.bucket = some bucket →
      Submitted t isCreate reference
        [⟨.uploadTemplate bucket t.region t.objectKey t.templateBody, .error e⟩] reference .false
  | refused {es : List Exchange} {template : TemplateSource} {e : CloudError} :
      t.Placed es template →
      Submitted t isCreate reference (es ++ [t.submission isCreate template (.error e)])
      reference .false
  | accepted {es : List Exchange} {template : TemplateSource} {handle : ChangeSetHandle} :
      t.Placed es template →
      Submitted t isCreate reference (es ++ [t.submission isCreate template (.ok handle)])
        handle.reference .unknown

def changeSetLookup (t : TargetStack) (answer : CloudAnswer (Option ChangeSetDescription)) :
    Exchange :=
  ⟨.describeChangeSet t.region t.stackName t.changeSet, answer⟩

def stackLookup (t : TargetStack) (answer : CloudAnswer (Option StackDescription)) : Exchange :=
  ⟨.describeStack t.region t.stackName, answer⟩

def deletion (t : TargetStack) (h : ChangeSetHandle) (answer : CloudAnswer Unit) : Exchange :=
  ⟨.deleteChangeSet t.region t.stackName h, answer⟩

def execution (t : TargetStack) (h : ChangeSetHandle) (answer : CloudAnswer Unit) : Exchange :=
  ⟨.executeChangeSet t.region t.stackName h, answer⟩

inductive ChangeSetPursuit (t : TargetStack) (isCreate : Bool) :
    List Exchange → String → ConditionStatus → Prop where
  | unseen {e : CloudError} :
      ChangeSetPursuit t isCreate [t.changeSetLookup (.error e)] t.changeSet.reference .false
  | missing {found : Option ChangeSetDescription} {es : List Exchange} {reference : String}
      {st : ConditionStatus} : ChangeSetMove.ofFound found = .create →
      Submitted t isCreate ((found.map (·.handle)).getD t.changeSet).reference es reference st →
      ChangeSetPursuit t isCreate (t.changeSetLookup (.ok found) :: es) reference st
  | waiting {d : ChangeSetDescription} {message : String} : d.move = .wait message →
      ChangeSetPursuit t isCreate [t.changeSetLookup (.ok (some d))] d.handle.reference .unknown
  | unexpected {d : ChangeSetDescription} {message : String} : d.move = .unexpected message →
      ChangeSetPursuit t isCreate [t.changeSetLookup (.ok (some d))] d.handle.reference .false
  | executed {d : ChangeSetDescription} : d.move = .ready →
      ChangeSetPursuit t isCreate [t.changeSetLookup (.ok (some d))] d.handle.reference .true
  | executing {d : ChangeSetDescription} : d.move = .execute →
      ChangeSetPursuit t isCreate [t.changeSetLookup (.ok (some d)), t.execution d.handle (.ok ())]
        d.handle.reference .unknown
  | notExecuted {d : ChangeSetDescription} {e : CloudError} : d.move = .execute →
      ChangeSetPursuit t isCreate
      [t.changeSetLookup (.ok (some d)), t.execution d.handle (.error e)]
        d.handle.reference .false
  | emptyDropped {d : ChangeSetDescription} : d.move = .deleteEmpty →
      ChangeSetPursuit t isCreate [t.changeSetLookup (.ok (some d)), t.deletion d.handle (.ok ())]
        d.handle.reference .true
  | emptyKept {d : ChangeSetDescription} {e : CloudError} : d.move = .deleteEmpty →
      ChangeSetPursuit t isCreate [t.changeSetLookup (.ok (some d)), t.deletion d.handle (.error e)]
        d.handle.reference .false
  | failedDeletion {d : ChangeSetDescription} {message : String} {answer : CloudAnswer Unit} :
      d.move = .deleteFailed message →
      ChangeSetPursuit t isCreate [t.changeSetLookup (.ok (some d)), t.deletion d.handle answer]
        d.handle.reference .false

/-- A round that has loaded its template. -/
inductive Pursuit (t : TargetStack) : List Exchange → String → ConditionStatus → Prop where
  | unseen {e : CloudError} : Pursuit t [t.stackLookup (.error e)] t.changeSet.reference .false
  | waiting {found : Option StackDescription} {message : String} :
      StackMove.ofFound found = .wait message →
      Pursuit t [t.stackLookup (.ok found)] t.changeSet.reference .unknown
  | unexpected {found : Option StackDescription} {message : String} :
      StackMove.ofFound found = .unexpected message →
      Pursuit t [t.stackLookup (.ok found)] t.changeSet.reference .false
  | rollingBack {found : Option StackDescription} {answer : CloudAnswer Unit} :
      StackMove.ofFound found = .continueRollback →
      Pursuit t [t.stackLookup (.ok found), ⟨.continueRollback t.region t.stackName, answer⟩]
        t.changeSet.reference .false
  | deleting {found : Option StackDescription} {message : String} {answer : CloudAnswer Unit} :
      StackMove.ofFound found = .deleteUnrecoverable message →
      Pursuit t [t.stackLookup (.ok found), ⟨.deleteStack t.region t.stackName, answer⟩]
        t.changeSet.reference .false
  | changeSet {found : Option StackDescription} {isCreate recovering : Bool} {es : List Exchange}
      {reference : String} {st : ConditionStatus} :
      StackMove.ofFound found = .changeSet isCreate recovering →
      ChangeSetPursuit t isCreate es reference st →
      Pursuit t (t.stackLookup (.ok found) :: es) reference st

end TargetStack

/-! ## What a round writes -/

def Outcome.Writes (o : Outcome) (s : Status) (a : Attempt) (st : ConditionStatus) : Prop :=
  ∃ d, o.status = some d ∧ s.Moves a st d

namespace Round

variable (r : Round)

theorem wait_writes (message : String) : (r.wait message).Writes r.current r.attempt .unknown :=
  ⟨_, rfl, .progressing message⟩

theorem succeed_writes (message : String) : (r.succeed message).Writes r.current r.attempt .true :=
  ⟨_, rfl, .ready message⟩

theorem fail_writes (reason message : String) :
    (r.fail reason message).Writes r.current r.attempt .false :=
  ⟨_, rfl, .notReady reason message⟩

theorem failByStatus_writes (message : String) :
    (r.failByStatus message).Writes r.current r.attempt .false :=
  ⟨_, rfl, .notReady _ message⟩

theorem failByCloud_writes (reason message : String) :
    (r.failByCloud reason message).Writes r.current r.attempt .false :=
  ⟨_, rfl, .notReady reason message⟩

theorem failByCall_writes (action : String) (e : CloudError) :
    (r.failByCall action e).Writes r.current r.attempt .false :=
  ⟨_, rfl, .notReady _ _⟩

def attemptOn (reference : String) : Attempt := { r.attempt with changeSet := some reference }

theorem attemptOn_eq {reference : String} (h : r.attempt.changeSet = some reference) :
    r.attemptOn reference = r.attempt := by
  unfold attemptOn
  rw [← h]

end Round

namespace Operator

variable {r : Round} {t : TargetStack} {isCreate : Bool} {es : List Exchange} {x : Round × Outcome}
  {reference : String}

/-! ## The program is a pursuit -/

theorem submitted_of_requestChangeSet {template : TemplateSource} {placing : List Exchange}
    (href : r.attempt.changeSet = some reference) (placed : t.Placed placing template)
    (h : Ran (requestChangeSet r t isCreate template) es x) :
    ∃ ref st, t.Submitted isCreate reference (placing ++ remote es) ref st ∧
      x.2.Writes r.current (r.attemptOn ref) st := by
  have hanswer : (∃ e message, es = [t.submission isCreate template (.error e)] ∧
      x.2 = r.failByCall message e) ∨
      ∃ handle message, es = [t.submission isCreate template (.ok handle)] ∧
        x.2 = (r.withChangeSet handle).wait message := by
    unfold requestChangeSet at h
    cases isCreate <;>
      obtain ⟨answer, rest, rfl, hrest⟩ := ran_request_bind_iff.1 h <;>
      cases answer <;>
      obtain ⟨rfl, rfl⟩ := ran_pure_iff.1 hrest
    · exact .inl ⟨_, _, rfl, rfl⟩
    · exact .inr ⟨_, _, rfl, rfl⟩
    · exact .inl ⟨_, _, rfl, rfl⟩
    · exact .inr ⟨_, _, rfl, rfl⟩
  have hremote : ∀ answer, remote [t.submission isCreate template answer] =
      [t.submission isCreate template answer] := by
    cases isCreate <;> exact fun _ => rfl
  rcases hanswer with ⟨e, message, rfl, hx⟩ | ⟨handle, message, rfl, hx⟩
  · refine ⟨reference, .false, ?_, ?_⟩
    · rw [hremote]
      exact .refused placed
    · rw [hx, r.attemptOn_eq href]
      exact r.failByCall_writes _ e
  · refine ⟨handle.reference, .unknown, ?_, ?_⟩
    · rw [hremote]
      exact .accepted placed
    · rw [hx]
      exact (r.withChangeSet handle).wait_writes _

theorem submitted_of_submitTemplate (href : r.attempt.changeSet = some reference)
    (h : Ran (submitTemplate r t isCreate) es x) :
    ∃ ref st, t.Submitted isCreate reference (remote es) ref st ∧
      x.2.Writes r.current (r.attemptOn ref) st := by
  unfold submitTemplate at h
  split at h
  · next bucket hbucket =>
    obtain ⟨answer, rest, rfl, hrest⟩ := ran_request_bind_iff.1 h
    cases answer with
    | error e =>
      obtain ⟨rfl, rfl⟩ := ran_pure_iff.1 hrest
      refine ⟨reference, .false, .notUploaded hbucket, ?_⟩
      rw [r.attemptOn_eq href]
      exact r.failByCloud_writes _ _
    | ok url => exact submitted_of_requestChangeSet href (.uploaded hbucket) hrest
  · next hbucket =>
    split at h
    · next hsize =>
      obtain ⟨rfl, rfl⟩ := ran_pure_iff.1 h
      refine ⟨reference, .false, .oversized hbucket hsize, ?_⟩
      rw [r.attemptOn_eq href]
      exact r.fail_writes _ _
    · next hsize =>
        exact submitted_of_requestChangeSet href (.inline hbucket (Nat.not_lt.1 hsize)) h

theorem attempt_of_found (href : r.attempt.changeSet = some t.changeSet.reference)
    (found : Option ChangeSetDescription) :
    let handle := (found.map (·.handle)).getD t.changeSet
    let r' := if found.isSome then r.withChangeSet handle else r
    r'.current = r.current ∧ r'.attempt = r.attemptOn handle.reference := by
  cases found with
  | none => exact ⟨rfl, (r.attemptOn_eq href).symm⟩
  | some d => exact ⟨rfl, rfl⟩

theorem pursuit_of_advanceChangeSet (href : r.attempt.changeSet = some t.changeSet.reference)
    (h : Ran (advanceChangeSet r t isCreate) es x) :
    ∃ ref st, t.ChangeSetPursuit isCreate (remote es) ref st ∧
      x.2.Writes r.current (r.attemptOn ref) st := by
  unfold advanceChangeSet at h
  obtain ⟨answer, rest, rfl, hrest⟩ := ran_request_bind_iff.1 h
  cases answer with
  | error e =>
    obtain ⟨rfl, rfl⟩ := ran_pure_iff.1 hrest
    refine ⟨_, .false, .unseen, ?_⟩
    rw [r.attemptOn_eq href]
    exact r.failByCall_writes _ e
  | ok found =>
    obtain ⟨hcurrent, hattempt⟩ := attempt_of_found href found
    dsimp only at hrest hcurrent hattempt
    generalize (if found.isSome = true then
        r.withChangeSet ((found.map (·.handle)).getD t.changeSet) else r) = r'
      at hrest hcurrent hattempt
    rw [← hcurrent]
    cases found with
    | none =>
      have href' : r'.attempt.changeSet = some t.changeSet.reference := by rw [hattempt]; rfl
      obtain ⟨ref, st, hsubmitted, hwrites⟩ := submitted_of_submitTemplate href' hrest
      refine ⟨ref, st, .missing rfl hsubmitted, ?_⟩
      simpa only [Round.attemptOn, hattempt] using hwrites
    | some d =>
      -- Whatever is done about the change set, it is addressed by the handle it was found with.
      have hfound : ChangeSetMove.ofFound (some d) = d.move := rfl
      simp only [Option.map_some, Option.getD_some] at hattempt hrest
      rw [hfound] at hrest
      cases hmove : d.move with
      | create =>
        rw [hmove] at hrest
        have href' : r'.attempt.changeSet = some d.handle.reference := by rw [hattempt]; rfl
        obtain ⟨ref, st, hsubmitted, hwrites⟩ := submitted_of_submitTemplate href' hrest
        refine ⟨ref, st, .missing (hfound.trans hmove) hsubmitted, ?_⟩
        simpa only [Round.attemptOn, hattempt] using hwrites
      | deleteEmpty =>
        rw [hmove] at hrest
        obtain ⟨answer, more, rfl, hmore⟩ := ran_request_bind_iff.1 hrest
        cases answer with
        | error e =>
          obtain ⟨rfl, rfl⟩ := ran_pure_iff.1 hmore
          refine ⟨_, .false, .emptyKept hmove, ?_⟩
          rw [← hattempt]
          exact r'.failByCall_writes _ e
        | ok done =>
          obtain ⟨rfl, rfl⟩ := ran_pure_iff.1 hmore
          refine ⟨_, .true, .emptyDropped hmove, ?_⟩
          rw [← hattempt]
          exact r'.succeed_writes _
      | deleteFailed message =>
        rw [hmove] at hrest
        obtain ⟨answer, more, rfl, hmore⟩ := ran_request_bind_iff.1 hrest
        refine ⟨d.handle.reference, .false, ?_⟩
        rw [← hattempt]
        cases answer with
        | error e =>
          obtain ⟨rfl, rfl⟩ := ran_pure_iff.1 hmore
          exact ⟨.failedDeletion hmove, r'.failByCall_writes _ e⟩
        | ok done =>
          obtain ⟨first, last, r'', rfl, hemit, hlast⟩ := ran_bind_iff.1 hmore
          obtain ⟨hquiet, rfl⟩ := remote_of_emit hemit
          obtain ⟨rfl, rfl⟩ := ran_pure_iff.1 hlast
          rw [List.append_nil, remote_cons_of_isRemote rfl, remote_cons_of_isRemote rfl, hquiet]
          exact ⟨.failedDeletion hmove, r'.fail_writes _ _⟩
      | wait message =>
        rw [hmove] at hrest
        obtain ⟨rfl, rfl⟩ := ran_pure_iff.1 hrest
        refine ⟨_, .unknown, .waiting hmove, ?_⟩
        rw [← hattempt]
        exact r'.wait_writes _
      | ready =>
        rw [hmove] at hrest
        obtain ⟨rfl, rfl⟩ := ran_pure_iff.1 hrest
        refine ⟨_, .true, .executed hmove, ?_⟩
        rw [← hattempt]
        exact r'.succeed_writes _
      | execute =>
        rw [hmove] at hrest
        obtain ⟨answer, more, rfl, hmore⟩ := ran_request_bind_iff.1 hrest
        cases answer with
        | error e =>
          obtain ⟨rfl, rfl⟩ := ran_pure_iff.1 hmore
          refine ⟨_, .false, .notExecuted hmove, ?_⟩
          rw [← hattempt]
          exact r'.failByCall_writes _ e
        | ok done =>
          obtain ⟨first, last, r'', rfl, hemit, hlast⟩ := ran_bind_iff.1 hmore
          obtain ⟨hquiet, rfl⟩ := remote_of_emit hemit
          obtain ⟨rfl, rfl⟩ := ran_pure_iff.1 hlast
          rw [List.append_nil, remote_cons_of_isRemote rfl, remote_cons_of_isRemote rfl, hquiet]
          refine ⟨_, .unknown, .executing hmove, ?_⟩
          rw [← hattempt]
          exact r'.wait_writes _
      | unexpected message =>
        rw [hmove] at hrest
        obtain ⟨first, last, r'', rfl, hemit, hlast⟩ := ran_bind_iff.1 hrest
        obtain ⟨hquiet, rfl⟩ := remote_of_emit hemit
        obtain ⟨rfl, rfl⟩ := ran_pure_iff.1 hlast
        rw [List.append_nil, remote_cons_of_isRemote rfl, hquiet]
        refine ⟨_, .false, .unexpected hmove, ?_⟩
        rw [← hattempt]
        exact r'.failByStatus_writes _

theorem pursuit_of_advanceStack (href : r.attempt.changeSet = some t.changeSet.reference)
    (h : Ran (advanceStack r t) es x) :
    ∃ ref st, t.Pursuit (remote es) ref st ∧ x.2.Writes r.current (r.attemptOn ref) st := by
  unfold advanceStack at h
  obtain ⟨answer, rest, rfl, hrest⟩ := ran_request_bind_iff.1 h
  rw [remote_cons_of_isRemote rfl]
  cases answer with
  | error e =>
    obtain ⟨rfl, rfl⟩ := ran_pure_iff.1 hrest
    refine ⟨_, .false, .unseen, ?_⟩
    rw [r.attemptOn_eq href]
    exact r.failByCall_writes _ e
  | ok found =>
    dsimp only at hrest
    cases hmove : StackMove.ofFound found with
    | changeSet isCreate recovering =>
      rw [hmove] at hrest
      have hpursuit : ∃ ref st, t.ChangeSetPursuit isCreate (remote rest) ref st ∧
          x.2.Writes r.current (r.attemptOn ref) st := by
        cases recovering with
        | false => exact pursuit_of_advanceChangeSet href hrest
        | true =>
          obtain ⟨first, last, r', rfl, hemit, hlast⟩ := ran_bind_iff.1 hrest
          obtain ⟨hquiet, rfl⟩ := remote_of_emit hemit
          rw [remote_append, hquiet, List.nil_append]
          exact pursuit_of_advanceChangeSet (r := { r with emitted := true }) href hlast
      obtain ⟨ref, st, hchangeSet, hwrites⟩ := hpursuit
      exact ⟨ref, st, .changeSet hmove hchangeSet, hwrites⟩
    | wait message =>
      rw [hmove] at hrest
      obtain ⟨rfl, rfl⟩ := ran_pure_iff.1 hrest
      refine ⟨_, .unknown, .waiting hmove, ?_⟩
      rw [r.attemptOn_eq href]
      exact r.wait_writes message
    | continueRollback =>
      rw [hmove] at hrest
      obtain ⟨answer, more, rfl, hmore⟩ := ran_request_bind_iff.1 hrest
      refine ⟨t.changeSet.reference, .false, ?_⟩
      rw [r.attemptOn_eq href]
      cases answer with
      | error e =>
        obtain ⟨rfl, rfl⟩ := ran_pure_iff.1 hmore
        exact ⟨.rollingBack hmove, r.failByCall_writes _ e⟩
      | ok done =>
        obtain ⟨rfl, rfl⟩ := ran_pure_iff.1 hmore
        exact ⟨.rollingBack hmove, r.fail_writes _ _⟩
    | deleteUnrecoverable message =>
      rw [hmove] at hrest
      obtain ⟨answer, more, rfl, hmore⟩ := ran_request_bind_iff.1 hrest
      refine ⟨t.changeSet.reference, .false, ?_⟩
      rw [r.attemptOn_eq href]
      cases answer with
      | error e =>
        obtain ⟨rfl, rfl⟩ := ran_pure_iff.1 hmore
        exact ⟨.deleting hmove, r.failByCall_writes _ e⟩
      | ok done =>
        obtain ⟨rfl, rfl⟩ := ran_pure_iff.1 hmore
        exact ⟨.deleting hmove, r.fail_writes _ message⟩
    | unexpected message =>
      rw [hmove] at hrest
      obtain ⟨rfl, rfl⟩ := ran_pure_iff.1 hrest
      refine ⟨_, .false, .unexpected hmove, ?_⟩
      rw [r.attemptOn_eq href]
      exact r.failByStatus_writes message

end Operator

end StackSync
